import Mathlib.Algebra.BigOperators.Ring.List
import Mathlib.Algebra.Group.Action.Defs
import RagBench.Benchmark.PlanLimits
import RagBench.Grouping

/-!
# The capacity of source windows

The planner takes the first admitted window from its cursor on and never goes
back.  When each window covers one page, a window that is not admitted has its
document or its page used up, so the choices cannot strand capacity.
-/

namespace RagBench

/-! ## Capacity -/

/-- The pages of a document with a window. -/
def documentPages (windows : List SourceWindow) (documentId : String) :
    List ℕ :=
  distinct ((windows.filter fun window =>
    window.documentId = documentId).flatMap SourceWindow.pages)

namespace GenerationConfig

variable (config : GenerationConfig)

/-- How many questions a document can take. -/
def documentLimit (windows : List SourceWindow) (documentId : String) : ℕ :=
  min config.perDocumentCap
    ((documentPages windows documentId).length * config.perPageCap)

/-- How many questions the documents can take together. -/
def sourceCapacity (windows : List SourceWindow) : ℕ :=
  ((distinct (windows.map (·.documentId))).map
    (config.documentLimit windows)).sum

end GenerationConfig

/-- What `plan` raises when the windows do not suffice. -/
def capacityErrors : List PyException :=
  [.valueError "source capacity cannot satisfy quotas and caps",
    .valueError "source capacity exhausted while applying quotas and caps"]

theorem mem_documentPages {windows : List SourceWindow} {documentId : String}
    {page : ℕ} :
    page ∈ documentPages windows documentId ↔
      ∃ window ∈ windows, window.documentId = documentId ∧
        page ∈ window.pages := by
  rw [documentPages, mem_distinct, List.mem_flatMap]
  simp only [List.mem_filter, decide_eq_true_eq, and_assoc]

theorem sourceCapacity_perm (config : GenerationConfig)
    {left right : List SourceWindow} (permuted : left.Perm right) :
    config.sourceCapacity left = config.sourceCapacity right := by
  have limits : config.documentLimit left = config.documentLimit right := by
    funext documentId
    have pages := distinct_perm (List.Perm.flatMap_right SourceWindow.pages
      (permuted.filter fun window => window.documentId = documentId))
    rw [GenerationConfig.documentLimit, GenerationConfig.documentLimit,
      documentPages, documentPages, pages.length_eq]
  rw [GenerationConfig.sourceCapacity, GenerationConfig.sourceCapacity, limits]
  exact ((distinct_perm (permuted.map _)).map _).sum_eq

/-! ## Windows of one page -/

/-- Each window covers a single page. -/
def SinglePages (windows : List SourceWindow) : Prop :=
  ∀ window ∈ windows, window.pageStart = window.pageEnd

theorem SinglePages.pages_eq {windows : List SourceWindow}
    (single : SinglePages windows) {window : SourceWindow}
    (member : window ∈ windows) : window.pages = [window.pageStart] := by
  rw [SourceWindow.pages, ← single window member, Nat.add_sub_cancel_left]
  rfl

section Uses

variable {config : GenerationConfig} {windows : List SourceWindow}
  {jobs : List GenerationJob}

/-- A document is used as often as its pages. -/
theorem documentUses_eq_sum (single : SinglePages windows)
    (from_windows : ∀ job ∈ jobs, job.window ∈ windows)
    (documentId : String) :
    documentUses jobs documentId =
      ((documentPages windows documentId).map fun page =>
        pageUses jobs (documentId, page)).sum := by
  have within : ∀ job ∈ jobs.filter fun job =>
      job.window.documentId = documentId,
      job.window.pageStart ∈ documentPages windows documentId := by
    intro job member
    obtain ⟨member, document⟩ := List.mem_filter.mp member
    refine mem_documentPages.mpr ⟨job.window, from_windows job member,
      of_decide_eq_true document, ?_⟩
    rw [single.pages_eq (from_windows job member)]
    exact List.mem_singleton_self _
  have parts := (flatMap_filter_perm (fun job : GenerationJob =>
    job.window.pageStart) (distinct_nodup _) within).length_eq
  rw [documentUses, List.countP_eq_length_filter, ← parts, List.length_flatMap]
  refine congrArg List.sum (List.map_congr_left fun page _ => ?_)
  rw [List.filter_filter, ← List.countP_eq_length_filter, pageUses]
  refine List.countP_congr fun job member => ?_
  have alone := single job.window (from_windows job member)
  simp only [Bool.and_eq_true, decide_eq_true_eq]
  constructor
  · rintro ⟨rfl, document⟩
    exact ⟨document, le_rfl, alone.le⟩
  · rintro ⟨document, first, last⟩
    exact ⟨le_antisymm first (last.trans alone.ge), document⟩

/-- The jobs are spread over the documents. -/
theorem length_eq_sum_documentUses
    (from_windows : ∀ job ∈ jobs, job.window ∈ windows) :
    jobs.length = ((distinct (windows.map (·.documentId))).map
      (documentUses jobs)).sum := by
  have within : ∀ job ∈ jobs, job.window.documentId ∈
      distinct (windows.map (·.documentId)) := fun job member =>
    mem_distinct.mpr (List.mem_map_of_mem (from_windows job member))
  have parts := (flatMap_filter_perm (fun job : GenerationJob =>
    job.window.documentId) (distinct_nodup _) within).length_eq
  rw [← parts, List.length_flatMap]
  refine congrArg List.sum (List.map_congr_left fun documentId _ => ?_)
  rw [documentUses, List.countP_eq_length_filter]

/-- The caps bound the jobs by the capacity. -/
theorem WithinCaps.length_le (single : SinglePages windows)
    (from_windows : ∀ job ∈ jobs, job.window ∈ windows)
    (within : WithinCaps config jobs) :
    jobs.length ≤ config.sourceCapacity windows := by
  rw [length_eq_sum_documentUses from_windows]
  refine List.sum_le_sum fun documentId _ => ?_
  refine le_min (within.documents documentId) ?_
  rw [documentUses_eq_sum single from_windows]
  have bounded := List.sum_le_card_nsmul
    ((documentPages windows documentId).map fun page =>
      pageUses jobs (documentId, page)) config.perPageCap (by
        intro uses member
        obtain ⟨page, -, rfl⟩ := List.mem_map.mp member
        exact within.pages _)
  rwa [List.length_map, smul_eq_mul] at bounded

/-- Where no window is admitted any more, the capacity is used up. -/
theorem sourceCapacity_le_of_exhausted (single : SinglePages windows)
    (from_windows : ∀ job ∈ jobs, job.window ∈ windows)
    {counts : SourceCounts} (of : counts.Of jobs)
    (exhausted : ∀ window ∈ windows, counts.admits config window = false) :
    config.sourceCapacity windows ≤ jobs.length := by
  rw [length_eq_sum_documentUses from_windows]
  refine List.sum_le_sum fun documentId _ => ?_
  by_cases document : config.perDocumentCap ≤ documentUses jobs documentId
  · exact (min_le_left _ _).trans document
  refine (min_le_right _ _).trans ?_
  rw [documentUses_eq_sum single from_windows]
  have full : ∀ page ∈ documentPages windows documentId,
      config.perPageCap ≤ pageUses jobs (documentId, page) := by
    intro page member
    obtain ⟨window, listed, rfl, inside⟩ := mem_documentPages.mp member
    rw [single.pages_eq listed, List.mem_singleton] at inside
    subst inside
    have refused := exhausted window listed
    simp only [SourceCounts.admits, single.pages_eq listed, List.all_cons,
      List.all_nil, Bool.and_true, of.documents.getD, of.pages.getD,
      decide_eq_true_eq, decide_eq_false_iff_not, not_and, not_lt] at refused
    exact refused (not_le.mp document)
  have bounded := List.card_nsmul_le_sum
    ((documentPages windows documentId).map fun page =>
      pageUses jobs (documentId, page)) config.perPageCap (by
        intro uses member
        obtain ⟨page, listed, rfl⟩ := List.mem_map.mp member
        exact full page listed)
  rwa [List.length_map, smul_eq_mul] at bounded

end Uses

/-! ## The walk over the windows -/

section Walk

variable {config : GenerationConfig} {windows : List SourceWindow}
  {counts : SourceCounts} {cursor : ℕ}

/-- From every cursor on, each index is reached. -/
private theorem exists_offset (cursor : ℕ) {index size : ℕ}
    (within : index < size) :
    ∃ offset < size, (cursor + offset) % size = index := by
  have positive : 0 < size := Nat.zero_lt_of_lt within
  refine ⟨(index + (size - cursor % size)) % size, Nat.mod_lt _ positive, ?_⟩
  have below := Nat.mod_lt cursor positive
  have total : cursor + (index + (size - cursor % size)) =
      index + size * (cursor / size + 1) := by
    have parts := Nat.div_add_mod cursor size
    rw [Nat.mul_add_one]
    omega
  rw [Nat.add_mod_mod, total, Nat.add_mul_mod_self_left,
    Nat.mod_eq_of_lt within]

theorem chooseWindow_eq_none
    (missing : chooseWindow config counts windows cursor = none) :
    ∀ window ∈ windows, counts.admits config window = false := by
  intro window member
  obtain ⟨index, within, rfl⟩ := List.mem_iff_getElem.mp member
  obtain ⟨offset, small, reached⟩ := exists_offset cursor within
  have tried := List.findSome?_eq_none_iff.mp missing offset
    (List.mem_range.mpr small)
  simp only [reached, List.getElem?_eq_getElem within] at tried
  by_contra admitted
  rw [Bool.not_eq_false] at admitted
  rw [if_pos admitted] at tried
  cases tried

theorem mem_of_chooseWindow {window : SourceWindow} {next : ℕ}
    (chosen : chooseWindow config counts windows cursor =
      some (window, next)) : window ∈ windows := by
  obtain ⟨offset, -, tried⟩ := List.exists_of_findSome?_eq_some chosen
  dsimp only at tried
  split at tried
  · next found =>
      split_ifs at tried
      obtain ⟨rfl, -⟩ := Prod.mk.inj (Option.some.inj tried)
      exact List.mem_of_getElem? found
  · cases tried

theorem allocate_windows {kinds : List QuestionType}
    {assigned : List (QuestionType × SourceWindow)}
    (allocated : allocate config windows counts cursor kinds =
      some assigned) :
    ∀ choice ∈ assigned, choice.2 ∈ windows := by
  induction kinds generalizing counts cursor assigned with
  | nil =>
      obtain rfl := Option.some.inj allocated
      exact List.forall_mem_nil _
  | cons kind kinds induction =>
      rw [allocate] at allocated
      cases chosen : chooseWindow config counts windows cursor with
      | none =>
          rw [chosen] at allocated
          cases allocated
      | some choice =>
          obtain ⟨window, next⟩ := choice
          rw [chosen] at allocated
          obtain ⟨rest, later, rfl⟩ := Option.map_eq_some_iff.mp allocated
          exact List.forall_mem_cons.mpr
            ⟨mem_of_chooseWindow chosen, induction later⟩

/-- The walk stops early only when fewer jobs than questions use up the
capacity. -/
theorem sourceCapacity_lt_of_allocate (single : SinglePages windows)
    {kinds : List QuestionType} {jobs : List GenerationJob}
    (from_windows : ∀ job ∈ jobs, job.window ∈ windows)
    (of : counts.Of jobs)
    (stopped : allocate config windows counts cursor kinds = none) :
    config.sourceCapacity windows < jobs.length + kinds.length := by
  induction kinds generalizing counts cursor jobs with
  | nil => cases stopped
  | cons kind kinds induction =>
      rw [List.length_cons]
      rw [allocate] at stopped
      cases chosen : chooseWindow config counts windows cursor with
      | none =>
          have used := sourceCapacity_le_of_exhausted single from_windows of
            (chooseWindow_eq_none chosen)
          omega
      | some choice =>
          obtain ⟨window, next⟩ := choice
          rw [chosen] at stopped
          let job : GenerationJob := ⟨0, kind, window⟩
          have more : ∀ item ∈ jobs ++ [job], item.window ∈ windows := by
            intro item member
            rcases List.mem_append.mp member with before | here
            · exact from_windows item before
            · rw [List.mem_singleton.mp here]
              exact mem_of_chooseWindow chosen
          have later := induction more (of.record job)
            (Option.map_eq_none_iff.mp stopped)
          rw [List.length_append, List.length_singleton] at later
          omega

end Walk

/-! ## Plans -/

section Plan

variable {platform : Platform} {config : GenerationConfig}
  {windows : List SourceWindow}

theorem length_expandedTypes (quotas : Quotas) :
    (expandedTypes quotas).length = totalQuota quotas := by
  rw [expandedTypes, List.length_flatMap, totalQuota, Dict.values]
  simp only [List.length_replicate]

/-- The windows can be walked through exactly when the capacity suffices. -/
theorem allocate_eq_none_iff (single : SinglePages windows)
    (kinds : List QuestionType) :
    allocate config windows .empty 0 kinds = none ↔
      config.sourceCapacity windows < kinds.length := by
  constructor
  · intro stopped
    have missing := sourceCapacity_lt_of_allocate single
      (List.forall_mem_nil _) SourceCounts.of_nil stopped
    rwa [List.length_nil, Nat.zero_add] at missing
  · intro missing
    cases allocated : allocate config windows .empty 0 kinds with
    | none => rfl
    | some assigned =>
        exfalso
        obtain ⟨same, within⟩ : assigned.map Prod.fst = kinds ∧
            WithinCaps config ([] ++ numberJobs 0 assigned) :=
          allocate_within allocated SourceCounts.of_nil
            ⟨fun _ => Nat.zero_le _, fun _ => Nat.zero_le _⟩
        rw [List.nil_append] at within
        have from_windows : ∀ job ∈ numberJobs 0 assigned,
            job.window ∈ windows := by
          intro job member
          obtain ⟨⟨choice, index⟩, listed, rfl⟩ := List.mem_map.mp member
          exact allocate_windows allocated choice
            (List.fst_mem_of_mem_zipIdx listed)
        have bounded := within.length_le single from_windows
        rw [numberJobs, List.length_map, List.length_zipIdx] at bounded
        rw [← same, List.length_map] at missing
        omega

theorem sourceCapacity_le_documentCapacity :
    config.sourceCapacity windows ≤ config.documentCapacity windows := by
  have bounded := List.sum_le_card_nsmul
    ((distinct (windows.map (·.documentId))).map
      (config.documentLimit windows)) config.perDocumentCap (by
        intro limit member
        obtain ⟨documentId, -, rfl⟩ := List.mem_map.mp member
        exact min_le_left _ _)
  rwa [List.length_map, smul_eq_mul] at bounded

theorem sourceCapacity_le_pageCapacity :
    config.sourceCapacity windows ≤ config.pageCapacity windows := by
  let documents := distinct (windows.map (·.documentId))
  let sourcePages := documents.flatMap fun documentId =>
    (documentPages windows documentId).map fun page => (documentId, page)
  have different : sourcePages.Nodup := by
    refine List.nodup_flatMap.mpr ⟨fun documentId _ =>
      (distinct_nodup _).map fun _ _ same => (Prod.mk.inj same).2, ?_⟩
    refine (distinct_nodup _).imp fun {first second} apart => ?_
    intro page left right
    obtain ⟨_, -, rfl⟩ := List.mem_map.mp left
    obtain ⟨_, -, same⟩ := List.mem_map.mp right
    exact apart (Prod.mk.inj same).1.symm
  have listed : sourcePages ⊆ distinct (windows.flatMap fun window =>
      window.pages.map fun page => (window.documentId, page)) := by
    intro page member
    obtain ⟨documentId, -, member⟩ := List.mem_flatMap.mp member
    obtain ⟨number, inside, rfl⟩ := List.mem_map.mp member
    obtain ⟨window, listed, rfl, covered⟩ := mem_documentPages.mp inside
    exact mem_distinct.mpr (List.mem_flatMap.mpr
      ⟨window, listed, List.mem_map_of_mem covered⟩)
  have fewer := (List.subperm_of_subset different listed).length_le
  calc config.sourceCapacity windows
      ≤ (documents.map fun documentId =>
          (documentPages windows documentId).length *
            config.perPageCap).sum :=
        List.sum_le_sum fun _ _ => min_le_right _ _
    _ = sourcePages.length * config.perPageCap := by
        rw [List.sum_map_mul_right, List.length_flatMap]
        simp only [List.length_map]
    _ ≤ config.pageCapacity windows := Nat.mul_le_mul_right _ fewer

/-- A plan fails for lack of capacity only when the capacity is lacking. -/
theorem plan_fails_iff_capacity_missing {corpusSnapshotId modelId : String}
    (hash_errors : ∀ value, ∀ error ∈ capacityErrors,
      platform.canonicalJsonHash value ≠ .error error)
    (started : windows ≠ []) (single : SinglePages windows)
    (bounded : ∀ window ∈ windows,
      window.content.length ≤ config.sourceWindowMaxChars) :
    (∃ error ∈ capacityErrors, config.plan platform windows corpusSnapshotId
        modelId = .error error) ↔
      config.sourceCapacity windows < totalQuota config.quotas := by
  let ordered := windows.mergeSort SourceWindow.before
  have permuted : ordered.Perm windows := List.mergeSort_perm _ _
  have some_window : ordered ≠ [] := fun none =>
    started (List.perm_nil.mp (none ▸ permuted.symm))
  have short : ¬ (ordered.any fun window =>
      window.content.length > config.sourceWindowMaxChars) = true := by
    rw [List.any_eq_true]
    rintro ⟨window, member, long⟩
    exact absurd (bounded window (permuted.mem_iff.mp member))
      (not_le.mpr (of_decide_eq_true long))
  have single_ordered : SinglePages ordered := fun window member =>
    single window (permuted.mem_iff.mp member)
  have walked := @allocate_eq_none_iff config ordered single_ordered
    (expandedTypes config.quotas)
  rw [length_expandedTypes] at walked
  rw [← sourceCapacity_perm config permuted]
  unfold GenerationConfig.plan
  dsimp only
  rw [if_neg some_window, if_neg short]
  by_cases scarce : min (config.documentCapacity ordered)
      (config.pageCapacity ordered) < totalQuota config.quotas
  · rw [if_pos scarce]
    have less := lt_of_le_of_lt (le_min sourceCapacity_le_documentCapacity
      sourceCapacity_le_pageCapacity) scarce
    exact ⟨fun _ => less, fun _ => ⟨_, List.mem_cons_self, rfl⟩⟩
  rw [if_neg scarce]
  cases allocated : allocate config ordered .empty 0
      (expandedTypes config.quotas) with
  | none =>
      exact ⟨fun _ => walked.mp allocated,
        fun _ => ⟨_, List.mem_cons_of_mem _ List.mem_cons_self, rfl⟩⟩
  | some assigned =>
      refine ⟨?_, fun less => ?_⟩
      · rintro ⟨error, known, failed⟩
        cases hashed : platform.canonicalJsonHash (.object
          [("schema", .str "benchmark-generation-plan-v1"),
            ("corpus_snapshot_id", .str corpusSnapshotId),
            ("model_id", .str modelId),
            ("prompt_version", .str config.promptVersion),
            ("config", config.dump),
            ("jobs", .array ((numberJobs 0 assigned).map
              GenerationJob.dump))]) with
        | error other =>
            simp only [hashed] at failed
            cases failed
            exact absurd hashed (hash_errors _ _ known)
        | ok planHash =>
            simp only [hashed] at failed
            cases failed
      · rw [walked.mpr less] at allocated
        cases allocated

end Plan

/-- The second page of the same document. -/
def secondPageWindow : SourceWindow :=
  { onePageWindow with
    windowId := "second"
    pageStart := 2
    pageEnd := 2
    sourceUnits := [⟨2, "chunk", "sales grew by 15 percent"⟩]
    pages_ordered := by decide
    units_within := by decide }

/-- Three facts, two for each page at most. -/
def threeFactsConfig : GenerationConfig :=
  { quotas := .ofList [(.fact, 3)]
    quotas_positive := by
      intro kind count found
      obtain ⟨-, rfl⟩ := Prod.mk.inj (List.mem_singleton.mp
        (Dict.mem_of_get?_ofList found))
      decide
    perPageCap := 2
    batchSize_positive := oneFactConfig.batchSize_positive }

/-- Two pages suffice for three facts. -/
theorem plan_fails_iff_two_pages :
    ¬ ∃ error ∈ capacityErrors, threeFactsConfig.plan constantPlatform
      [onePageWindow, secondPageWindow] "snapshot" "model" = .error error := by
  rw [plan_fails_iff_capacity_missing]
  · decide +kernel
  · intro value error _ failed
    cases failed
  · exact List.cons_ne_nil _ _
  · intro window member
    simp only [List.mem_cons, List.not_mem_nil, or_false] at member
    rcases member with rfl | rfl
    · rfl
    · rfl
  · intro window member
    simp only [List.mem_cons, List.not_mem_nil, or_false] at member
    rcases member with rfl | rfl
    · decide +kernel
    · decide +kernel

end RagBench
