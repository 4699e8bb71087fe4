import RagBench.Counters
import RagBench.Benchmark.DuplicateGroups

/-!
# The limits of the accepted set

A candidate counts against its type, and against every document and page it
draws on.  Counters move only when a candidate is accepted, and only by what
the caps have been tested for.
-/

namespace RagBench

/-! ## What a candidate draws on -/

namespace QuestionCandidate

/-- The candidate cites the document, or transforms a fact of it. -/
def drawsOn (candidate : QuestionCandidate) (documentId : String) : Bool :=
  candidate.evidenceSpans.any (fun span => span.documentId = documentId) ||
    candidate.unanswerableTransform.any fun transform =>
      transform.targetDocumentId = documentId

/-- The same for a page of a document. -/
def drawsOnPage (candidate : QuestionCandidate) (page : String × ℕ) : Bool :=
  candidate.evidenceSpans.any (fun span =>
      (span.documentId, span.page) = page) ||
    candidate.unanswerableTransform.any fun transform =>
      (transform.targetDocumentId, transform.targetPage) = page

/-- A candidate with a transform cites nothing. -/
private theorem evidenceSpans_of_transform {candidate : QuestionCandidate}
    {transform : UnanswerableTransform}
    (transformed : candidate.unanswerableTransform = some transform) :
    candidate.evidenceSpans = [] := by
  cases answerable : candidate.answerable with
  | true =>
      obtain ⟨-, -, -, -, without⟩ := candidate.answerable_shape answerable
      cases without.symm.trans transformed
  | false => exact (candidate.unanswerable_shape answerable).2.2.1

theorem mem_documents {candidate : QuestionCandidate} {documentId : String} :
    documentId ∈ candidate.documents ↔ candidate.drawsOn documentId = true := by
  unfold documents drawsOn
  cases transformed : candidate.unanswerableTransform with
  | none => simp [mem_distinct]
  | some transform =>
      rw [evidenceSpans_of_transform transformed]
      simp [eq_comm]

theorem mem_pages {candidate : QuestionCandidate} {page : String × ℕ} :
    page ∈ candidate.pages ↔ candidate.drawsOnPage page = true := by
  unfold pages drawsOnPage
  cases transformed : candidate.unanswerableTransform with
  | none => simp [mem_distinct]
  | some transform =>
      rw [evidenceSpans_of_transform transformed]
      simp [mem_distinct, eq_comm]

theorem documents_nodup (candidate : QuestionCandidate) :
    candidate.documents.Nodup := by
  unfold documents
  cases candidate.unanswerableTransform with
  | none => exact distinct_nodup _
  | some transform => exact List.nodup_singleton _

theorem pages_nodup (candidate : QuestionCandidate) :
    candidate.pages.Nodup := by
  unfold pages
  cases candidate.unanswerableTransform with
  | none => exact distinct_nodup _
  | some transform => exact distinct_nodup _

end QuestionCandidate

/-- The accepted items, in input order. -/
def ValidationReport.accepted (report : ValidationReport) :
    List QuestionCandidate :=
  report.items.filter (·.isAccepted)

/-! ## The limits -/

/-- What a report owes to the limits of its configuration. -/
structure RespectsLimits (platform : Platform) (config : ValidationConfig)
    (candidates : List QuestionCandidate) (report : ValidationReport) :
    Prop where
  items : List.Forall₂ (fun candidate item => ∃ rules,
    item = candidate.judged rules) candidates report.items
  types : ∀ kind,
    report.accepted.countP (fun item => item.questionType = kind) ≤
      config.quotas.getD kind 0
  documents : ∀ documentId,
    report.accepted.countP (fun item => item.drawsOn documentId) ≤
      config.perDocumentCap
  pages : ∀ page,
    report.accepted.countP (fun item => item.drawsOnPage page) ≤
      config.perPageCap
  identifiers : (report.accepted.map (·.candidateId)).Nodup
  groups : ∀ group ∈ report.duplicateGroups,
    report.accepted.countP (fun item => item.candidateId ∈ group) ≤ 1
  unlinked : ∀ earlier later first second, earlier < later →
    report.items[earlier]? = some first → first.isAccepted →
    report.items[later]? = some second → second.isAccepted →
    ¬Linked platform config.duplicateSimilarityThreshold
      (candidates.map (·.question)) earlier later
  dissimilar : report.accepted.Pairwise fun earlier later =>
    platform.similarity (questionFingerprint platform earlier.question)
        (questionFingerprint platform later.question) <
      config.duplicateSimilarityThreshold
  accepted_count : report.acceptedCount = report.accepted.length
  counts : report.acceptedCount + report.rejectedCount = candidates.length
  typeDistribution : Tallies report.typeDistribution fun kind =>
    report.accepted.countP fun item => item.questionType = kind
  difficultyDistribution : Tallies report.difficultyDistribution fun level =>
    report.accepted.countP fun item => item.difficulty = level
  documentDistribution : Tallies report.documentDistribution fun documentId =>
    report.accepted.countP fun item => item.drawsOn documentId

theorem tallies_typeDistribution (kinds : List QuestionType) :
    Tallies (typeDistribution kinds) fun kind => kinds.count kind :=
  .ofList (by decide) fun kind _ => by cases kind <;> decide

theorem tallies_difficultyDistribution (levels : List Difficulty) :
    Tallies (difficultyDistribution levels) fun level => levels.count level :=
  .ofList (by decide) fun level _ => by cases level <;> decide

theorem Tallies.countAll {κ : Type} [DecidableEq κ] {counts : Dict κ ℕ}
    {times : κ → ℕ} {keys : List κ} (tallies : Tallies counts times)
    (distinct : keys.Nodup) :
    Tallies (RagBench.countAll counts keys) fun key =>
      times key + if key ∈ keys then 1 else 0 := by
  refine (tallies.countDistinct id ?_).congr fun key => ?_
  · rwa [List.map_id]
  · rw [List.map_id]

theorem Tallies.sorted {κ : Type} [DecidableEq κ] [LE κ] [DecidableLE κ]
    {counts : Dict κ ℕ} {times : κ → ℕ} (tallies : Tallies counts times) :
    Tallies counts.sorted times := by
  intro key
  rw [Dict.get?_sorted, tallies key]

theorem count_map_eq {ι κ : Type} [DecidableEq κ] (keyOf : ι → κ)
    (items : List ι) (key : κ) :
    (items.map keyOf).count key =
      items.countP fun item => keyOf item = key := by
  rw [List.count, List.countP_map]
  congr 1

/-! ## One round -/

section Rounds

variable {platform : Platform} {corpus : List SourceWindow}
  {config : ValidationConfig} {terms duplicateIds : List String}

/-- A candidate that fails no rule. -/
theorem failedRules_eq_nil_iff {state : ValidationState}
    {candidate : QuestionCandidate} :
    failedRules platform corpus config terms duplicateIds state candidate =
        [] ↔
      candidateRules platform corpus config terms duplicateIds state
          candidate = [] ∧
        capacityRules config state candidate = [] := by
  have emptied : ∀ rules : List String, distinct rules = [] ↔ rules = [] := by
    intro rules
    simp only [List.eq_nil_iff_forall_not_mem, mem_distinct]
  unfold failedRules
  rw [emptied]
  split_ifs with own
  · exact ⟨fun rest => ⟨own, rest⟩, fun both => both.2⟩
  · exact ⟨fun none => absurd none own, fun both => absurd both.1 own⟩

/-- No quota and no cap is exhausted. -/
theorem capacityRules_eq_nil_iff {state : ValidationState}
    {candidate : QuestionCandidate} :
    capacityRules config state candidate = [] ↔
      state.typeCounts.getD candidate.questionType 0 <
          config.quotas.getD candidate.questionType 0 ∧
        (∀ documentId ∈ candidate.documents,
          state.documentCounts.getD documentId 0 < config.perDocumentCap) ∧
        ∀ page ∈ candidate.pages,
          state.pageCounts.getD page 0 < config.perPageCap := by
  unfold capacityRules
  split_ifs with kinds documents pages <;>
    simp_all [List.any_eq_true, not_lt]

/-- A counter of the accepted candidates by what they draw on, and its cap. -/
private structure Capped {κ : Type} [DecidableEq κ] (counts : Dict κ ℕ)
    (drawn : κ → QuestionCandidate → Bool) (cap : κ → ℕ)
    (accepted : List QuestionCandidate) : Prop where
  tallies : Tallies counts fun key => accepted.countP (drawn key)
  bounded : ∀ key, accepted.countP (drawn key) ≤ cap key

/-- One more candidate, whose keys are all below their caps. -/
private theorem Capped.accept {κ : Type} [DecidableEq κ] {counts : Dict κ ℕ}
    {drawn : κ → QuestionCandidate → Bool} {cap : κ → ℕ}
    {accepted : List QuestionCandidate} {item : QuestionCandidate}
    {keys : List κ} (capped : Capped counts drawn cap accepted)
    (distinct : keys.Nodup)
    (keys_iff : ∀ key, key ∈ keys ↔ drawn key item = true)
    (below : ∀ key ∈ keys, counts.getD key 0 < cap key) :
    Capped (countAll counts keys) drawn cap (accepted ++ [item]) := by
  have one_more : ∀ key, (accepted ++ [item]).countP (drawn key) =
      accepted.countP (drawn key) + if key ∈ keys then 1 else 0 := by
    intro key
    simp [List.countP_append, List.countP_cons, keys_iff key]
  refine ⟨?_, fun key => ?_⟩
  · exact (capped.tallies.countAll distinct).congr fun key =>
      (one_more key).symm
  · rw [one_more]
    by_cases member : key ∈ keys
    · have room := below key member
      rw [capped.tallies.getD] at room
      rw [if_pos member]
      exact room
    · rw [if_neg member]
      exact capped.bounded key

/-- The counters are those of the accepted candidates, within the limits. -/
private structure Recorded (config : ValidationConfig)
    (duplicateIds : List String) (state : ValidationState)
    (accepted : List QuestionCandidate) : Prop where
  types : Capped state.typeCounts (fun kind item => item.questionType = kind)
    (fun kind => config.quotas.getD kind 0) accepted
  documents : Capped state.documentCounts
    (fun documentId item => item.drawsOn documentId)
    (fun _ => config.perDocumentCap) accepted
  pages : Capped state.pageCounts (fun page item => item.drawsOnPage page)
    (fun _ => config.perPageCap) accepted
  seen : ∀ item ∈ accepted, item.candidateId ∈ state.seen
  identifiers : (accepted.map (·.candidateId)).Nodup
  unrepeated : ∀ item ∈ accepted, item.candidateId ∉ duplicateIds

private theorem recorded_initial :
    Recorded config duplicateIds {} [] :=
  { types := ⟨.empty, fun _ => Nat.zero_le _⟩
    documents := ⟨.empty, fun _ => Nat.zero_le _⟩
    pages := ⟨.empty, fun _ => Nat.zero_le _⟩
    seen := List.forall_mem_nil _
    identifiers := List.nodup_nil
    unrepeated := List.forall_mem_nil _ }

/-- A candidate without failed rules is new and repeats no question. -/
private theorem identifier_of_passed {state : ValidationState}
    {candidate : QuestionCandidate}
    (own : candidateRules platform corpus config terms duplicateIds state
      candidate = []) :
    candidate.candidateId ∉ state.seen ∧
      candidate.candidateId ∉ duplicateIds := by
  simp only [candidateRules, List.append_eq_nil_iff] at own
  obtain ⟨⟨⟨⟨⟨fresh, single⟩, -⟩, -⟩, -⟩, -⟩ := own
  refine ⟨fun seen => ?_, fun repeated => ?_⟩
  · rw [if_pos seen] at fresh
    cases fresh
  · rw [if_pos repeated] at single
    cases single

/-- The items accepted so far. -/
private def acceptedSoFar (state : ValidationState) : List QuestionCandidate :=
  state.validated.filter (·.isAccepted)

private theorem recorded_next {state : ValidationState}
    (recorded : Recorded config duplicateIds state (acceptedSoFar state))
    (candidate : QuestionCandidate) :
    let next := validateNext platform corpus config terms duplicateIds state
      candidate
    Recorded config duplicateIds next (acceptedSoFar next) := by
  intro next
  have seen : next.seen = state.seen ++ [candidate.candidateId] := by
    simp only [next, validateNext]
    split_ifs <;> rfl
  have seen_mono : ∀ item ∈ acceptedSoFar state,
      item.candidateId ∈ next.seen := by
    intro item member
    rw [seen]
    exact List.mem_append_left _ (recorded.seen item member)
  by_cases passed : failedRules platform corpus config terms duplicateIds
      state candidate = []
  · obtain ⟨own, room⟩ := failedRules_eq_nil_iff.mp passed
    obtain ⟨kinds, documents, pages⟩ := capacityRules_eq_nil_iff.mp room
    obtain ⟨fresh, single⟩ := identifier_of_passed own
    have accepted : acceptedSoFar next =
        acceptedSoFar state ++ [candidate.judged []] := by
      simp only [acceptedSoFar, next, validateNext_validated, passed,
        List.filter_append]
      rfl
    have counted : next.typeCounts =
          countAll state.typeCounts [candidate.questionType] ∧
        next.documentCounts =
          countAll state.documentCounts candidate.documents ∧
        next.pageCounts = countAll state.pageCounts candidate.pages := by
      simp only [next, validateNext, passed, if_true, and_self]
    rw [accepted]
    exact
      { types := counted.1 ▸ recorded.types.accept (List.nodup_singleton _)
          (fun kind => by simp [QuestionCandidate.judged, eq_comm])
          (by simpa using kinds)
        documents := counted.2.1 ▸ recorded.documents.accept
          candidate.documents_nodup
          (fun _ => QuestionCandidate.mem_documents) documents
        pages := counted.2.2 ▸ recorded.pages.accept candidate.pages_nodup
          (fun _ => QuestionCandidate.mem_pages) pages
        seen := List.forall_mem_append.mpr ⟨seen_mono, by simp [seen,
          QuestionCandidate.judged]⟩
        identifiers := by
          rw [List.map_append, List.map_singleton, List.nodup_append]
          refine ⟨recorded.identifiers, List.nodup_singleton _, ?_⟩
          rintro _ member _ last rfl
          obtain ⟨item, member, same⟩ := List.mem_map.mp member
          rw [List.mem_singleton.mp last] at same
          exact fresh (same ▸ recorded.seen item member)
        unrepeated := List.forall_mem_append.mpr ⟨recorded.unrepeated,
          List.forall_mem_singleton.mpr single⟩ }
  · have accepted : acceptedSoFar next = acceptedSoFar state := by
      simp [acceptedSoFar, next, validateNext_validated, List.filter_append,
        QuestionCandidate.isAccepted, QuestionCandidate.judged, passed]
    have counted : next.typeCounts = state.typeCounts ∧
        next.documentCounts = state.documentCounts ∧
        next.pageCounts = state.pageCounts := by
      simp only [next, validateNext, passed, if_false, and_self]
    rw [accepted]
    exact
      { types := counted.1 ▸ recorded.types
        documents := counted.2.1 ▸ recorded.documents
        pages := counted.2.2 ▸ recorded.pages
        seen := seen_mono
        identifiers := recorded.identifiers
        unrepeated := recorded.unrepeated }

/-- Of a group whose later members are all repeated, one is accepted. -/
private theorem Recorded.one_of_group {state : ValidationState}
    {accepted : List QuestionCandidate} {group : List String}
    (recorded : Recorded config duplicateIds state accepted)
    (repeated : ∀ id ∈ group.tail, id ∈ duplicateIds) :
    accepted.countP (fun item => item.candidateId ∈ group) ≤ 1 := by
  cases group with
  | nil => simp
  | cons first rest =>
      calc accepted.countP (fun item => item.candidateId ∈ first :: rest)
          ≤ accepted.countP (fun item => item.candidateId = first) := by
            refine List.countP_mono_left fun item member inside => ?_
            rcases List.mem_cons.mp (of_decide_eq_true inside) with
              same | later
            · exact decide_eq_true same
            · exact absurd (repeated _ later)
                (recorded.unrepeated item member)
        _ = (accepted.map (·.candidateId)).count first :=
            (count_map_eq _ _ first).symm
        _ ≤ 1 := List.nodup_iff_count_le_one.mp recorded.identifiers first

/-- After the whole pass. -/
private theorem recorded_run (candidates : List QuestionCandidate) :
    let state := candidates.foldl
      (validateNext platform corpus config terms duplicateIds) {}
    Recorded config duplicateIds state (acceptedSoFar state) :=
  List.foldlRecOn
    (motive := fun state => Recorded config duplicateIds state
      (acceptedSoFar state))
    candidates (validateNext platform corpus config terms duplicateIds)
    recorded_initial fun _ recorded candidate _ =>
      recorded_next recorded candidate

/-- Every candidate is judged, in its place. -/
theorem validated_run (candidates : List QuestionCandidate) :
    List.Forall₂ (fun candidate item => ∃ state, item = candidate.judged
        (failedRules platform corpus config terms duplicateIds state
          candidate)) candidates
      (candidates.foldl (validateNext platform corpus config terms
        duplicateIds) {}).validated := by
  have loop : ∀ (rest earlier : List QuestionCandidate)
      (state : ValidationState),
      List.Forall₂ (fun candidate item => ∃ state, item = candidate.judged
        (failedRules platform corpus config terms duplicateIds state
          candidate)) earlier state.validated →
      List.Forall₂ (fun candidate item => ∃ state, item = candidate.judged
          (failedRules platform corpus config terms duplicateIds state
            candidate)) (earlier ++ rest)
        (rest.foldl (validateNext platform corpus config terms duplicateIds)
          state).validated := by
    intro rest
    induction rest with
    | nil =>
        intro earlier state judged
        rwa [List.append_nil]
    | cons candidate rest induction =>
        intro earlier state judged
        rw [List.append_cons, List.foldl_cons]
        refine induction _ _ ?_
        rw [validateNext_validated]
        exact List.rel_append judged (.cons ⟨_, rfl⟩ .nil)
  exact loop candidates [] {} .nil

end Rounds

/-! ## The report -/

section Report

variable (platform : Platform) (config : ValidationConfig)
  (candidates : List QuestionCandidate) (corpus : List SourceWindow)
  (terms : List String)

theorem report_judged : List.Forall₂
    (fun candidate item => ∃ rules, item = candidate.judged rules) candidates
    (validateCandidates platform candidates corpus config terms).items :=
  (validated_run candidates).imp fun _ _ ⟨_, same⟩ => ⟨_, same⟩

private theorem report_recorded : ∃ state, state.documentCounts.sorted =
      (validateCandidates platform candidates corpus config
        terms).documentDistribution ∧
    Recorded config (duplicateGroups platform candidates
      config.duplicateSimilarityThreshold).2 state
      (validateCandidates platform candidates corpus config
        terms).accepted :=
  ⟨_, rfl, recorded_run candidates⟩

theorem accepted_le_quota (kind : QuestionType) :
    (validateCandidates platform candidates corpus config
        terms).accepted.countP (fun item => item.questionType = kind) ≤
      config.quotas.getD kind 0 := by
  obtain ⟨_, -, recorded⟩ :=
    report_recorded platform config candidates corpus terms
  exact recorded.types.bounded kind

/-- Nobody who is accepted repeats an earlier question. -/
theorem accepted_unlinked {earlier later : ℕ} {item : QuestionCandidate}
    (before : earlier < later)
    (found : (validateCandidates platform candidates corpus config
      terms).items[later]? = some item)
    (accepted : item.isAccepted) :
    ¬Linked platform config.duplicateSimilarityThreshold
      (candidates.map (·.question)) earlier later := by
  intro linked
  have judged := report_judged platform config candidates corpus terms
  obtain ⟨small, rfl⟩ := List.getElem?_eq_some_iff.mp found
  have small' : later < candidates.length := judged.length_eq ▸ small
  obtain ⟨rules, same⟩ := judged.get small' small
  obtain ⟨_, -, recorded⟩ :=
    report_recorded platform config candidates corpus terms
  refine recorded.unrepeated _
    (List.mem_filter.mpr ⟨List.getElem_mem small, accepted⟩)
    (mem_duplicateIds.mpr ⟨later, candidates[later],
      List.getElem?_eq_getElem small', congrArg (·.candidateId) same,
      (List.length_map _).symm ▸ small', earlier, before, linked⟩)

theorem accepted_dissimilar :
    (validateCandidates platform candidates corpus config
      terms).accepted.Pairwise fun earlier later =>
        platform.similarity (questionFingerprint platform earlier.question)
            (questionFingerprint platform later.question) <
          config.duplicateSimilarityThreshold := by
  have judged := report_judged platform config candidates corpus terms
  refine List.pairwise_filter.mpr (List.pairwise_iff_getElem.mpr ?_)
  intro earlier later small small' before first second
  by_contra similar
  have inside : earlier < candidates.length := judged.length_eq ▸ small
  have inside' : later < candidates.length := judged.length_eq ▸ small'
  obtain ⟨_, same⟩ := judged.get inside small
  obtain ⟨_, same'⟩ := judged.get inside' small'
  refine accepted_unlinked platform config candidates corpus terms before
    (List.getElem?_eq_getElem small') second (.rel _ _ ⟨before, ?_, ?_⟩)
  · rwa [List.length_map]
  · rw [not_lt] at similar
    have question : candidates[earlier].question = _ :=
      (congrArg (·.question) same).symm
    have question' : candidates[later].question = _ :=
      (congrArg (·.question) same').symm
    simpa [List.getD_eq_getElem?_getD, inside, inside', question, question']
      using similar

/-- A report respects the limits of its configuration. -/
theorem validateCandidates_respects_limits :
    RespectsLimits platform config candidates
      (validateCandidates platform candidates corpus config terms) := by
  have judged := report_judged platform config candidates corpus terms
  obtain ⟨state, documents, recorded⟩ :=
    report_recorded platform config candidates corpus terms
  exact
    { items := judged
      types := accepted_le_quota platform config candidates corpus terms
      documents := recorded.documents.bounded
      pages := recorded.pages.bounded
      identifiers := recorded.identifiers
      groups := fun group reported => by
        have repeated : ∀ id ∈ group.tail, id ∈ (duplicateGroups platform
            candidates config.duplicateSimilarityThreshold).2 :=
          fun id member => List.mem_flatMap.mpr ⟨group, reported, member⟩
        exact recorded.one_of_group repeated
      unlinked := fun earlier later _ _ before _ _ found accepted =>
        accepted_unlinked platform config candidates corpus terms before
          found accepted
      dissimilar := accepted_dissimilar platform config candidates corpus
        terms
      accepted_count := rfl
      counts := by
        refine (Nat.add_sub_cancel' ?_).trans judged.length_eq.symm
        exact List.length_filter_le _ _
      typeDistribution := (tallies_typeDistribution _).congr fun kind =>
        count_map_eq _ _ kind
      difficultyDistribution := (tallies_difficultyDistribution _).congr
        fun level => count_map_eq _ _ level
      documentDistribution := documents ▸ recorded.documents.tallies.sorted }

end Report

end RagBench
