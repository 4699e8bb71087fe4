import RagBench.Benchmark.CampaignCost

/-!
# The limits of generation plans

The planner counts the document and every page of a window each time it picks
the window.  A replacement plan counts the jobs of all prior plans first, so
the caps hold for the plans together.
-/

namespace RagBench

/-! ## Uses of documents and pages -/

def documentUses (jobs : List GenerationJob) (documentId : String) : ℕ :=
  jobs.countP fun job => job.window.documentId = documentId

def pageUses (jobs : List GenerationJob) (page : String × ℕ) : ℕ :=
  jobs.countP fun job => job.window.documentId = page.1 ∧
    job.window.pageStart ≤ page.2 ∧ page.2 ≤ job.window.pageEnd

theorem documentUses_concat (jobs : List GenerationJob) (job : GenerationJob)
    (documentId : String) :
    documentUses (jobs ++ [job]) documentId = documentUses jobs documentId +
      if job.window.documentId = documentId then 1 else 0 := by
  simp [documentUses, List.countP_append, List.countP_cons]

theorem pageUses_concat (jobs : List GenerationJob) (job : GenerationJob)
    (page : String × ℕ) :
    pageUses (jobs ++ [job]) page = pageUses jobs page +
      if job.window.documentId = page.1 ∧ job.window.pageStart ≤ page.2 ∧
        page.2 ≤ job.window.pageEnd then 1 else 0 := by
  rw [pageUses, List.countP_append, List.countP_singleton, pageUses]
  simp only [decide_eq_true_eq]

/-- No document and no page is used more often than its cap. -/
structure WithinCaps (config : GenerationConfig) (jobs : List GenerationJob) :
    Prop where
  documents : ∀ documentId,
    documentUses jobs documentId ≤ config.perDocumentCap
  pages : ∀ page, pageUses jobs page ≤ config.perPageCap

/-- What a plan owes to the questions it is asked for. -/
structure PlanFor (config : GenerationConfig) (asked : QuestionType → ℕ)
    (plan : GenerationPlan) : Prop where
  kinds : ∀ kind,
    plan.jobs.countP (fun job => job.questionType = kind) = asked kind
  batches : plan.batches.flatMap (·.jobs) = plan.jobs
  batch_size : ∀ batch ∈ plan.batches, batch.jobs.length ≤ config.batchSize

theorem SourceWindow.mem_pages {window : SourceWindow} {page : ℕ} :
    page ∈ window.pages ↔ window.pageStart ≤ page ∧ page ≤ window.pageEnd := by
  have ordered := window.pages_ordered
  rw [pages, List.mem_range'_1]
  omega

theorem SourceWindow.pages_nodup (window : SourceWindow) :
    window.pages.Nodup :=
  List.nodup_range'

/-! ## Counting -/

/-- The counters are those of the jobs. -/
structure SourceCounts.Of (counts : SourceCounts)
    (jobs : List GenerationJob) : Prop where
  documents : Tallies counts.documents (documentUses jobs)
  pages : Tallies counts.pages (pageUses jobs)

namespace SourceCounts

theorem of_nil : empty.Of [] :=
  { documents := .empty
    pages := .empty }

/-- One more job. -/
theorem Of.record {counts : SourceCounts} {jobs : List GenerationJob}
    (of : counts.Of jobs) (job : GenerationJob) :
    (counts.record job.window).Of (jobs ++ [job]) := by
  refine ⟨?_, ?_⟩
  · exact (of.documents.count job.window.documentId).congr fun documentId =>
      (documentUses_concat jobs job documentId).symm
  · have distinct : (job.window.pages.map fun page =>
        (job.window.documentId, page)).Nodup :=
      job.window.pages_nodup.map fun _ _ same => (Prod.mk.inj same).2
    refine (of.pages.countDistinct (fun page => (job.window.documentId, page))
      distinct).congr fun page => ?_
    have listed : page ∈ job.window.pages.map (fun page =>
          (job.window.documentId, page)) ↔
        job.window.documentId = page.1 ∧ job.window.pageStart ≤ page.2 ∧
          page.2 ≤ job.window.pageEnd := by
      obtain ⟨documentId, page⟩ := page
      rw [List.mem_map]
      constructor
      · rintro ⟨_, member, same⟩
        obtain ⟨rfl, rfl⟩ := Prod.mk.inj same
        exact ⟨rfl, SourceWindow.mem_pages.mp member⟩
      · rintro ⟨rfl, inside⟩
        exact ⟨page, SourceWindow.mem_pages.mpr inside, rfl⟩
    rw [pageUses_concat]
    simp only [listed]

theorem of_jobs (jobs : List GenerationJob) :
    (jobs.foldl (fun counts job => counts.record job.window) empty).Of
      jobs := by
  induction jobs using List.reverseRecOn with
  | nil => exact of_nil
  | append_singleton jobs job induction =>
      rw [List.foldl_append]
      exact induction.record job

theorem of_plans (plans : List GenerationPlan) :
    (GenerationConfig.usedSources plans).Of (plans.flatMap (·.jobs)) :=
  of_jobs _

/-- An admitted window keeps the caps. -/
theorem Of.within {config : GenerationConfig} {counts : SourceCounts}
    {jobs : List GenerationJob} (of : counts.Of jobs)
    (within : WithinCaps config jobs) {job : GenerationJob}
    (admitted : counts.admits config job.window = true) :
    WithinCaps config (jobs ++ [job]) := by
  simp only [admits, decide_eq_true_eq, List.all_eq_true] at admitted
  obtain ⟨document, pages⟩ := admitted
  rw [of.documents.getD] at document
  refine ⟨fun documentId => ?_, fun page => ?_⟩
  · rw [documentUses_concat]
    split_ifs with same
    · exact same ▸ document
    · exact within.documents documentId
  · rw [pageUses_concat]
    split_ifs with covered
    · have room := pages page.2 (SourceWindow.mem_pages.mpr covered.2)
      rw [of.pages.getD, covered.1] at room
      exact room
    · exact within.pages page

end SourceCounts

/-! ## Choosing windows -/

section Choice

variable {config : GenerationConfig} {windows : List SourceWindow}

theorem chooseWindow_admits {counts : SourceCounts} {cursor next : ℕ}
    {window : SourceWindow}
    (chosen : chooseWindow config counts windows cursor =
      some (window, next)) : counts.admits config window = true := by
  obtain ⟨offset, -, tried⟩ := List.exists_of_findSome?_eq_some chosen
  dsimp only at tried
  split at tried
  · split_ifs at tried with admitted
    obtain ⟨rfl, -⟩ := Prod.mk.inj (Option.some.inj tried)
    exact admitted
  · cases tried

theorem numberJobs_cons (first : ℕ) (kind : QuestionType)
    (window : SourceWindow) (rest : List (QuestionType × SourceWindow)) :
    numberJobs first ((kind, window) :: rest) =
      ⟨first, kind, window⟩ :: numberJobs (first + 1) rest := by
  unfold numberJobs
  rw [List.zipIdx_cons, List.map_cons, List.zipIdx_succ, List.map_map]
  simp [Function.comp_def, Nat.add_comm, Nat.add_left_comm]

theorem map_ordinal_numberJobs (first : ℕ)
    (assigned : List (QuestionType × SourceWindow)) :
    (numberJobs first assigned).map (·.ordinal) =
      List.range' first assigned.length := by
  induction assigned generalizing first with
  | nil => rfl
  | cons choice rest induction =>
      rw [numberJobs_cons, List.map_cons, induction, List.length_cons,
        List.range'_succ]

theorem map_questionType_numberJobs (first : ℕ)
    (assigned : List (QuestionType × SourceWindow)) :
    (numberJobs first assigned).map (·.questionType) =
      assigned.map Prod.fst := by
  induction assigned generalizing first with
  | nil => rfl
  | cons choice rest induction =>
      rw [numberJobs_cons, List.map_cons, induction, List.map_cons]

/-- Each kind gets a window, and the caps hold with the earlier jobs. -/
theorem allocate_within {counts : SourceCounts} {cursor first : ℕ}
    {kinds : List QuestionType} {assigned : List (QuestionType × SourceWindow)}
    (allocated : allocate config windows counts cursor kinds = some assigned)
    {jobs : List GenerationJob} (of : counts.Of jobs)
    (within : WithinCaps config jobs) :
    assigned.map Prod.fst = kinds ∧
      WithinCaps config (jobs ++ numberJobs first assigned) := by
  induction kinds generalizing counts cursor first assigned jobs with
  | nil =>
      obtain rfl := Option.some.inj allocated
      exact ⟨rfl, by rwa [numberJobs, List.zipIdx_nil, List.map_nil,
        List.append_nil]⟩
  | cons kind kinds induction =>
      unfold allocate at allocated
      cases chosen : chooseWindow config counts windows cursor with
      | none =>
          rw [chosen] at allocated
          cases allocated
      | some choice =>
          obtain ⟨window, next⟩ := choice
          rw [chosen] at allocated
          obtain ⟨rest, later, rfl⟩ := Option.map_eq_some_iff.mp allocated
          let job : GenerationJob := ⟨first, kind, window⟩
          obtain ⟨same, caps⟩ := induction later (of.record job)
            (of.within within (chooseWindow_admits chosen))
          refine ⟨congrArg (kind :: ·) same, ?_⟩
          rw [numberJobs_cons, List.append_cons]
          exact caps

end Choice

/-! ## Batches -/

/-- Consecutive pieces make up the beginning of the jobs. -/
private theorem pieces_join (jobs : List GenerationJob) (size count : ℕ) :
    (List.range count).flatMap (fun index =>
      (jobs.drop (index * size)).take size) = jobs.take (count * size) := by
  induction count with
  | zero => simp
  | succ count induction =>
      rw [List.range_succ, List.flatMap_append, induction, List.flatMap_singleton,
        Nat.succ_mul, List.take_add]

theorem cutBatches_join (config : GenerationConfig) (namePrefix : String)
    (jobs : List GenerationJob) :
    (cutBatches config namePrefix jobs).flatMap (·.jobs) = jobs := by
  have positive := config.batchSize_positive
  rw [cutBatches, List.flatMap_map, pieces_join]
  refine List.take_of_length_le ?_
  have rounded := Nat.lt_div_mul_add (a := jobs.length + config.batchSize - 1)
    positive
  omega

theorem length_le_of_mem_cutBatches {config : GenerationConfig}
    {namePrefix : String} {jobs : List GenerationJob} {batch : GenerationBatch}
    (member : batch ∈ cutBatches config namePrefix jobs) :
    batch.jobs.length ≤ config.batchSize := by
  obtain ⟨index, -, rfl⟩ := List.mem_map.mp member
  exact List.length_take_le _ _

/-! ## Plans -/

section Plans

variable {platform : Platform} {config : GenerationConfig}

theorem plan_ok {windows : List SourceWindow}
    {corpusSnapshotId modelId : String} {plan : GenerationPlan}
    (planned : config.plan platform windows corpusSnapshotId modelId =
      .ok plan) :
    ∃ assigned planHash,
      allocate config (windows.mergeSort SourceWindow.before) .empty 0
        (expandedTypes config.quotas) = some assigned ∧
      plan =
        { planHash := planHash
          corpusSnapshotId := corpusSnapshotId
          modelId := modelId
          promptVersion := config.promptVersion
          jobs := numberJobs 0 assigned
          batches := cutBatches config "batch-" (numberJobs 0 assigned) } := by
  unfold GenerationConfig.plan at planned
  dsimp only at planned
  by_cases empty : windows.mergeSort SourceWindow.before = []
  · rw [if_pos empty] at planned
    cases planned
  rw [if_neg empty] at planned
  -- The long window, then the scarce capacity.
  split at planned
  · cases planned
  split at planned
  · cases planned
  split at planned
  · cases planned
  · next assigned allocated =>
      obtain ⟨planHash, -, returned⟩ := bind_eq_ok.mp planned
      exact ⟨assigned, planHash, allocated, (Except.ok.inj returned).symm⟩

theorem planFor_of_assigned {assigned : List (QuestionType × SourceWindow)}
    {kinds : List QuestionType} {asked : QuestionType → ℕ} {first : ℕ}
    {namePrefix : String} {plan : GenerationPlan}
    (same : assigned.map Prod.fst = kinds)
    (counted : ∀ kind, kinds.count kind = asked kind)
    (jobs : plan.jobs = numberJobs first assigned)
    (batches : plan.batches = cutBatches config namePrefix plan.jobs) :
    PlanFor config asked plan :=
  { kinds := fun kind => by
      rw [← counted kind, ← same, ← map_questionType_numberJobs first, jobs,
        count_map_eq]
    batches := batches ▸ cutBatches_join config namePrefix plan.jobs
    batch_size := fun batch member =>
      length_le_of_mem_cutBatches (batches ▸ member) }

/-! ## Rounds -/

/-- The arguments of `plan_replacements`, besides the prior plans. -/
structure ReplacementRequest where
  parent : GenerationPlan
  acceptedCounts : Quotas
  attempt : ℕ
  targetQuotas : Option Quotas

/-- How many questions of the kind are missing. -/
def ReplacementRequest.deficit (config : GenerationConfig)
    (request : ReplacementRequest) (kind : QuestionType) : ℕ :=
  (config.refillQuotas request.targetQuotas).getD kind 0 -
    request.acceptedCounts.getD kind 0

/-- A replacement plan for the request, given all prior plans. -/
def ReplacementStep (platform : Platform) (config : GenerationConfig)
    (plans : List GenerationPlan) (request : ReplacementRequest)
    (after : List GenerationPlan) : Prop :=
  ∃ next, config.planReplacements platform request.parent
      request.acceptedCounts request.attempt request.targetQuotas plans =
        .ok next ∧ after = plans ++ [next]

/-- The plans of a whole campaign. -/
structure PlansFor (config : GenerationConfig)
    (requests : List ReplacementRequest) (plans : List GenerationPlan) :
    Prop where
  replacements : List.Forall₂ (fun request plan =>
    PlanFor config (request.deficit config) plan) requests plans.tail
  started : plans ≠ []
  within : WithinCaps config (plans.flatMap (·.jobs))

private theorem plansFor_next {requests : List ReplacementRequest}
    {request : ReplacementRequest} {plans after : List GenerationPlan}
    (kept : PlansFor config requests plans)
    (replaced : ReplacementStep platform config plans request after) :
    PlansFor config (requests ++ [request]) after := by
  obtain ⟨next, planned, rfl⟩ := replaced
  obtain ⟨-, -, assigned, planHash, allocated, rfl⟩ :=
    GenerationConfig.planReplacements_ok planned
  rw [if_neg kept.started] at allocated
  obtain ⟨same, within⟩ := allocate_within allocated
    (SourceCounts.of_plans plans) kept.within
  refine ⟨?_, by simp, ?_⟩
  · rw [List.tail_append_of_ne_nil kept.started]
    refine List.rel_append kept.replacements (.cons ?_ .nil)
    exact planFor_of_assigned same (count_deficits _ _) rfl rfl
  · rw [List.flatMap_append, List.flatMap_singleton]
    exact within

/-- The first plan has exactly the questions of the quotas, numbered from
zero; every replacement plan has exactly those that were missing.  All plans
together keep the caps. -/
theorem plans_keep_quotas_and_caps {windows : List SourceWindow}
    {corpusSnapshotId modelId : String} {first : GenerationPlan}
    {requests : List ReplacementRequest} {plans : List GenerationPlan}
    (planned : config.plan platform windows corpusSnapshotId modelId =
      .ok first)
    (run : Run (ReplacementStep platform config) [first] requests plans) :
    PlanFor config (fun kind => config.quotas.getD kind 0) first ∧
      first.jobs.map (·.ordinal) = List.range first.jobs.length ∧
      WithinCaps config first.jobs ∧ PlansFor config requests plans := by
  obtain ⟨assigned, planHash, allocated, same⟩ := plan_ok planned
  have jobs : first.jobs = numberJobs 0 assigned := congrArg (·.jobs) same
  have batches : first.batches = cutBatches config "batch-" first.jobs :=
    jobs ▸ congrArg (·.batches) same
  obtain ⟨kinds, within⟩ := allocate_within allocated SourceCounts.of_nil
    ⟨fun _ => Nat.zero_le _, fun _ => Nat.zero_le _⟩
  rw [List.nil_append, ← jobs] at within
  refine ⟨planFor_of_assigned kinds (count_expandedTypes config.quotas) jobs
    batches, ?_, within, ?_⟩
  · rw [jobs, map_ordinal_numberJobs, numberJobs, List.length_map,
      List.length_zipIdx, List.range_eq_range']
  · refine run.invariant (fun _ => True) (fun _ _ => trivial)
      (PlansFor config) ⟨.nil, by simp, by simpa using within⟩ ?_
    exact fun _ _ _ _ kept _ replaced => plansFor_next kept replaced

end Plans

/-- One wanted fact, missing after the first round. -/
theorem one_fact_keeps_quotas_and_caps :
    PlanFor roomyConfig (fun kind => roomyConfig.quotas.getD kind 0)
        oneFactPlan ∧
      oneFactPlan.jobs.map (·.ordinal) = List.range 1 ∧
      WithinCaps roomyConfig oneFactPlan.jobs ∧
      PlansFor roomyConfig [⟨oneFactPlan, typeDistribution [], 1, none⟩]
        [oneFactPlan, oneFactReplacement] := by
  refine @plans_keep_quotas_and_caps constantPlatform roomyConfig
    [onePageWindow] "snapshot" "model" _ _ _ ?_ (.single ?_)
  · decide +kernel
  · exact ⟨oneFactReplacement, by decide +kernel, rfl⟩

end RagBench
