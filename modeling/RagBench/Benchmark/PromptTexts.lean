import RagBench.Benchmark.Generation
import RagBench.Chunking.SpecialTokens

/-!
# Texts of generation prompts

A generation prompt is the JSON of a contract with the windows of a batch in
it.  Nothing in it is escaped as markup, so it spells the special tokens that
the texts of the plan spell.
-/

namespace RagBench

def SourceUnit.texts (unit : SourceUnit) : List String :=
  [unit.chunkId, unit.content]

def SourceWindow.texts (window : SourceWindow) : List String :=
  [window.windowId, window.documentId, window.documentTitle] ++
    window.chunkIds ++ window.content ::
      window.sourceUnits.flatMap SourceUnit.texts

/-- What a prompt of the batch says of the plan and of its sources. -/
def GenerationPlan.promptTexts (plan : GenerationPlan)
    (batch : GenerationBatch) : List String :=
  [plan.planHash, batch.batchId] ++
    batch.jobs.flatMap fun job => job.window.texts

/-- `canonical_json_hash` and `json.dumps`: a hash is hexadecimal. -/
structure Platform.WritesJson (platform : Platform) (floats : FloatText) :
    Prop where
  hashes : ∀ value : Json, value.isCompliant = true →
    ∃ hash, platform.canonicalJsonHash value = .ok hash ∧ '<' ∉ hash.toList
  dumps : ∀ value : Json, value.isCompliant = true →
    platform.jsonDumps value = String.ofList (Json.text floats value)

/-! ## The strings of a dump -/

theorem SourceUnit.spellsNone_dump (unit : SourceUnit) :
    unit.dump.SpellsNone ↔
      ∀ text ∈ unit.texts, SpellsNone text.toList := by
  rw [SourceUnit.dump, Json.spellsNone_entries ["page", "chunk_id", "content"]
    rfl (by decide +kernel)]
  simp [Json.spellsNone_int, Json.spellsNone_str, SourceUnit.texts]

theorem SourceWindow.spellsNone_dump (window : SourceWindow) :
    window.dump.SpellsNone ↔
      ∀ text ∈ window.texts, SpellsNone text.toList := by
  have units : (Json.array (window.sourceUnits.map
      SourceUnit.dump)).SpellsNone ↔
      ∀ text ∈ window.sourceUnits.flatMap SourceUnit.texts,
        SpellsNone text.toList := by
    rw [Json.spellsNone_array, List.forall_mem_map, List.forall_mem_flatMap]
    simp only [SourceUnit.spellsNone_dump]
  rw [SourceWindow.dump, Json.spellsNone_entries ["window_id", "document_id",
    "document_title", "page_start", "page_end", "chunk_ids", "content",
    "source_units"] rfl (by decide +kernel)]
  simp only [SourceWindow.texts, List.map_cons, List.map_nil,
    List.forall_mem_cons, List.forall_mem_append, Json.spellsNone_str,
    Json.spellsNone_int, Json.spellsNone_texts, units, true_and, and_assoc,
    List.not_mem_nil, false_imp_iff, implies_true, and_true]

theorem SourceWindow.compliant_dump (window : SourceWindow) :
    window.dump.isCompliant = true := by
  have units : ∀ unit ∈ window.sourceUnits.map SourceUnit.dump,
      unit.isCompliant := by
    rw [List.forall_mem_map]
    exact fun _ _ => rfl
  have ids := Json.compliant_texts window.chunkIds
  rw [Json.isCompliant] at ids
  simp [SourceWindow.dump, Json.isCompliant, Json.entriesCompliant, ids,
    (Json.itemsCompliant_iff _).mpr units]

/-! ## The prompt -/

/-- What the prompt says of a job. -/
def jobPayload (job : GenerationJob) (windowHash : String) : Json :=
  .object
    [("ordinal", .int job.ordinal),
      ("question_type", .str job.questionType.value),
      ("source_window", job.window.dump),
      ("source_window_hash", .str windowHash)]

def jobEntry (platform : Platform) (job : GenerationJob) :
    Except PyException Json := do
  let windowHash ← platform.canonicalJsonHash job.window.dump
  return jobPayload job windowHash

/-- `requirements`. -/
def promptRequirements : List String :=
  ["Return a JSON object with a candidates array, " ++
      "one candidate per job in order.",
    "Copy every evidence span verbatim from its bounded source window.",
    "Use only supplied source text; include reasoning_kind metadata.",
    "For unanswerable jobs, transform a fact and assert the " ++
      "replacement is absent."]

theorem promptRequirements_spellNone :
    ∀ text ∈ promptRequirements, SpellsNone text.toList := by
  apply spellNone_of_opensNames
  simp only [promptRequirements, List.forall_mem_cons, List.not_mem_nil,
    false_imp_iff, implies_true, and_true]
  repeat rw [String.toList_append]
  repeat rw [String.toList_ofList]
  decide +kernel

/-- `contract`. -/
def promptContract (plan : GenerationPlan) (batch : GenerationBatch)
    (jobs : List Json) : Json :=
  .object
    [("plan_hash", .str plan.planHash),
      ("batch_id", .str batch.batchId),
      ("requirements", .array (promptRequirements.map .str)),
      ("jobs", .array jobs)]

theorem generationPrompt_eq (platform : Platform) (plan : GenerationPlan)
    (batch : GenerationBatch) :
    generationPrompt platform plan batch = (do
      let jobs ← batch.jobs.mapM (jobEntry platform)
      return platform.jsonDumps (promptContract plan batch jobs)) := by
  rfl

theorem spellsNone_jobPayload (job : GenerationJob) {windowHash : String}
    (hexadecimal : '<' ∉ windowHash.toList) :
    (jobPayload job windowHash).SpellsNone ↔
      ∀ text ∈ job.window.texts, SpellsNone text.toList := by
  have kinds : SpellsNone job.questionType.value.toList := by
    cases job.questionType
    all_goals decide +kernel
  have hashed := spellsNone_of_opensNames (opensNames_of_closed hexadecimal)
  rw [jobPayload, Json.spellsNone_entries ["ordinal", "question_type",
    "source_window", "source_window_hash"] rfl (by decide +kernel)]
  simp [Json.spellsNone_int, Json.spellsNone_str, kinds, hashed,
    SourceWindow.spellsNone_dump]

section Prompt

variable {platform : Platform} {floats : FloatText}
  (writes : platform.WritesJson floats)

include writes

theorem jobEntries_ok (jobs : List GenerationJob) :
    ∃ payloads, jobs.mapM (jobEntry platform) = .ok payloads ∧
      Json.itemsCompliant payloads = true ∧
        ((∀ payload ∈ payloads, payload.SpellsNone) ↔
          ∀ text ∈ jobs.flatMap fun job => job.window.texts,
            SpellsNone text.toList) := by
  induction jobs with
  | nil => exact ⟨[], rfl, rfl, by simp⟩
  | cons job jobs induction =>
      obtain ⟨payloads, entered, compliant, spelled⟩ := induction
      obtain ⟨windowHash, hashed, hexadecimal⟩ :=
        writes.hashes job.window.dump job.window.compliant_dump
      refine ⟨jobPayload job windowHash :: payloads, ?_, ?_, ?_⟩
      · rw [List.mapM_cons, entered, jobEntry, hashed]
        rfl
      · rw [Json.itemsCompliant, compliant, jobPayload]
        simp [Json.isCompliant, Json.entriesCompliant,
          job.window.compliant_dump]
      · rw [List.forall_mem_cons, spellsNone_jobPayload job hexadecimal,
          spelled, List.flatMap_cons, List.forall_mem_append]

/-- A prompt spells what the texts in it spell. -/
theorem generationPrompt_ok (plan : GenerationPlan)
    (batch : GenerationBatch) :
    ∃ prompt, generationPrompt platform plan batch = .ok prompt ∧
      (SpellsNone prompt.toList ↔
        ∀ text ∈ plan.promptTexts batch, SpellsNone text.toList) := by
  obtain ⟨payloads, entered, compliant, spelled⟩ :=
    jobEntries_ok writes batch.jobs
  have requirements : (Json.array (promptRequirements.map .str)).SpellsNone :=
    (Json.spellsNone_texts _).mpr promptRequirements_spellNone
  have dumped : (promptContract plan batch payloads).isCompliant = true := by
    have texts := Json.compliant_texts promptRequirements
    rw [Json.isCompliant] at texts
    simp [promptContract, Json.isCompliant, Json.entriesCompliant, texts,
      compliant]
  refine ⟨platform.jsonDumps (promptContract plan batch payloads), ?_, ?_⟩
  · rw [generationPrompt_eq, entered]
    rfl
  · rw [writes.dumps _ dumped, String.toList_ofList,
      Json.spellsNone_text_iff dumped, promptContract,
      Json.spellsNone_entries ["plan_hash", "batch_id", "requirements",
        "jobs"] rfl (by decide +kernel)]
    simp only [List.map_cons, List.map_nil, List.forall_mem_cons,
      Json.spellsNone_str, requirements, true_and, Json.spellsNone_array,
      spelled, GenerationPlan.promptTexts, List.forall_mem_append, and_assoc,
      List.not_mem_nil, false_imp_iff, implies_true]
    tauto

variable {encoding : Encoding} (documented : encoding.Documented)
  (counts : platform.CountsWith encoding)

include documented counts

theorem promptTokens_ok_iff (plan : GenerationPlan)
    (batch : GenerationBatch) :
    (∃ tokens, promptTokens platform plan batch = .ok tokens) ↔
      ∀ text ∈ plan.promptTexts batch, SpellsNone text.toList := by
  obtain ⟨prompt, rendered, spelled⟩ := generationPrompt_ok writes plan batch
  rw [← spelled, ← documented.tokenCount_ok_iff counts]
  constructor
  · rintro ⟨tokens, counted⟩
    obtain ⟨other, same, counted⟩ := bind_eq_ok.mp counted
    obtain rfl := Except.ok.inj (rendered.symm.trans same)
    obtain ⟨count, counted, -⟩ := bind_eq_ok.mp counted
    exact ⟨count, counted⟩
  · rintro ⟨count, counted⟩
    exact ⟨count + 16, bind_eq_ok.mpr ⟨prompt, rendered,
      bind_eq_ok.mpr ⟨count, counted, rfl⟩⟩⟩

/-- The tokens of all batches are counted exactly when no text of the plan
spells a special token. -/
theorem batchTokens_ok_iff (plan : GenerationPlan) :
    (∃ tokens, plan.batches.mapM (promptTokens platform plan) =
        .ok tokens) ↔
      ∀ batch ∈ plan.batches, ∀ text ∈ plan.promptTexts batch,
        SpellsNone text.toList := by
  rw [exists_mapM_iff]
  exact forall₂_congr fun batch _ =>
    promptTokens_ok_iff writes documented counts plan batch

end Prompt

theorem onePage_ordered : 1 ≤ 1 :=
  Nat.le_refl 1

theorem noUnits_within : ∀ unit ∈ ([] : List SourceUnit),
    1 ≤ unit.page ∧ unit.page ≤ 1 :=
  List.forall_mem_nil _

/-- A plan for one question on a page with that content. -/
def quotingPlan (content : String) : GenerationPlan :=
  let job : GenerationJob :=
    { ordinal := 0
      questionType := .fact
      window :=
        { windowId := "window"
          documentId := "document"
          documentTitle := "Report"
          pageStart := 1
          pageEnd := 1
          chunkIds := ["chunk"]
          content := content
          sourceUnits := []
          pages_ordered := onePage_ordered
          units_within := noUnits_within } }
  { planHash := "hash"
    corpusSnapshotId := "snapshot"
    modelId := "model"
    promptVersion := "benchmark-v1"
    jobs := [job]
    batches := [⟨"batch-0000", [job]⟩] }

theorem guardedPlatform_writesJson :
    guardedPlatform.WritesJson sampleFloats where
  hashes := fun _ _ => ⟨"hash", rfl, by decide⟩
  dumps := fun _ _ => rfl

/-- The tokens of the second plan cannot be counted. -/
theorem quoting_plans_counted :
    (∃ tokens, (quotingPlan "the end").batches.mapM
        (promptTokens guardedPlatform (quotingPlan "the end")) =
      .ok tokens) ∧
      ¬ ∃ tokens, (quotingPlan "<|endoftext|>").batches.mapM
        (promptTokens guardedPlatform (quotingPlan "<|endoftext|>")) =
      .ok tokens := by
  constructor
  · rw [batchTokens_ok_iff guardedPlatform_writesJson
      guardedEncoding_documented (fun _ => rfl)]
    decide +kernel
  · rw [batchTokens_ok_iff guardedPlatform_writesJson
      guardedEncoding_documented (fun _ => rfl)]
    decide +kernel

end RagBench
