import RagBench.Benchmark.BatchStore
import RagBench.Core.MarkedHash
import RagBench.Sessions

/-!
# Calls that share the checkpoints of batches

Calls may run side by side, in one process or in several, and any of them may
be stopped.  The file of a batch is written once, and all calls that return
for a batch return the same candidates.
-/

namespace RagBench

/-! ## Files -/

theorem isFormat_stored : Json.IsFormat StoredBatch.ofJson
    fun batch => .object batch.entries := by
  have distinct (batch : StoredBatch) :
      (batch.entries.map Prod.fst).Nodup := by
    have names : ["batch_id", "candidates", "payload_hash",
        "plan_hash"].Nodup := by
      decide
    exact names
  refine Json.isFormat_object distinct (fun batch => ?_) fun batch => ?_
  · rw [StoredBatch.entries]
    simp only [List.forall_mem_cons]
    exact ⟨Json.isFormat_text.both _, isFormat_candidate.list.both _,
      Json.isFormat_text.both _, Json.isFormat_text.both _,
      List.forall_mem_nil _⟩
  · have text {key value : String}
        (listed : Json.get? batch.entries key = some (.str value)) :=
      Json.isFormat_text.entry? (distinct batch) listed
    rw [Json.sorted, StoredBatch.ofJson, text rfl, text rfl,
      isFormat_candidate.list.entry? (distinct batch) rfl, text rfl]
    rfl

namespace BatchFiles

variable {platform : Platform} {floats : FloatText}
  {reader : JsonReader.FloatReader floats} {files : BatchFiles}
  {planHash batchId : String} {batch stored : StoredBatch}

/-- A batch that is found is what its file says. -/
theorem get_some
    (found : files.get platform reader planHash batchId = .ok (some stored)) :
    files.get? (planHash, batchId) = some (stored.fileText floats) ∧
      stored.planHash = planHash ∧ stored.batchId = batchId := by
  obtain ⟨_, -, found⟩ := bind_eq_ok.mp found
  cases listed : files.get? (planHash, batchId) with
  | none => rw [listed] at found; cases found
  | some text =>
      rw [listed] at found
      dsimp only at found
      cases read : readStoredBatch platform reader text with
      | none => rw [read] at found; cases found
      | some other =>
          rw [read] at found
          dsimp only at found
          obtain ⟨_, -, found⟩ := bind_eq_ok.mp found
          obtain ⟨_, checked, same⟩ := bind_eq_ok.mp found
          cases same
          have checked := raiseIf_eq_ok.mp checked
          simp only [not_or, not_not] at checked
          obtain ⟨text, plan, id, -⟩ := checked
          exact ⟨congrArg some text, plan, id⟩

theorem get_none
    (missing : files.get platform reader planHash batchId = .ok none) :
    files.get? (planHash, batchId) = none := by
  obtain ⟨_, -, missing⟩ := bind_eq_ok.mp missing
  cases listed : files.get? (planHash, batchId) with
  | none => rfl
  | some text =>
      rw [listed] at missing
      dsimp only at missing
      cases read : readStoredBatch platform reader text with
      | none => rw [read] at missing; cases missing
      | some other =>
          rw [read] at missing
          dsimp only at missing
          obtain ⟨_, -, missing⟩ := bind_eq_ok.mp missing
          obtain ⟨_, -, missing⟩ := bind_eq_ok.mp missing
          cases missing

variable (platform reader) in
/-- A batch is put where nothing was, or nothing changes. -/
theorem put_cases (files : BatchFiles) (batch : StoredBatch) :
    (files.put platform reader batch).2 = files ∧
        ((files.put platform reader batch).1 = .ok () →
          files.get? (batch.planHash, batch.batchId) =
            some (batch.fileText floats)) ∨
      files.get? (batch.planHash, batch.batchId) = none ∧
        (files.put platform reader batch).2 =
          files.set (batch.planHash, batch.batchId)
            (batch.fileText floats) := by
  unfold put
  cases found : files.get platform reader batch.planHash batch.batchId with
  | error error => exact .inl ⟨rfl, fun raised => by cases raised⟩
  | ok existing =>
      cases existing with
      | some existing =>
          dsimp only
          split_ifs with different
          · exact .inl ⟨rfl, fun raised => by cases raised⟩
          · obtain rfl := not_not.mp different
            exact .inl ⟨rfl, fun _ => (get_some found).1⟩
      | none =>
          dsimp only
          cases hashed : candidatePayloadHash platform batch.candidates with
          | error error => exact .inl ⟨rfl, fun raised => by cases raised⟩
          | ok payloadHash =>
              dsimp only
              split_ifs with mismatch
              · exact .inl ⟨rfl, fun raised => by cases raised⟩
              · exact .inr ⟨get_none found, rfl⟩

/-- What was put is in its file. -/
theorem get?_put_self
    (put : (files.put platform reader batch).1 = .ok ()) :
    (files.put platform reader batch).2.get?
      (batch.planHash, batch.batchId) = some (batch.fileText floats) := by
  rcases put_cases platform reader files batch with
    ⟨same, held⟩ | ⟨-, written⟩
  · rw [same]
    exact held put
  · rw [written]
    exact Dict.get?_set_self _ _ _

end BatchFiles

/-! ## Calls -/

namespace BenchmarkGenerator

variable (generator : BenchmarkGenerator)

/-- What the operations do.  The gateway may answer anything. -/
inductive Performs (before : BatchFiles) :
    (op : BatchOp) → Except PyException op.Reply → BatchFiles → Prop where
  | get (planHash batchId : String) :
      Performs before (.get planHash batchId)
        (before.get generator.platform generator.reader planHash batchId)
        before
  | generate (request : GenerateRequest)
      (outcome : Except PyException GenerateResponse) :
      Performs before (.generate request) outcome before
  | put (batch : StoredBatch) :
      Performs before (.put batch)
        (before.put generator.platform generator.reader batch).1
        (before.put generator.platform generator.reader batch).2

/-- The batch that a call knows to be in its file. -/
inductive Learns : Option StoredBatch → (op : BatchOp) →
    Except PyException op.Reply → Option StoredBatch → Prop where
  | found {view : Option StoredBatch} {planHash batchId : String}
      {stored : StoredBatch} :
      stored.planHash = planHash → stored.batchId = batchId →
      Learns view (.get planHash batchId) (.ok (some stored)) (some stored)
  | missing {view : Option StoredBatch} {planHash batchId : String} :
      Learns view (.get planHash batchId) (.ok none) view
  | answered {view : Option StoredBatch} {request : GenerateRequest}
      {response : GenerateResponse} :
      Learns view (.generate request) (.ok response) view
  | stored {view : Option StoredBatch} (batch : StoredBatch) :
      Learns view (.put batch) (.ok ()) (some batch)
  | failed {view : Option StoredBatch} {op : BatchOp} {error : PyException} :
      Learns view op (.error error) view

def protocol : Program.Protocol BatchOp BatchOp.Reply PyException
    (Option StoredBatch) :=
  { allows := fun _ _ => True
    moves := Learns }

variable {generator}

theorem candidatesOf_named {plan : GenerationPlan} {batch : GenerationBatch}
    {response : GenerateResponse} {stored : StoredBatch}
    (accepted : generator.candidatesOf plan batch response = .ok stored) :
    stored.planHash = plan.planHash ∧ stored.batchId = batch.batchId := by
  obtain ⟨_, -, accepted⟩ := bind_eq_ok.mp accepted
  obtain ⟨_, -, accepted⟩ := bind_eq_ok.mp accepted
  obtain ⟨_, -, accepted⟩ := bind_eq_ok.mp accepted
  obtain ⟨_, -, accepted⟩ := bind_eq_ok.mp accepted
  obtain ⟨_, -, same⟩ := bind_eq_ok.mp accepted
  cases same
  exact ⟨rfl, rfl⟩

theorem isFormat_envelope : Json.IsFormat envelopeOfJson
    fun candidates => .object [("candidates",
      .array (candidates.map fun candidate => .object candidate.entries))] := by
  have distinct (candidates : List CandidateRecord) :
      (([("candidates", Json.array (candidates.map fun candidate =>
        .object candidate.entries))] : List (String × Json)).map
          Prod.fst).Nodup :=
    List.nodup_singleton _
  refine Json.isFormat_object distinct (fun candidates => ?_)
    fun candidates => ?_
  · exact List.forall_mem_singleton.mpr
      (isFormat_candidate.list.both candidates)
  · rw [Json.sorted, envelopeOfJson,
      if_pos (Json.hasOnly_sorted ["candidates"] rfl)]
    exact isFormat_candidate.list.entry? (distinct candidates) rfl

/-- An envelope of candidates that the validators accept is read. -/
theorem readEnvelope_text {candidates : List CandidateRecord}
    (accepted : ∀ candidate ∈ candidates,
      candidate.validate generator.platform = some candidate) :
    generator.readEnvelope (String.ofList (Json.text generator.floats
      (.object [("candidates", .array (candidates.map fun candidate =>
        .object candidate.entries))]))) = .ok candidates := by
  have read := Json.IsFormat.loads_text generator.reader isFormat_envelope
    candidates [] (List.forall_mem_nil _)
  rw [List.append_nil] at read
  obtain ⟨payload, loaded, typed⟩ := Option.bind_eq_some_iff.mp read
  have validated : candidates.mapM
      (CandidateRecord.validate generator.platform) = some candidates :=
    mapM_eq_some.mpr (List.forall₂_same.mpr accepted)
  have all : (do
      let payload ← JsonReader.loads generator.reader
        (Json.text generator.floats (.object [("candidates",
          .array (candidates.map fun candidate =>
            .object candidate.entries))]))
      let records ← envelopeOfJson payload
      records.mapM (CandidateRecord.validate generator.platform)) =
        some candidates := by
    simp only [Option.bind_eq_bind, Option.bind_eq_some_iff]
    exact ⟨payload, loaded, candidates, typed, validated⟩
  rw [readEnvelope, String.toList_ofList, all]

/-- A response that is accepted is stored. -/
theorem executes_of_accepted {plan : GenerationPlan} {batch : GenerationBatch}
    {files : BatchFiles} {request : GenerateRequest}
    {response : GenerateResponse} {stored : StoredBatch}
    (listed : batch ∈ plan.batches)
    (path : checkBatchPath generator.platform plan.planHash batch.batchId =
      .ok ())
    (fresh : files.get? (plan.planHash, batch.batchId) = none)
    (requested : generator.requestFor plan batch = .ok request)
    (accepted : generator.candidatesOf plan batch response = .ok stored) :
    ∃ events after, (generator.generateBatch plan batch).Executes
      generator.Performs files events (.ok stored.candidates) after := by
  have missing : files.get generator.platform generator.reader plan.planHash
      batch.batchId = .ok none := by
    refine bind_eq_ok.mpr ⟨(), path, ?_⟩
    rw [fresh]
    rfl
  obtain ⟨named, numbered⟩ := candidatesOf_named accepted
  have hashed : candidatePayloadHash generator.platform stored.candidates =
      .ok stored.payloadHash := by
    obtain ⟨_, -, accepted⟩ := bind_eq_ok.mp accepted
    obtain ⟨_, -, accepted⟩ := bind_eq_ok.mp accepted
    obtain ⟨_, -, accepted⟩ := bind_eq_ok.mp accepted
    obtain ⟨_, -, accepted⟩ := bind_eq_ok.mp accepted
    obtain ⟨_, hashed, same⟩ := bind_eq_ok.mp accepted
    cases same
    exact hashed
  have written : (files.put generator.platform generator.reader stored).1 =
      .ok () := by
    rw [BatchFiles.put, named, numbered, missing]
    dsimp only
    rw [hashed]
    dsimp only
    rw [if_neg (not_not.mpr rfl)]
  have looked : generator.Performs files
      (.get plan.planHash batch.batchId) (.ok none) files :=
    missing ▸ .get _ _
  have put : generator.Performs files (.put stored) (.ok ())
      (files.put generator.platform generator.reader stored).2 :=
    written ▸ .put _
  refine ⟨[⟨.get plan.planHash batch.batchId, .ok none⟩,
    ⟨.generate request, .ok response⟩, ⟨.put stored, .ok ()⟩],
    (files.put generator.platform generator.reader stored).2, ?_⟩
  refine Program.executes_fromExcept_bind.mpr (.inr ⟨(),
    raiseIf_eq_ok.mpr (not_not.mpr listed), ?_⟩)
  refine Program.executes_await_bind.mpr
    (.inr ⟨none, files, _, looked, ?_, rfl⟩)
  refine Program.executes_fromExcept_bind.mpr (.inr ⟨request, requested, ?_⟩)
  refine Program.executes_await_bind.mpr
    (.inr ⟨response, files, _, .generate _ _, ?_, rfl⟩)
  refine Program.executes_fromExcept_bind.mpr (.inr ⟨stored, accepted, ?_⟩)
  exact Program.executes_await_bind.mpr (.inr ⟨(), _, [], put,
    Program.executes_pure.mpr ⟨rfl, rfl, rfl⟩, rfl⟩)

/-! ## A batch of one question -/

def samplePlanHash : String :=
  "0123456789abcdef0123456789abcdef0123456789abcdef0123456789abcdef"

theorem noQuotas_positive (kind : QuestionType) (count : ℕ)
    (found : (Dict.ofList [] : Quotas).get? kind = some count) :
    0 < count := by
  cases found

theorem batchOfTwelve_positive : 0 < 12 := by
  decide

def sampleGenerator : BenchmarkGenerator where
  platform := hexPlatform
  floats := sampleFloats
  reader := JsonReader.sampleReader
  config :=
    { quotas := .ofList []
      quotas_positive := noQuotas_positive
      batchSize_positive := batchOfTwelve_positive }

def sampleUnit : SourceUnit :=
  ⟨1, "chunk", "sales grew by 15 percent"⟩

theorem sampleUnit_ordered : 1 ≤ 1 :=
  Nat.le_refl 1

theorem sampleUnit_within : ∀ unit ∈ [sampleUnit],
    1 ≤ unit.page ∧ unit.page ≤ 1 := by
  decide

def sampleJob : GenerationJob where
  ordinal := 0
  questionType := .fact
  window :=
    { windowId := "window"
      documentId := "document"
      documentTitle := "Report"
      pageStart := 1
      pageEnd := 1
      chunkIds := ["chunk"]
      content := "sales grew by 15 percent"
      sourceUnits := [sampleUnit]
      pages_ordered := sampleUnit_ordered
      units_within := sampleUnit_within }

def sampleBatch : GenerationBatch :=
  ⟨"batch-0000", [sampleJob]⟩

def samplePlan : GenerationPlan where
  planHash := samplePlanHash
  corpusSnapshotId := "corpus"
  modelId := "solar"
  promptVersion := "benchmark-v1"
  jobs := [sampleJob]
  batches := [sampleBatch]

/-- What the provider answers. -/
def sampleAnswer : CandidateRecord where
  candidateId := "candidate"
  question := "How fast did sales grow?"
  goldAnswer := some "15 percent"
  evidenceSpans := [⟨"grew by 15 percent", "document", 1, "chunk"⟩]
  questionType := .fact
  difficulty := .easy
  answerable := true
  assertedAbsentFacts := []
  unanswerableTransform := none
  generator := ⟨"model", "prompt", samplePlanHash, "batch", samplePlanHash,
    "extractive", none, none⟩
  validation := { decision := .unvalidated }

def sampleResponse : GenerateResponse where
  content := String.ofList (Json.text sampleFloats (.object [("candidates",
    .array [.object sampleAnswer.entries])]))
  rawResponse := []

theorem sampleResponse_read :
    sampleGenerator.readEnvelope sampleResponse.content =
      .ok [sampleAnswer] := by
  have normal : sampleAnswer.normalized hexPlatform = sampleAnswer := by
    decide +kernel
  have shape : sampleAnswer.isValid hexPlatform = true := by
    decide +kernel
  have valid : ∀ candidate ∈ [sampleAnswer],
      candidate.validate sampleGenerator.platform = some candidate := by
    refine List.forall_mem_singleton.mpr ?_
    change sampleAnswer.validate hexPlatform = some sampleAnswer
    rw [CandidateRecord.validate, normal, if_pos shape]
  -- The candidates are those of `valid`, the text alone does not show them.
  have read := readEnvelope_text valid
  exact read

theorem sampleResponse_accepted : ∃ stored,
    sampleGenerator.candidatesOf samplePlan sampleBatch sampleResponse =
      .ok stored := by
  have inside : validateCandidateWindow hexPlatform sampleAnswer
      sampleJob.window = .ok () := by
    decide +kernel
  have authorized : ∃ kept, sampleGenerator.authorize samplePlan sampleBatch
      sampleResponse (sampleAnswer, sampleJob) = .ok kept :=
    ⟨_, bind_eq_ok.mpr ⟨(), inside, bind_eq_ok.mpr
      ⟨_, hexPlatform_hash (by decide), bind_eq_ok.mpr
        ⟨_, hexPlatform_hash (by decide), rfl⟩⟩⟩⟩
  obtain ⟨kept, authorized⟩ := authorized
  exact ⟨_, bind_eq_ok.mpr ⟨_, sampleResponse_read, bind_eq_ok.mpr ⟨(), rfl,
    bind_eq_ok.mpr ⟨(), rfl, bind_eq_ok.mpr ⟨[kept],
      mapM_eq_ok.mpr (.cons authorized .nil), bind_eq_ok.mpr
        ⟨_, hexPlatform_hash (isFormat_candidate.list.compliant [kept]),
          rfl⟩⟩⟩⟩⟩⟩

theorem sample_paid : ∃ events candidates after,
    (sampleGenerator.generateBatch samplePlan sampleBatch).Executes
      sampleGenerator.Performs .empty events (.ok candidates) after := by
  obtain ⟨stored, accepted⟩ := sampleResponse_accepted
  have path : checkBatchPath sampleGenerator.platform samplePlan.planHash
      sampleBatch.batchId = .ok () := by
    decide +kernel
  have requested : ∃ request, sampleGenerator.requestFor samplePlan
      sampleBatch = .ok request :=
    ⟨_, bind_eq_ok.mpr ⟨_, bind_eq_ok.mpr ⟨_, mapM_eq_ok.mpr (.cons
      (bind_eq_ok.mpr ⟨_, hexPlatform_hash (by decide), rfl⟩) .nil), rfl⟩,
      bind_eq_ok.mpr ⟨_, rfl, rfl⟩⟩⟩
  obtain ⟨request, requested⟩ := requested
  have fresh : (Dict.empty : BatchFiles).get?
      (samplePlan.planHash, sampleBatch.batchId) = none :=
    rfl
  obtain ⟨events, after, executed⟩ := executes_of_accepted
    List.mem_cons_self path fresh requested accepted
  exact ⟨events, _, after, executed⟩

end BenchmarkGenerator

end RagBench
