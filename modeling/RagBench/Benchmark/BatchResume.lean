import RagBench.Benchmark.BatchAgreement
import RagBench.Related

/-!
# Stored batches that are read again

A batch that was paid for is read again by every later call exactly when its
plan names a model and a prompt version.  The validators let both be empty in
a plan, but not in the candidates that are read back.
-/

namespace RagBench

/-! ## Candidates that are read back -/

/-- A normalized text stays normalized when its words are joined anew. -/
def Platform.KeepsWords (platform : Platform) : Prop :=
  ∀ text, platform.nfkc
      (" ".intercalate (splitWords (platform.nfkc text))) =
    " ".intercalate (splitWords (platform.nfkc text))

theorem strip_of_isHexDigest {text : String}
    (digest : isHexDigest text = true) : strip text = text := by
  unfold isHexDigest at digest
  rw [decide_eq_true_eq, List.all_eq_true] at digest
  refine strip_eq_self fun character member => ?_
  have range : (48 ≤ character.toNat ∧ character.toNat ≤ 57) ∨
      (97 ≤ character.toNat ∧ character.toNat ≤ 102) :=
    of_decide_eq_true (digest.2 character member)
  unfold isSpace
  rw [decide_eq_false_iff_not]
  simp only [List.mem_cons, List.not_mem_nil, or_false]
  omega

theorem ne_empty_of_isHexDigest {text : String}
    (digest : isHexDigest text = true) : text ≠ "" := by
  rintro rfl
  revert digest
  decide

namespace CandidateRecord

variable {platform : Platform} {candidate kept : CandidateRecord}

theorem normalizeAnswer_again (keeps : platform.KeepsWords)
    {value answer : String}
    (normalized : normalizeAnswer platform value = some answer) :
    normalizeAnswer platform answer = some answer := by
  simp only [normalizeAnswer] at normalized ⊢
  split_ifs at normalized with empty
  obtain rfl := Option.some.inj normalized
  rw [keeps value, splitWords_intercalate fun word => isWord_of_mem,
    if_neg empty]

theorem normalized_again (keeps : platform.KeepsWords)
    (candidate : CandidateRecord) :
    (candidate.normalized platform).normalized platform =
      candidate.normalized platform := by
  have answer : (candidate.goldAnswer.bind (normalizeAnswer platform)).bind
      (normalizeAnswer platform) =
        candidate.goldAnswer.bind (normalizeAnswer platform) := by
    cases candidate.goldAnswer with
    | none => rfl
    | some value =>
        rw [Option.bind_some]
        cases first : normalizeAnswer platform value with
        | none => rfl
        | some answer => exact normalizeAnswer_again keeps first
  simp only [normalized, strip_strip, answer]

theorem validate_eq_some :
    candidate.validate platform = some kept ↔
      candidate.normalized platform = kept ∧
        kept.isValid platform = true := by
  simp only [validate]
  constructor
  · intro validated
    split_ifs at validated with valid
    obtain rfl := Option.some.inj validated
    exact ⟨rfl, valid⟩
  · rintro ⟨rfl, valid⟩
    exact if_pos valid

/-- What was validated is validated again. -/
theorem validate_again (keeps : platform.KeepsWords)
    (validated : candidate.validate platform = some kept) :
    kept.validate platform = some kept := by
  obtain ⟨rfl, valid⟩ := validate_eq_some.mp validated
  exact validate_eq_some.mpr ⟨normalized_again keeps candidate, valid⟩

end CandidateRecord

/-- A candidate under the names of its plan. -/
structure IsKept (generator : BenchmarkGenerator) (plan : GenerationPlan)
    (batch : GenerationBatch) (job : GenerationJob)
    (candidate : CandidateRecord) : Prop where
  candidateId : generator.platform.canonicalJsonHash
    (candidateIdentity plan job) = .ok candidate.candidateId
  windowHash : generator.platform.canonicalJsonHash job.window.dump =
    .ok candidate.generator.sourceWindowHash
  questionType : candidate.questionType = job.questionType
  modelId : candidate.generator.modelId = plan.modelId
  promptVersion : candidate.generator.promptVersion = plan.promptVersion
  planHash : candidate.generator.planHash = plan.planHash
  batchId : candidate.generator.batchId = batch.batchId
  window : validateCandidateWindow generator.platform candidate job.window =
    .ok ()
  source : ∃ accepted : CandidateRecord,
    accepted.normalized generator.platform = accepted ∧
      accepted.isValid generator.platform = true ∧
      candidate = { accepted with
        candidateId := candidate.candidateId
        generator := { accepted.generator with
          modelId := candidate.generator.modelId
          promptVersion := candidate.generator.promptVersion
          planHash := candidate.generator.planHash
          batchId := candidate.generator.batchId
          sourceWindowHash := candidate.generator.sourceWindowHash
          correlationId := candidate.generator.correlationId
          cacheHit := candidate.generator.cacheHit } }

namespace BenchmarkGenerator

variable {generator : BenchmarkGenerator} {plan : GenerationPlan}
  {batch : GenerationBatch} {response : GenerateResponse}

/-- What the envelope accepts has been validated. -/
theorem readEnvelope_validated {content : String}
    {candidates : List CandidateRecord}
    (read : generator.readEnvelope content = .ok candidates) :
    ∀ candidate ∈ candidates, ∃ source : CandidateRecord,
      source.validate generator.platform = some candidate := by
  simp only [readEnvelope] at read
  split at read
  · next found accepted =>
      obtain rfl := Except.ok.inj read
      simp only [Option.bind_eq_bind, Option.bind_eq_some_iff] at accepted
      obtain ⟨payload, -, records, -, validated⟩ := accepted
      intro candidate member
      obtain ⟨source, -, same⟩ :=
        exists_left_of_forall₂ (mapM_eq_some.mp validated) member
      exact ⟨source, same⟩
  · cases read

/-- The window does not look at the names. -/
theorem validateCandidateWindow_congr {platform : Platform}
    {first second : CandidateRecord} (window : SourceWindow)
    (transform : first.unanswerableTransform = second.unanswerableTransform)
    (spans : first.evidenceSpans = second.evidenceSpans) :
    validateCandidateWindow platform first window =
      validateCandidateWindow platform second window := by
  rw [validateCandidateWindow, validateCandidateWindow, transform, spans]

theorem authorize_kept (keeps : generator.platform.KeepsWords)
    {job : GenerationJob} {source accepted candidate : CandidateRecord}
    (validated : source.validate generator.platform = some accepted)
    (kind : accepted.questionType = job.questionType)
    (authorized : generator.authorize plan batch response (accepted, job) =
      .ok candidate) :
    IsKept generator plan batch job candidate := by
  obtain ⟨_, window, authorized⟩ := bind_eq_ok.mp authorized
  obtain ⟨windowHash, hashed, authorized⟩ := bind_eq_ok.mp authorized
  obtain ⟨candidateId, identified, same⟩ := bind_eq_ok.mp authorized
  cases same
  obtain ⟨normalized, valid⟩ := CandidateRecord.validate_eq_some.mp
    (CandidateRecord.validate_again keeps validated)
  exact
    { candidateId := identified
      windowHash := hashed
      questionType := kind
      modelId := rfl
      promptVersion := rfl
      planHash := rfl
      batchId := rfl
      window := (validateCandidateWindow_congr _ rfl rfl).trans window
      source := ⟨accepted, normalized, valid, rfl⟩ }

theorem authorize_each (keeps : generator.platform.KeepsWords)
    {jobs : List GenerationJob} {candidates kept : List CandidateRecord}
    (validated : ∀ candidate ∈ candidates, ∃ source : CandidateRecord,
      source.validate generator.platform = some candidate)
    (types : candidates.map CandidateRecord.questionType =
      jobs.map GenerationJob.questionType)
    (authorized : List.Forall₂ (fun pair candidate =>
      generator.authorize plan batch response pair = .ok candidate)
        (candidates.zip jobs) kept) :
    List.Forall₂ (IsKept generator plan batch) jobs kept := by
  induction jobs generalizing candidates kept with
  | nil =>
      obtain rfl := List.map_eq_nil_iff.mp types
      cases authorized
      exact .nil
  | cons job jobs induction =>
      obtain ⟨first, rest, rfl, kind, types⟩ := List.map_eq_cons_iff.mp types
      obtain ⟨⟨source, here⟩, validated⟩ := List.forall_mem_cons.mp validated
      obtain _ | ⟨authorized, each⟩ := authorized
      exact .cons (authorize_kept keeps here kind authorized)
        (induction validated types each)

/-- The candidates of a response stand with their jobs. -/
theorem candidatesOf_kept (keeps : generator.platform.KeepsWords)
    {stored : StoredBatch}
    (accepted : generator.candidatesOf plan batch response = .ok stored) :
    List.Forall₂ (IsKept generator plan batch) batch.jobs
        stored.candidates ∧
      candidatePayloadHash generator.platform stored.candidates =
        .ok stored.payloadHash := by
  obtain ⟨candidates, read, accepted⟩ := bind_eq_ok.mp accepted
  obtain ⟨_, planned, accepted⟩ := bind_eq_ok.mp accepted
  obtain ⟨_, -, accepted⟩ := bind_eq_ok.mp accepted
  obtain ⟨authoritative, authorized, accepted⟩ := bind_eq_ok.mp accepted
  obtain ⟨payloadHash, hashed, same⟩ := bind_eq_ok.mp accepted
  cases same
  have types := not_not.mp (not_or.mp (raiseIf_eq_ok.mp planned)).2
  exact ⟨authorize_each keeps (readEnvelope_validated read) types
    (mapM_eq_ok.mp authorized), hashed⟩

/-- A plan whose batches can be read back. -/
def Names (plan : GenerationPlan) : Prop :=
  plan.modelId ≠ "" ∧ plan.promptVersion ≠ ""

end BenchmarkGenerator

section Reading

variable {generator : BenchmarkGenerator} {plan : GenerationPlan}
  {batch : GenerationBatch} {job : GenerationJob}
  {candidate : CandidateRecord}

open BenchmarkGenerator (Names)

/-- A candidate under the names of its plan is read back as it is, or not at
all. -/
theorem IsKept.validate
    (hashes : generator.platform.HashesCanonically generator.floats)
    (hex : ∀ bytes, isHexDigest (generator.platform.sha256Hex bytes) = true)
    (plans : isHexDigest plan.planHash = true) (batches : batch.batchId ≠ "")
    (kept : IsKept generator plan batch job candidate) :
    (Names plan → candidate.validate generator.platform = some candidate) ∧
      (¬ Names plan → candidate.validate generator.platform = none) := by
  have digest {value : Json} {text : String} (hashed :
      generator.platform.canonicalJsonHash value = .ok text) :
      isHexDigest text = true := by
    rw [hashes] at hashed
    obtain ⟨_, -, same⟩ := bind_eq_ok.mp hashed
    exact Except.ok.inj same ▸ hex _
  have id := digest kept.candidateId
  have window := digest kept.windowHash
  obtain ⟨accepted, normalized, valid, same⟩ := kept.source
  have normal : candidate.normalized generator.platform = candidate := by
    have question := congrArg CandidateRecord.question normalized
    have answer := congrArg CandidateRecord.goldAnswer normalized
    simp only [CandidateRecord.normalized] at question answer
    rw [same]
    simp only [CandidateRecord.normalized, strip_of_isHexDigest id, question,
      answer]
  have names : candidate.isValid generator.platform = true ↔ Names plan := by
    have known : accepted.generator.reasoningKind ≠ "" ∧
        (accepted.question ≠ "" ∧
          (accepted.evidenceSpans.all EvidenceSpan.isValid = true) ∧
          ((accepted.assertedAbsentFacts.all fun fact =>
            strip fact ≠ "") = true) ∧
          (accepted.unanswerableTransform.all
            (TransformRecord.isValid generator.platform) = true) ∧
          accepted.validation.isValid = true ∧ accepted.hasShape = true) := by
      simp only [CandidateRecord.isValid, GeneratorMetadata.isValid,
        decide_eq_true_eq] at valid
      tauto
    have shape : candidate.hasShape = accepted.hasShape := by
      rw [same]
      rfl
    have model := kept.modelId
    have version := kept.promptVersion
    have hash := kept.planHash
    have number := kept.batchId
    have nonempty := ne_empty_of_isHexDigest id
    rw [CandidateRecord.isValid, shape, GeneratorMetadata.isValid, model,
      version, hash, number, same]
    simp only [known, plans, batches, window, nonempty, decide_eq_true_eq,
      Names, ne_eq, not_false_eq_true, true_and, and_true]
  constructor
  · intro named
    exact CandidateRecord.validate_eq_some.mpr ⟨normal, names.mpr named⟩
  · intro unnamed
    rw [CandidateRecord.validate, normal,
      if_neg fun valid => unnamed (names.mp valid)]

/-- What a file says, after its candidates have been validated. -/
theorem readStoredBatch_fileText (platform : Platform) {floats : FloatText}
    (reader : JsonReader.FloatReader floats) (stored : StoredBatch) :
    readStoredBatch platform reader (stored.fileText floats) =
      (stored.candidates.mapM (CandidateRecord.validate platform)).map
        fun candidates => { stored with candidates := candidates } := by
  have read := Json.IsFormat.loads_text reader isFormat_stored stored ['\n']
    (List.forall_mem_singleton.mpr (by decide))
  obtain ⟨payload, loaded, typed⟩ := Option.bind_eq_some_iff.mp read
  rw [readStoredBatch, StoredBatch.fileText, String.toList_ofList, loaded]
  change (StoredBatch.ofJson payload >>= _) = _
  rw [typed]
  change (stored.candidates.mapM (CandidateRecord.validate platform)).bind _ =
    _
  cases stored.candidates.mapM (CandidateRecord.validate platform) with
  | none => rfl
  | some candidates => rfl

section Files

variable {platform : Platform} {floats : FloatText}
  (reader : JsonReader.FloatReader floats) {files : BatchFiles}
  {stored : StoredBatch}
  (path : checkBatchPath platform stored.planHash stored.batchId = .ok ())
  (listed : files.get? (stored.planHash, stored.batchId) =
    some (stored.fileText floats))
include path listed

/-- A file whose candidates are accepted as they are is found. -/
theorem BatchFiles.get_validated
    (validated : ∀ candidate ∈ stored.candidates,
      candidate.validate platform = some candidate)
    (hashed : candidatePayloadHash platform stored.candidates =
      .ok stored.payloadHash) :
    files.get platform reader stored.planHash stored.batchId =
      .ok (some stored) := by
  have same : stored.candidates.mapM (CandidateRecord.validate platform) =
      some stored.candidates :=
    mapM_eq_some.mpr (List.forall₂_same.mpr validated)
  have read := readStoredBatch_fileText platform reader stored
  rw [same, Option.map_some] at read
  refine bind_eq_ok.mpr ⟨(), path, ?_⟩
  rw [listed]
  dsimp only
  rw [read]
  refine bind_eq_ok.mpr ⟨stored.payloadHash, hashed, ?_⟩
  exact raiseIf_bind (by simp)

/-- A file with a candidate that is not accepted is never found. -/
theorem BatchFiles.get_invalid {candidate : CandidateRecord}
    (member : candidate ∈ stored.candidates)
    (invalid : candidate.validate platform = none) :
    files.get platform reader stored.planHash stored.batchId =
      .error checkpointError := by
  have none : stored.candidates.mapM (CandidateRecord.validate platform) =
      none := by
    cases found : stored.candidates.mapM
        (CandidateRecord.validate platform) with
    | none => rfl
    | some candidates =>
        obtain ⟨_, -, same⟩ :=
          exists_right_of_forall₂ (mapM_eq_some.mp found) member
        cases invalid.symm.trans same
  have read := readStoredBatch_fileText platform reader stored
  rw [none, Option.map_none] at read
  rw [get, path]
  dsimp only [bind, Except.bind]
  rw [listed]
  dsimp only
  rw [read]

end Files

/-- Candidates under the names of their plan pass the later checks. -/
theorem validateResumedCandidates_kept {candidates : List CandidateRecord}
    (kept : List.Forall₂ (IsKept generator plan batch) batch.jobs
      candidates) :
    validateResumedCandidates generator.platform plan batch candidates =
      .ok () := by
  refine bind_eq_ok.mpr ⟨(), raiseIf_eq_ok.mpr
    (not_not.mpr kept.length_eq.symm), forM_eq_ok.mpr ?_⟩
  rintro ⟨candidate, job⟩ member
  have here := List.forall₂_zip kept.flip member
  refine bind_eq_ok.mpr ⟨_, here.candidateId, bind_eq_ok.mpr
    ⟨_, here.windowHash, bind_eq_ok.mpr ⟨(), raiseIf_eq_ok.mpr ?_, ?_⟩⟩⟩
  · simp [here.questionType, here.modelId, here.promptVersion, here.planHash,
      here.batchId]
  · rw [here.window]

end Reading

/-! ## Later calls -/

namespace BenchmarkGenerator

variable {generator : BenchmarkGenerator} {plan : GenerationPlan}
  {batch : GenerationBatch}

/-- What was stored by a call that paid. -/
theorem stored_of_paid {files after : BatchFiles}
    {events : List (Awaited BatchOp BatchOp.Reply PyException)}
    {candidates : List CandidateRecord}
    (fresh : files.get? (plan.planHash, batch.batchId) = none)
    (paid : (generator.generateBatch plan batch).Executes generator.Performs
      files events (.ok candidates) after) :
    batch ∈ plan.batches ∧
      checkBatchPath generator.platform plan.planHash batch.batchId =
        .ok () ∧
      ∃ response stored,
        generator.candidatesOf plan batch response = .ok stored ∧
        stored.candidates = candidates ∧
        after.get? (plan.planHash, batch.batchId) =
          some (stored.fileText generator.floats) := by
  rw [generateBatch] at paid
  obtain ⟨_, _, wrong, -⟩ | ⟨_, listed, paid⟩ :=
    Program.executes_fromExcept_bind.mp paid
  · cases wrong
  have listed := not_not.mp (raiseIf_eq_ok.mp listed)
  obtain ⟨_, -, wrong, -⟩ | ⟨found, middle, _, looked, paid, -⟩ :=
    Program.executes_await_bind.mp paid
  · cases wrong
  generalize answered : Except.ok found = outcome at looked
  cases looked with
  | get =>
      obtain ⟨_, path, -⟩ := bind_eq_ok.mp answered.symm
      refine ⟨listed, path, ?_⟩
      cases found with
      | some stored =>
          cases fresh.symm.trans (BatchFiles.get_some answered.symm).1
      | none =>
          dsimp only at paid
          obtain ⟨_, _, wrong, -⟩ | ⟨request, -, paid⟩ :=
            Program.executes_fromExcept_bind.mp paid
          · cases wrong
          obtain ⟨_, -, wrong, -⟩ | ⟨response, _, _, -, paid, -⟩ :=
            Program.executes_await_bind.mp paid
          · cases wrong
          obtain ⟨_, _, wrong, -⟩ | ⟨stored, accepted, paid⟩ :=
            Program.executes_fromExcept_bind.mp paid
          · cases wrong
          obtain ⟨_, -, wrong, -⟩ | ⟨_, _, _, put, paid, -⟩ :=
            Program.executes_await_bind.mp paid
          · cases wrong
          obtain ⟨-, same, rfl⟩ := Program.executes_pure.mp paid
          obtain rfl := Except.ok.inj same
          refine ⟨response, stored, accepted, rfl, ?_⟩
          obtain ⟨named, numbered⟩ := candidatesOf_named accepted
          rw [← named, ← numbered]
          generalize kept : Except.ok () = outcome at put
          cases put with
          | put => exact BatchFiles.get?_put_self kept.symm

/-- Every later call returns these candidates, writes nothing and pays for
nothing. -/
def Resumes (generator : BenchmarkGenerator) (plan : GenerationPlan)
    (batch : GenerationBatch) (files : BatchFiles)
    (candidates : List CandidateRecord) : Prop :=
  ∀ events result after,
    (generator.generateBatch plan batch).Executes generator.Performs files
      events result after ↔
    events = [⟨.get plan.planHash batch.batchId,
        files.get generator.platform generator.reader plan.planHash
          batch.batchId⟩] ∧
      result = .ok candidates ∧ after = files

/-- A stored batch that is found is what every later call returns. -/
theorem resumes_of_get {files : BatchFiles} {stored : StoredBatch}
    (listed : batch ∈ plan.batches)
    (found : files.get generator.platform generator.reader plan.planHash
      batch.batchId = .ok (some stored))
    (valid : validateResumedCandidates generator.platform plan batch
      stored.candidates = .ok ()) :
    Resumes generator plan batch files stored.candidates := by
  intro events result after
  rw [found, generateBatch, raiseIf, if_neg (not_not.mpr listed)]
  refine Program.executes_await_bind.trans ⟨?_, ?_⟩
  · rintro (⟨error, looked, -⟩ |
      ⟨answer, middle, later, looked, executed, rfl⟩)
    · generalize answered : Except.error error = outcome at looked
      cases looked with
      | get => cases answered.trans found
    · generalize answered : Except.ok answer = outcome at looked
      cases looked with
      | get =>
          obtain rfl := Except.ok.inj (answered.trans found)
          dsimp only at executed
          rw [valid] at executed
          obtain ⟨rfl, same, rfl⟩ := Program.executes_pure.mp executed
          exact ⟨by rw [found], same, rfl⟩
  · rintro ⟨rfl, rfl, rfl⟩
    refine .inr ⟨some stored, after, [], found ▸ .get _ _, ?_, rfl⟩
    dsimp only
    rw [valid]
    exact Program.executes_pure.mpr ⟨rfl, rfl, rfl⟩

/-- A checkpoint that is rejected fails every later call. -/
theorem fails_of_get {files : BatchFiles} {error : PyException}
    (listed : batch ∈ plan.batches)
    (rejected : files.get generator.platform generator.reader plan.planHash
      batch.batchId = .error error) :
    (generator.generateBatch plan batch).Executes generator.Performs files
      [⟨.get plan.planHash batch.batchId, .error error⟩] (.error error)
        files := by
  rw [generateBatch, raiseIf, if_neg (not_not.mpr listed)]
  refine Program.executes_await_bind.mpr (.inl ⟨error, ?_, rfl, rfl⟩)
  rw [← rejected]
  exact .get _ _

theorem batchId_ne_empty {platform : Platform} {planHash batchId : String}
    (path : checkBatchPath platform planHash batchId = .ok ()) :
    isHexDigest planHash = true ∧ batchId ≠ "" := by
  obtain ⟨_, plans, path⟩ := bind_eq_ok.mp path
  refine ⟨by simpa using raiseIf_eq_ok.mp plans, ?_⟩
  rintro rfl
  exact raiseIf_eq_ok.mp path rfl

/-- What was paid for is returned by every later call exactly when the plan
names its model and its prompt version, or the batch is empty. -/
theorem stored_batch_resumes_iff
    (hashes : generator.platform.HashesCanonically generator.floats)
    (hex : ∀ bytes, isHexDigest (generator.platform.sha256Hex bytes) = true)
    (keeps : generator.platform.KeepsWords)
    {files middle after : BatchFiles}
    {events : List (Awaited BatchOp BatchOp.Reply PyException)}
    {candidates : List CandidateRecord}
    (fresh : files.get? (plan.planHash, batch.batchId) = none)
    (paid : (generator.generateBatch plan batch).Executes generator.Performs
      files events (.ok candidates) middle)
    (grown : ∀ key text, middle.get? key = some text →
      after.get? key = some text) :
    Resumes generator plan batch after candidates ↔
      batch.jobs = [] ∨ Names plan := by
  obtain ⟨listed, path, response, stored, accepted, rfl, held⟩ :=
    stored_of_paid fresh paid
  obtain ⟨named, numbered⟩ := candidatesOf_named accepted
  obtain ⟨kept, hashed⟩ := candidatesOf_kept keeps accepted
  obtain ⟨plans, nonempty⟩ := batchId_ne_empty path
  have held := grown _ _ held
  rw [← named, ← numbered] at held path
  constructor
  · intro resumes
    by_contra neither
    obtain ⟨jobs, unnamed⟩ := not_or.mp neither
    obtain ⟨job, member⟩ := List.exists_mem_of_ne_nil _ jobs
    obtain ⟨candidate, stands, here⟩ := exists_right_of_forall₂ kept member
    have invalid := (here.validate hashes hex plans nonempty).2 unnamed
    have rejected := BatchFiles.get_invalid generator.reader path
      held stands invalid
    rw [named, numbered] at rejected
    have failed := (resumes _ _ _).mp (fails_of_get listed rejected)
    cases failed.2.1
  · intro either
    have validated : ∀ candidate ∈ stored.candidates,
        candidate.validate generator.platform = some candidate := by
      intro candidate member
      obtain ⟨job, inside, here⟩ := exists_left_of_forall₂ kept member
      rcases either with none | names
      · rw [none] at inside
        cases inside
      · exact (here.validate hashes hex plans nonempty).1 names
    have found := BatchFiles.get_validated generator.reader path
      held validated hashed
    rw [named, numbered] at found
    exact resumes_of_get listed found (validateResumedCandidates_kept kept)

theorem sample_batch_resumes : ∃ events candidates after,
    (sampleGenerator.generateBatch samplePlan sampleBatch).Executes
      sampleGenerator.Performs .empty events (.ok candidates) after ∧
    Resumes sampleGenerator samplePlan sampleBatch after candidates := by
  have hashes : sampleGenerator.platform.HashesCanonically sampleFloats :=
    fun _ => rfl
  have keeps : sampleGenerator.platform.KeepsWords := by
    intro text
    rfl
  have named : Names samplePlan := by
    constructor <;> decide
  obtain ⟨events, candidates, after, paid⟩ := sample_paid
  exact ⟨events, candidates, after, paid,
    (stored_batch_resumes_iff hashes sampleHexSha256_isHexDigest keeps
      rfl paid fun _ _ kept => kept).mpr (.inr named)⟩

end BenchmarkGenerator

end RagBench
