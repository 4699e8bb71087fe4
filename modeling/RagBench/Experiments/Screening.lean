import Mathlib.Data.Finset.Sort
import RagBench.Core.JsonFields
import RagBench.Evaluation.Retrieval
import RagBench.Execution
import RagBench.Experiments.PersistedHits
import RagBench.Rag.Context

/-!
# Screening retrievers

A screen asks a retriever every question of a development snapshot and keeps
the hits.  After each question the record of the run is written to a file with
a hash over the rest.  A later screen reads the record, checks it and goes on
with the questions that are left.
-/

namespace RagBench

/-! ## Questions and inventories -/

structure ScreeningQuestion where
  questionId : String
  prompt : String
  questionType : String
  evidenceChunkIds : List String
  filled : strip questionId ≠ "" ∧ strip prompt ≠ "" ∧ strip questionType ≠ ""
  evidence_nodup : evidenceChunkIds.Nodup

/-- `dataclasses.asdict(question)`. -/
def ScreeningQuestion.dump (question : ScreeningQuestion) : Json :=
  .object
    [("question_id", .str question.questionId),
      ("prompt", .str question.prompt),
      ("question_type", .str question.questionType),
      ("evidence_chunk_ids", .array (question.evidenceChunkIds.map .str))]

/-- What `content_hash` is the hash of. -/
def questionContent (split : String) (questions : List ScreeningQuestion) :
    Json :=
  .object
    [("split", .str split),
      ("questions", .array (questions.map ScreeningQuestion.dump))]

structure ScreeningQuestionSnapshot (platform : Platform) where
  snapshotId : String
  split : String
  contentHash : String
  complete : Bool
  questions : List ScreeningQuestion
  identified : strip snapshotId ≠ "" ∧ contentHash.length = 64
  distinct : (questions.map ScreeningQuestion.questionId).Nodup
  hashed : platform.canonicalJsonHash (questionContent split questions) =
    .ok contentHash

/-- The ids of the questions, `tuple(sorted(by_id))`. -/
def ScreeningQuestionSnapshot.sortedIds {platform : Platform}
    (snapshot : ScreeningQuestionSnapshot platform) : List String :=
  sortBy id (snapshot.questions.map ScreeningQuestion.questionId)

structure DevelopmentAuthorization where
  snapshotId : String
  membershipHash : String
  /-- `_capability is _DEV_CAPABILITY`. -/
  isGenuine : Bool

def authorizeDevelopmentSnapshot (snapshot : SplitSnapshot) :
    Except PyException DevelopmentAuthorization :=
  if snapshot.name = .devAuto then
    .ok ⟨snapshot.snapshotId, snapshot.membershipHash, true⟩
  else .error ⟨.permissionError,
    "retrieval screening requires a Task 12 dev_auto snapshot"⟩

structure SnapshotBinding where
  snapshotId : String
  parentSnapshotId : Option String
  variant : Option String
  complete : Bool

structure SnapshotInventory where
  corpus : SnapshotBinding
  parse : SnapshotBinding
  chunk : SnapshotBinding
  embedding : SnapshotBinding

/-- A retriever under its name.  Its searches are operations of the screen. -/
structure BoundRetriever where
  name : RetrieverName
  rrf : Option RRFConfig
  bound : name = .hybrid ↔ rrf.isSome

/-! ## Records -/

inductive ScreeningStatus where
  | running
  | interrupted
  | complete
  deriving DecidableEq, Repr

def ScreeningStatus.value : ScreeningStatus → String
  | .running => "running"
  | .interrupted => "interrupted"
  | .complete => "complete"

structure ScreeningRunRecord where
  runId : String
  configHash : String
  questionSnapshotHash : String
  expectedQuestionIds : List String
  status : ScreeningStatus := .running
  completedQuestionIds : Finset String := ∅
  hits : List PersistedRankedHit := []
  latenciesMs : Dict String PyFloat := .empty
  evaluation : Option RetrievalEvaluation := none

/-- `asdict(hit)`. -/
def PersistedRankedHit.entries (hit : PersistedRankedHit) :
    List (String × Json) :=
  [("question_id", .str hit.questionId),
    ("chunk_id", .str hit.chunkId),
    ("rank", .int hit.rank),
    ("score", .float hit.score),
    ("retriever", .str hit.retriever),
    ("dense_rank", (hit.denseRank.map .int).getD .null),
    ("sparse_rank", (hit.sparseRank.map .int).getD .null),
    ("dense_score", (hit.denseScore.map .float).getD .null),
    ("sparse_score", (hit.sparseScore.map .float).getD .null),
    ("fused_score", .float hit.fusedScore)]

def persistedHitNames : List String :=
  ["question_id", "chunk_id", "rank", "score", "retriever", "dense_rank",
    "sparse_rank", "dense_score", "sparse_score", "fused_score"]

/-- `PersistedRankedHit(**hit)`. -/
def PersistedRankedHit.ofJson : Json → Except PyException PersistedRankedHit
  | .object entries => do
      raiseIf (entries.any fun entry => entry.1 ∉ persistedHitNames)
        (.typeError "got an unexpected keyword argument")
      return {
        questionId := ← Json.field Json.asText entries "question_id"
        chunkId := ← Json.field Json.asText entries "chunk_id"
        rank := ← Json.field Json.asInt entries "rank"
        score := ← Json.field Json.asFloat entries "score"
        retriever := ← Json.field Json.asText entries "retriever"
        denseRank :=
          ← Json.field (Json.asOptional Json.asInt) entries "dense_rank"
        sparseRank :=
          ← Json.field (Json.asOptional Json.asInt) entries "sparse_rank"
        denseScore :=
          ← Json.field (Json.asOptional Json.asFloat) entries "dense_score"
        sparseScore :=
          ← Json.field (Json.asOptional Json.asFloat) entries "sparse_score"
        fusedScore := ← Json.field Json.asFloat entries "fused_score" }
  | _ => .error (.typeError "argument after ** must be a mapping")

def checkpointSchema : String := "retrieval-checkpoint-v1"

/-- The payload of `_flush`, without its hash. -/
def ScreeningRunRecord.payload (record : ScreeningRunRecord) :
    List (String × Json) :=
  [("schema_version", .str checkpointSchema),
    ("run_id", .str record.runId),
    ("config_hash", .str record.configHash),
    ("question_snapshot_hash", .str record.questionSnapshotHash),
    ("expected_question_ids", .array (record.expectedQuestionIds.map .str)),
    ("status", .str record.status.value),
    ("completed_question_ids",
      .array ((ContextBuilder.sortedIds record.completedQuestionIds).map
        .str)),
    ("hits", .array (record.hits.map fun hit => .object hit.entries)),
    ("latencies_ms", .object (record.latenciesMs.entries.map fun entry =>
      (entry.1, .float entry.2)))]

/-- `status`, one of the literals. -/
def ScreeningStatus.ofJson : Json → Option ScreeningStatus
  | .str "running" => some .running
  | .str "interrupted" => some .interrupted
  | .str "complete" => some .complete
  | _ => none

section Files

variable (platform : Platform)

/-- The fields of a checkpoint. -/
def ScreeningRunRecord.ofEntries (raw : List (String × Json)) :
    Except PyException ScreeningRunRecord := do
  let runId ← Json.field Json.asText raw "run_id"
  let configHash ← Json.field Json.asText raw "config_hash"
  let questionSnapshotHash ←
    Json.field Json.asText raw "question_snapshot_hash"
  let expectedQuestionIds ←
    Json.field Json.asTexts raw "expected_question_ids"
  let status ← Json.field ScreeningStatus.ofJson raw "status"
  let completed ← Json.field Json.asTexts raw "completed_question_ids"
  let rows ← Json.field Json.asItems raw "hits"
  let hits ← rows.mapM PersistedRankedHit.ofJson
  let latencies ← Json.field Json.asEntries raw "latencies_ms"
  let latenciesMs ← latencies.mapM fun entry => do
    let value ← jsonToFloat platform entry.2
    return (entry.1, value)
  return {
    runId, configHash, questionSnapshotHash, expectedQuestionIds, status
    completedQuestionIds := completed.toFinset
    hits := hits
    latenciesMs := .ofList latenciesMs }

/-- The ranking of a question in a checkpoint. -/
def checkRanking (group : String × List PersistedRankedHit) :
    Except PyException Unit :=
  raiseIf (group.2.map PersistedRankedHit.rank ≠
        ((List.range' 1 group.2.length).map fun rank : ℕ => (rank : ℤ)) ∨
      (group.2.map PersistedRankedHit.chunkId).toFinset.card ≠
        group.2.length)
    (.valueError ("checkpoint ranking is invalid: " ++ group.1))

/-- The checks of `_load`. -/
def ScreeningRunRecord.check (record : ScreeningRunRecord) (runId : String) :
    Except PyException Unit := do
  raiseIf (record.runId ≠ runId)
    (.valueError "checkpoint run identity mismatch")
  raiseIf (record.expectedQuestionIds.toFinset.card ≠
      record.expectedQuestionIds.length)
    (.valueError "checkpoint question membership is invalid")
  raiseIf (¬ record.completedQuestionIds ⊆
      record.expectedQuestionIds.toFinset) (.valueError
    "checkpoint completed question is outside expected membership")
  raiseIf (record.latenciesMs.keys.toFinset ≠ record.completedQuestionIds ∨
      record.latenciesMs.values.any fun value =>
        ¬value.isFinite ∨ value.lt (.finite 0))
    (.valueError "checkpoint latency evidence is invalid")
  raiseIf (record.hits.any fun hit =>
      hit.questionId ∉ record.completedQuestionIds ∨ ¬hit.score.isFinite ∨
        ¬hit.fusedScore.isFinite)
    (.valueError "checkpoint hit evidence is invalid")
  let groups := groupInto PersistedRankedHit.questionId .empty record.hits
  groups.entries.forM checkRanking

/-- The text of `_flush`. -/
def ScreeningRunRecord.fileText (floats : FloatText)
    (record : ScreeningRunRecord) : Except PyException String := do
  let integrityHash ← platform.canonicalJsonHash (.object record.payload)
  let written := Json.object
    (record.payload ++ [("integrity_hash", .str integrityHash)])
  raiseIf (written.isCompliant = false)
    (.valueError "Out of range float values are not JSON compliant")
  return String.ofList (Json.dumps floats written.sorted)

/-- What a checkpoint file says. -/
def readCheckpoint {floats : FloatText}
    (reader : JsonReader.FloatReader floats) (text : String) :
    Except PyException ScreeningRunRecord :=
  match JsonReader.loads reader text.toList with
  | none => .error (.valueError "checkpoint is not JSON")
  | some (.object raw) => do
      raiseIf (((Json.get? raw "schema_version").getD .null).equals
          (.str checkpointSchema) = false)
        (.valueError "checkpoint schema version mismatch")
      let integrityHash := (Json.get? raw "integrity_hash").getD .null
      let rest := Json.without "integrity_hash" raw
      let expected ← platform.canonicalJsonHash (.object rest)
      raiseIf (integrityHash.equals (.str expected) = false)
        (.valueError "checkpoint integrity hash mismatch")
      ScreeningRunRecord.ofEntries platform rest
  | some value => .error ⟨.derived "AttributeError" .exception,
      "'" ++ value.typeName ++ "' object has no attribute 'get'"⟩

end Files

/-! ## The store -/

/-- The records in memory, and the texts of the files by run. -/
structure FileScreeningStore where
  runs : Dict String ScreeningRunRecord := .empty
  files : Dict String String := .empty

/-- What a new process finds. -/
def FileScreeningStore.reopened (store : FileScreeningStore) :
    FileScreeningStore :=
  { files := store.files }

namespace FileScreeningStore

section Operations

variable {floats : FloatText} (platform : Platform)
  (reader : JsonReader.FloatReader floats)

/-- `_path`. -/
def checkPath (runId : String) : Except PyException Unit :=
  raiseIf (isHexDigest runId = false)
    (.valueError "run ID must be a SHA-256 digest")

/-- `_load`. -/
def load (store : FileScreeningStore) (runId : String) :
    Except PyException (Option ScreeningRunRecord) := do
  checkPath runId
  match store.files.get? runId with
  | none => return none
  | some text => do
      let record ← readCheckpoint platform reader text
      record.check runId
      return some record

/-- `_flush`. -/
def flush (floats : FloatText) (store : FileScreeningStore)
    (record : ScreeningRunRecord) : Except PyException FileScreeningStore := do
  let text ← record.fileText platform floats
  checkPath record.runId
  return { store with files := store.files.set record.runId text }

/-- The record is kept in memory, then in its file. -/
def keep {α : Type} (floats : FloatText) (store : FileScreeningStore)
    (record : ScreeningRunRecord) (reply : α) :
    Except PyException α × FileScreeningStore :=
  let store := { store with runs := store.runs.set record.runId record }
  match store.flush platform floats record with
  | .error error => (.error error, store)
  | .ok flushed => (.ok reply, flushed)

/-- The loaded record replaces the one in memory. -/
def remember (store : FileScreeningStore) (runId : String)
    (loaded : Option ScreeningRunRecord) : FileScreeningStore :=
  match loaded with
  | none => store
  | some record => { store with runs := store.runs.set runId record }

/-- `FileScreeningStore.get`. -/
def get (store : FileScreeningStore) (runId : String) :
    Except PyException ScreeningRunRecord × FileScreeningStore :=
  match store.load platform reader runId with
  | .error error => (.error error, store)
  | .ok loaded =>
      let store := store.remember runId loaded
      match store.runs.get? runId with
      | some record => (.ok record, store)
      | none =>
          (.error (.keyError ("unknown screening run: " ++ runId)), store)

/-- An operation on the record that `get` finds. -/
def update (store : FileScreeningStore) (runId : String)
    (change : ScreeningRunRecord → ScreeningRunRecord) :
    Except PyException Unit × FileScreeningStore :=
  match store.get platform reader runId with
  | (.error error, store) => (.error error, store)
  | (.ok record, store) => store.keep platform floats (change record) ()

/-- `begin`. -/
def «begin» (store : FileScreeningStore) (record : ScreeningRunRecord) :
    Except PyException ScreeningRunRecord × FileScreeningStore :=
  match store.load platform reader record.runId with
  | .error error => (.error error, store)
  | .ok loaded =>
      let store := store.remember record.runId loaded
      match store.runs.get? record.runId with
      | none => store.keep platform floats record record
      | some existing =>
          if existing.configHash ≠ record.configHash ∨
              existing.questionSnapshotHash ≠ record.questionSnapshotHash ∨
              existing.expectedQuestionIds ≠ record.expectedQuestionIds then
            (.error (.valueError
              "run identity collides with different immutable inputs"), store)
          else
            let resolved :=
              if existing.status = .complete then existing
              else { existing with status := .running }
            store.keep platform floats resolved resolved

/-- `persist_question`. -/
def persistQuestion (store : FileScreeningStore) (runId questionId : String)
    (hits : List PersistedRankedHit) (latencyMs : PyFloat) :
    Except PyException Unit × FileScreeningStore :=
  store.update platform reader runId fun run =>
    if questionId ∈ run.completedQuestionIds then run
    else
      { run with
        hits := run.hits ++ hits
        latenciesMs := run.latenciesMs.set questionId latencyMs
        completedQuestionIds := insert questionId run.completedQuestionIds }

/-- `mark_interrupted`. -/
def markInterrupted (store : FileScreeningStore) (runId : String) :
    Except PyException Unit × FileScreeningStore :=
  store.update platform reader runId fun run =>
    { run with status := .interrupted }

/-- `finish`. -/
def finish (store : FileScreeningStore) (runId : String)
    (evaluation : RetrievalEvaluation) :
    Except PyException Unit × FileScreeningStore :=
  store.update platform reader runId fun run =>
    { run with evaluation := some evaluation, status := .complete }

end Operations

end FileScreeningStore

/-! ## The screen -/

/-- What the screen awaits of its store and its retriever. -/
inductive ScreeningOp where
  | begin (record : ScreeningRunRecord)
  | search (query : String) (topK : ℤ) (filter : SearchFilter)
  | persistQuestion (runId questionId : String)
      (hits : List PersistedRankedHit) (latencyMs : PyFloat)
  | markInterrupted (runId : String)
  | get (runId : String)
  | finish (runId : String) (evaluation : RetrievalEvaluation)

/-- A search also takes `(clock() - started) * 1000`. -/
abbrev ScreeningOp.Reply : ScreeningOp → Type
  | .begin _ => ScreeningRunRecord
  | .search _ _ _ => List SearchHit × PyFloat
  | .persistQuestion _ _ _ _ => Unit
  | .markInterrupted _ => Unit
  | .get _ => ScreeningRunRecord
  | .finish _ _ => Unit

abbrev ScreeningProgram (α : Type) : Type :=
  Program ScreeningOp ScreeningOp.Reply PyException α

open Program (await fromExcept)

structure ScreeningResult where
  runId : String
  evaluation : RetrievalEvaluation

structure RetrievalScreenRunner where
  platform : Platform
  inventory : SnapshotInventory
  developmentAuthorization : DevelopmentAuthorization

namespace RetrievalScreenRunner

variable (runner : RetrievalScreenRunner) (config : RetrievalExperimentConfig)
  (questions : ScreeningQuestionSnapshot runner.platform)

/-- `run_identity`. -/
def runIdentity (configHash : String) : Except PyException String :=
  runner.platform.canonicalJsonHash (.object
    [("kind", .str "retrieval-screen-run-v1"),
      ("config_hash", .str configHash),
      ("question_snapshot_id", .str questions.snapshotId),
      ("question_content_hash", .str questions.contentHash)])

/-- `_validate_inputs`. -/
def validateInputs : Except PyException Unit := do
  raiseIf (questions.split ≠ "dev_auto") ⟨.permissionError,
    "normal retrieval screening permits only the dev_auto split"⟩
  let authorization := runner.developmentAuthorization
  raiseIf (authorization.isGenuine = false) ⟨.permissionError,
    "invalid Task 12 development snapshot authorization"⟩
  let unbound : PyException := ⟨.permissionError,
    "question content is not bound to the authorized dev snapshot"⟩
  raiseIf (authorization.snapshotId ≠ questions.snapshotId) unbound
  let membershipHash ← runner.platform.canonicalJsonHash
    (.array (questions.sortedIds.map .str))
  raiseIf (authorization.membershipHash ≠ membershipHash) unbound
  raiseIf (questions.complete = false)
    (.valueError "question snapshot is incomplete")
  raiseIf (questions.snapshotId ≠ config.questionSnapshotId)
    (.valueError "question snapshot identity mismatch")
  let inventory := runner.inventory
  let expected :=
    [(inventory.corpus, config.corpusSnapshotId),
      (inventory.parse, config.parseSnapshotId),
      (inventory.chunk, config.chunkSnapshotId),
      (inventory.embedding, config.embeddingSnapshotId)]
  raiseIf (expected.any fun pair => pair.1.complete = false) (.valueError
    "retrieval snapshot inventory contains an incomplete snapshot")
  raiseIf (expected.any fun pair => pair.1.snapshotId ≠ pair.2)
    (.valueError "retrieval snapshot identity mismatch")
  raiseIf (inventory.parse.parentSnapshotId ≠ some config.corpusSnapshotId ∨
      inventory.parse.variant ≠ some config.parseMode.value ∨
      inventory.chunk.parentSnapshotId ≠ some config.parseSnapshotId ∨
      inventory.chunk.variant ≠ some config.chunkStrategy ∨
      inventory.embedding.parentSnapshotId ≠ some config.chunkSnapshotId ∨
      inventory.embedding.variant ≠ some config.chunkStrategy)
    (.valueError "retrieval snapshot lineage mismatch")

/-- The loop body for a question that is not completed. -/
def screenQuestion (runId : String) (filter : SearchFilter)
    (question : ScreeningQuestion) : ScreeningProgram Unit := do
  let (hits, measured) ←
    await (ScreeningOp.search question.prompt config.topK.value filter)
  let elapsedMs := PyFloat.max (.finite 0) measured
  let persisted ← fromExcept (persistableHits question.questionId hits
    config.topK.value config.retriever)
  await (ScreeningOp.persistQuestion runId question.questionId persisted
    elapsedMs)

/-- The loop over the questions. -/
def screenQuestions (runId : String) (filter : SearchFilter)
    (completed : Finset String) :
    List ScreeningQuestion → ScreeningProgram Unit
  | [] => pure ()
  | question :: rest =>
      if question.questionId ∈ completed then
        screenQuestions runId filter completed rest
      else do
        screenQuestion config runId filter question
        screenQuestions runId filter completed rest

/-- The ranking of a question and its measurements. -/
def retrievalCase (run : ScreeningRunRecord) (question : ScreeningQuestion) :
    Except PyException RetrievalCase :=
  let ranking := sortBy PersistedRankedHit.rank
    (run.hits.filter fun hit => hit.questionId = question.questionId)
  match run.latenciesMs.get? question.questionId with
  | none => .error (.keyError question.questionId)
  | some latency =>
      RetrievalCase.create question.questionId question.questionType
        (ranking.map PersistedRankedHit.chunkId) question.evidenceChunkIds
        latency

/-- The evaluation of the hits that a record holds. -/
def evaluateRun (run : ScreeningRunRecord) :
    Except PyException RetrievalEvaluation := do
  run.hits.forM fun hit => raiseIf (hit.questionId ∉
      questions.questions.map ScreeningQuestion.questionId)
    (.keyError hit.questionId)
  let cases ← questions.questions.mapM (retrievalCase run)
  aggregateRetrieval cases config.topK.value

/-- `RetrievalScreenRunner.run`. -/
def run (binding : BoundRetriever) : ScreeningProgram ScreeningResult := do
  fromExcept (runner.validateInputs config questions)
  fromExcept (raiseIf (binding.name ≠ config.retriever)
    (.valueError "retriever binding does not match experiment config"))
  fromExcept (raiseIf (binding.rrf ≠ config.rrf)
    (.valueError "RRF binding does not match experiment config"))
  let configHash ← fromExcept (config.semanticHash runner.platform)
  let runId ← fromExcept (runner.runIdentity questions configHash)
  let started ← await (ScreeningOp.begin {
    runId := runId
    configHash := configHash
    questionSnapshotHash := questions.contentHash
    expectedQuestionIds := questions.sortedIds })
  let filter ← fromExcept (SearchFilter.validate {
    corpusSnapshotId := config.corpusSnapshotId
    parseSnapshotId := config.parseSnapshotId
    chunkStrategy := config.chunkStrategy
    embeddingSnapshotId := config.embeddingSnapshotId
    documentIds := [] })
  tryCatch
    (screenQuestions config runId filter started.completedQuestionIds
      questions.questions)
    fun error => do
      await (ScreeningOp.markInterrupted runId)
      throw error
  let stored ← await (ScreeningOp.get runId)
  let evaluation ← fromExcept
    (runner.evaluateRun config questions stored)
  await (ScreeningOp.finish runId evaluation)
  return ⟨runId, evaluation⟩

end RetrievalScreenRunner

end RagBench
