import RagBench.Ingestion.ParsePlanning
import RagBench.Benchmark.Splits
import RagBench.Providers.CacheKeys
import RagBench.PyText

/-!
# The retrieval grid

The screen runs every pair of parse mode and chunk strategy with every
retriever and every `k`.  A semantic hash identifies a configuration.
-/

namespace RagBench

inductive RetrieverName where
  | dense
  | bm25
  | hybrid
  deriving DecidableEq, Repr

def RetrieverName.value : RetrieverName → String
  | .dense => "dense"
  | .bm25 => "bm25"
  | .hybrid => "hybrid"

inductive TopK where
  | three
  | five
  | ten
  deriving DecidableEq, Repr

def TopK.value : TopK → ℕ
  | .three => 3
  | .five => 5
  | .ten => 10

structure RRFConfig where
  rankConstant : ℕ
  denseWeight : ℚ
  sparseWeight : ℚ
  dense_positive : 0 < denseWeight
  sparse_positive : 0 < sparseWeight
  deriving DecidableEq

/-- `RRFConfig()`. -/
def RRFConfig.default : RRFConfig :=
  { rankConstant := 60
    denseWeight := 1
    sparseWeight := 1
    dense_positive := one_pos
    sparse_positive := one_pos }

structure RetrievalFields where
  corpusSnapshotId : String
  parseSnapshotId : String
  parseMode : ParseMode
  chunkSnapshotId : String
  chunkStrategy : String
  embeddingSnapshotId : String
  retriever : RetrieverName
  rrf : Option RRFConfig
  topK : TopK
  questionSnapshotId : String
  randomSeed : ℤ
  codeCommit : String
  deriving DecidableEq

namespace RetrievalFields

/-- The fields of `_identity_not_blank`. -/
def identity (fields : RetrievalFields) : List String :=
  [fields.corpusSnapshotId, fields.parseSnapshotId, fields.chunkSnapshotId,
    fields.chunkStrategy, fields.embeddingSnapshotId,
    fields.questionSnapshotId, fields.codeCommit]

def stripped (fields : RetrievalFields) : RetrievalFields :=
  { fields with
    corpusSnapshotId := strip fields.corpusSnapshotId
    parseSnapshotId := strip fields.parseSnapshotId
    chunkSnapshotId := strip fields.chunkSnapshotId
    chunkStrategy := strip fields.chunkStrategy
    embeddingSnapshotId := strip fields.embeddingSnapshotId
    questionSnapshotId := strip fields.questionSnapshotId
    codeCommit := strip fields.codeCommit }

/-- The constraints of the fields and `_rrf_matches_retriever`. -/
def isValid (fields : RetrievalFields) : Bool :=
  0 ≤ fields.randomSeed ∧ isCommit fields.codeCommit ∧
    (fields.identity.all fun text => strip text ≠ "") ∧
    (fields.retriever = .hybrid ↔ fields.rrf.isSome)

end RetrievalFields

private theorem isSpace_of_hex {character : Char}
    (digit : ('0' ≤ character ∧ character ≤ '9') ∨
      ('a' ≤ character ∧ character ≤ 'f')) : isSpace character = false := by
  have range : (48 ≤ character.toNat ∧ character.toNat ≤ 57) ∨
      (97 ≤ character.toNat ∧ character.toNat ≤ 102) := digit
  unfold isSpace
  rw [decide_eq_false_iff_not]
  simp only [List.mem_cons, List.not_mem_nil, or_false]
  omega

theorem strip_of_isCommit {text : String} (commit : isCommit text = true) :
    strip text = text := by
  unfold isCommit at commit
  rw [decide_eq_true_eq, List.all_eq_true] at commit
  exact strip_eq_self fun character member =>
    isSpace_of_hex (of_decide_eq_true (commit.2 character member))

theorem RetrievalFields.isValid_stripped {fields : RetrievalFields}
    (valid : fields.isValid = true) : fields.stripped.isValid = true := by
  unfold isValid at valid ⊢
  rw [decide_eq_true_eq] at valid ⊢
  obtain ⟨seed, commit, named, rrf⟩ := valid
  refine ⟨seed, ?_, ?_, rrf⟩
  · rw [stripped, strip_of_isCommit commit]
    exact commit
  · have same : fields.stripped.identity = fields.identity.map strip := rfl
    rw [same, List.all_map]
    simpa [Function.comp_def, strip_strip] using named

/-- A validated configuration. -/
structure RetrievalExperimentConfig extends RetrievalFields where
  valid : toRetrievalFields.isValid = true
  deriving DecidableEq

/-- `RetrievalExperimentConfig(**fields)`; the identity fields are stored
stripped. -/
def RetrievalFields.validate (fields : RetrievalFields) :
    Except PyException RetrievalExperimentConfig :=
  if valid : fields.isValid = true then
    .ok
      { toRetrievalFields := fields.stripped
        valid := RetrievalFields.isValid_stripped valid }
  else .error (validationError "RetrievalExperimentConfig")

section Hashes

variable (platform : Platform)

def RRFConfig.dump (rrf : RRFConfig) : Json :=
  .object
    [("rank_constant", .int rrf.rankConstant),
      ("dense_weight", .float (.finite rrf.denseWeight)),
      ("sparse_weight", .float (.finite rrf.sparseWeight))]

namespace RetrievalExperimentConfig

/-- `model_dump(mode="json")`. -/
def modelDump (config : RetrievalExperimentConfig) : Json :=
  .object
    [("schema_version", .str "retrieval-screen-v1"),
      ("corpus_snapshot_id", .str config.corpusSnapshotId),
      ("parse_snapshot_id", .str config.parseSnapshotId),
      ("parse_mode", .str config.parseMode.value),
      ("chunk_snapshot_id", .str config.chunkSnapshotId),
      ("chunk_strategy", .str config.chunkStrategy),
      ("embedding_snapshot_id", .str config.embeddingSnapshotId),
      ("retriever", .str config.retriever.value),
      ("rrf", (config.rrf.map RRFConfig.dump).getD .null),
      ("top_k", .int config.topK.value),
      ("question_snapshot_id", .str config.questionSnapshotId),
      ("question_split", .str "dev_auto"),
      ("random_seed", .int config.randomSeed),
      ("code_commit", .str config.codeCommit),
      ("metric_version", .str "retrieval-v1")]

def semanticHash (config : RetrievalExperimentConfig) :
    Except PyException String :=
  platform.canonicalJsonHash config.modelDump

end RetrievalExperimentConfig

end Hashes

/-! ## The planner -/

/-- `PARSE_MODES`. -/
def parseModes : List ParseMode :=
  [.standard, .enhanced]

/-- `CHUNK_STRATEGIES`. -/
def chunkStrategies : List String :=
  ["fixed-300-0", "fixed-300-100", "fixed-600-0", "fixed-600-100",
    "fixed-1000-0", "fixed-1000-100", "heading-600-100"]

/-- `RETRIEVERS`. -/
def retrievers : List RetrieverName :=
  [.dense, .bm25, .hybrid]

/-- `TOP_K_VALUES`. -/
def topKValues : List TopK :=
  [.three, .five, .ten]

/-- A mode, a strategy, a retriever and a `k`. -/
abbrev GridAxes := ParseMode × String × RetrieverName × TopK

/-- The grid in the order of the loops. -/
def gridAxes : List GridAxes :=
  parseModes.flatMap fun mode => chunkStrategies.flatMap fun strategy =>
    retrievers.flatMap fun retriever => topKValues.map fun topK =>
      (mode, strategy, retriever, topK)

def RetrievalExperimentConfig.axes (config : RetrievalExperimentConfig) :
    GridAxes :=
  (config.parseMode, config.chunkStrategy, config.retriever, config.topK)

/-- The embedding snapshot id is the text of a UUID. -/
structure CoreSnapshotBinding where
  parseMode : ParseMode
  parseSnapshotId : String
  chunkStrategy : String
  chunkSnapshotId : String
  embeddingSnapshotId : String
  named : strip parseSnapshotId ≠ "" ∧ strip chunkStrategy ≠ "" ∧
    strip chunkSnapshotId ≠ ""

/-- `require_unique_configs`. -/
def requireUniqueConfigs (platform : Platform) :
    List RetrievalExperimentConfig → List String →
      Except PyException Unit
  | [], _ => .ok ()
  | config :: rest, seen => do
      let semanticHash ← config.semanticHash platform
      raiseIf (semanticHash ∈ seen) (.valueError
        ("duplicate semantic experiment configuration: " ++ semanticHash))
      requireUniqueConfigs platform rest (seen ++ [semanticHash])

structure GridRequest where
  corpusSnapshotId : String
  questionSnapshotId : String
  codeCommit : String
  randomSeed : ℤ
  snapshotBindings : List CoreSnapshotBinding

/-- `RRFConfig() if retriever == "hybrid" else None`. -/
def rrfOf : RetrieverName → Option RRFConfig
  | .hybrid => some .default
  | _ => none

/-- The configuration of one point of the grid. -/
def GridRequest.configOf (request : GridRequest)
    (bindings : Dict (ParseMode × String) CoreSnapshotBinding)
    (axes : GridAxes) : Except PyException RetrievalExperimentConfig :=
  let (mode, strategy, retriever, topK) := axes
  match bindings.get? (mode, strategy) with
  | none => .error (.keyError strategy)
  | some binding => RetrievalFields.validate
      { corpusSnapshotId := request.corpusSnapshotId
        parseSnapshotId := binding.parseSnapshotId
        parseMode := mode
        chunkSnapshotId := binding.chunkSnapshotId
        chunkStrategy := strategy
        embeddingSnapshotId := binding.embeddingSnapshotId
        retriever := retriever
        rrf := rrfOf retriever
        topK := topK
        questionSnapshotId := request.questionSnapshotId
        randomSeed := request.randomSeed
        codeCommit := request.codeCommit }

/-- `generate_core_retrieval_configs`. -/
def generateCoreRetrievalConfigs (platform : Platform)
    (request : GridRequest) :
    Except PyException (List RetrievalExperimentConfig) := do
  let bindings := Dict.ofList (request.snapshotBindings.map fun row =>
    ((row.parseMode, row.chunkStrategy), row))
  let expected := parseModes.product chunkStrategies
  raiseIf (¬ (bindings.keys ⊆ expected ∧ expected ⊆ bindings.keys) ∨
      bindings.keys.length ≠ request.snapshotBindings.length)
    (.valueError
      "snapshot bindings must map the exact 14 parse/chunk variants")
  let configs ← gridAxes.mapM (request.configOf bindings)
  requireUniqueConfigs platform configs []
  return configs

end RagBench
