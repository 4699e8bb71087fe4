import RagBench.Evaluation.GoldStore

/-!
# The gold runner

Every configuration gets every item, in the order of the item ids.  A result
that is stored is not asked for again.
-/

namespace RagBench

structure GoldRunSummary where
  preregistrationHash : String
  completed : ℕ
  expected : ℕ
  deriving DecidableEq

abbrev GoldExecutor :=
  ExperimentConfig → GoldItem → Except PyException GoldEvaluationResult

namespace GoldRunner

/-- How far a run is, with the pairs that it handed to the executor. -/
structure Progress where
  repository : GoldResultRepository
  completed : ℕ
  executed : List (String × String)

variable (platform : Platform)

/-- What the executor returned is checked and saved. -/
def acceptResult (repository : GoldResultRepository) (configHash : String)
    (item : GoldItem) (outcome : Except PyException GoldEvaluationResult) :
    Except PyException GoldResultRepository := do
  let result ← outcome
  raiseIf (result.configHash ≠ configHash ∨ result.itemId ≠ item.itemId)
    (.valueError "gold executor returned the wrong identity")
  raiseIf (result.questionType ≠ item.questionType ∨
      result.documentClusterId ≠ item.documentClusterId)
    (.valueError "gold executor returned a mismatched immutable stratum")
  repository.save platform result

/-- One configuration on one item. -/
def runItem (execute : GoldExecutor)
    (configByHash : Dict String ExperimentConfig) (resume : Bool)
    (progress : Progress) (configHash : String) (item : GoldItem) :
    Except PyException Unit × Progress :=
  match progress.repository.load platform configHash item.itemId with
  | .error error => (.error error, progress)
  | .ok (some _) =>
      if ¬ resume then
        (.error ⟨.fileExistsError,
          "gold checkpoint exists; explicit resume is required"⟩, progress)
      else (.ok (), { progress with completed := progress.completed + 1 })
  | .ok none =>
      match configByHash.get? configHash with
      | none => (.error (.keyError configHash), progress)
      | some config =>
          let called := { progress with
            executed := progress.executed ++ [(configHash, item.itemId)] }
          match acceptResult platform progress.repository configHash item
            (execute config item) with
          | .error error => (.error error, called)
          | .ok repository =>
              (.ok (), { called with
                repository := repository
                completed := called.completed + 1 })

/-- The loops over configurations and items. -/
def runPairs (execute : GoldExecutor)
    (configByHash : Dict String ExperimentConfig) (resume : Bool) :
    List (String × GoldItem) → Progress → Except PyException Unit × Progress
  | [], progress => (.ok (), progress)
  | (configHash, item) :: rest, progress =>
      match runItem platform execute configByHash resume progress configHash
        item with
      | (.error error, progress) => (.error error, progress)
      | (.ok _, progress) =>
          runPairs execute configByHash resume rest progress

/-- `{config.semantic_hash: config for config in configs}`. -/
def configsByHash (configs : List ExperimentConfig) :
    Except PyException (Dict String ExperimentConfig) := do
  let pairs ← configs.mapM fun config => do
    return (← config.semanticHash platform, config)
  return Dict.ofList pairs

/-- What `run` does before its loops. -/
def prepare (repository : GoldResultRepository)
    (envelope : PreregistrationEnvelope) (configs : List ExperimentConfig)
    (items : List GoldItem) : Except PyException
      (List GoldItem × Dict String ExperimentConfig ×
        GoldResultRepository) := do
  let _ ← items.mapM GoldResultRepository.itemIdOf
  let ordered := sortBy (fun item => item.itemId) items
  let configByHash ← configsByHash platform configs
  let prereg := envelope.preregistration
  raiseIf (configByHash.keys ≠ prereg.configHashes)
    (.valueError "gold runner configs differ from preregistered order")
  raiseIf (configs.any fun config => config.codeCommit ≠ prereg.codeCommit)
    (.valueError "gold runner code commit differs from preregistration")
  let repository ← repository.initializeRun platform envelope ordered
  return (ordered, configByHash, repository)

/-- `for config_hash in config_hashes: for item in ordered`. -/
def pairsOf (configHashes : List String) (ordered : List GoldItem) :
    List (String × GoldItem) :=
  configHashes.flatMap fun configHash =>
    ordered.map fun item => (configHash, item)

/-- `run`, with the pairs that were handed to the executor. -/
def run (repository : GoldResultRepository) (execute : GoldExecutor)
    (envelope : PreregistrationEnvelope) (configs : List ExperimentConfig)
    (items : List GoldItem) (resume : Bool) :
    Except PyException GoldRunSummary × GoldResultRepository ×
      List (String × String) :=
  match prepare platform repository envelope configs items with
  | .error error => (.error error, repository, [])
  | .ok (ordered, configByHash, repository) =>
      let prereg := envelope.preregistration
      let start : Progress := ⟨repository, 0, []⟩
      match runPairs platform execute configByHash resume
        (pairsOf prereg.configHashes ordered) start with
      | (.error error, progress) =>
          (.error error, progress.repository, progress.executed)
      | (.ok _, progress) =>
          (.ok
            { preregistrationHash := envelope.artifactSha256
              completed := progress.completed
              expected := prereg.cohort.itemCount * 3 },
            progress.repository, progress.executed)

end GoldRunner

end RagBench
