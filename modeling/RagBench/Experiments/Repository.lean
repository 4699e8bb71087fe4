import Mathlib.Data.Finset.Insert
import RagBench.Experiments.Planning

/-!
# The files of an experiment

`FileExperimentRepository` keeps one directory for each semantic hash, with at
most one run in it.  The operations are given as the writes they make, in
order: an operation that is not interrupted makes all of them, and one that a
crash cuts short makes the first few.

Question files are kept under the question identifiers, the file names being
hashes of these.
-/

namespace RagBench

inductive RunStatus where
  | planned
  | running
  | completed
  | failed
  | cancelled
  | stopped
  deriving DecidableEq, Repr

namespace RunStatus

def value : RunStatus → String
  | .planned => "planned"
  | .running => "running"
  | .completed => "completed"
  | .failed => "failed"
  | .cancelled => "cancelled"
  | .stopped => "stopped"

/-- `_TRANSITIONS`. -/
def successors : RunStatus → List RunStatus
  | .planned => [.running, .cancelled]
  | .running => [.completed, .failed, .cancelled, .stopped]
  | .failed => [.running]
  | .cancelled => [.running]
  | .stopped => [.running]
  | .completed => []

end RunStatus

structure ExperimentRun where
  runId : String
  configHash : String
  status : RunStatus
  completedQuestionIds : Finset String := ∅
  failedQuestionIds : Finset String := ∅
  stopReason : Option String := none
  deriving DecidableEq

structure UsageSnapshot where
  inputTokens : ℕ
  outputTokens : ℕ
  costUsd : ℚ

structure ExperimentQuestionResult where
  questionId : String
  response : JsonObject
  evidence : List JsonObject
  usage : UsageSnapshot
  cached : Bool
  correlationId : Option String := none

structure ErrorRecord where
  questionId : String
  errorType : ExceptionClass
  message : String
  deriving DecidableEq

/-- The specification of an experiment, with the hashes the repository
computes from it. -/
structure Experiment where
  platform : Platform
  config : ExperimentConfig
  semanticHash : String
  fullHash : String
  semanticHash_eq : config.semanticHash platform = .ok semanticHash
  fullHash_eq : config.fullHash platform = .ok fullHash

/-! ## Files -/

/-- The files under a run directory; `history` in the order of the names. -/
structure RunFiles where
  runId : String
  config : Option ExperimentConfig := none
  configSha : Option String := none
  state : Option ExperimentRun := none
  history : List (String × ExperimentRun) := []
  results : Dict String ExperimentQuestionResult := .empty
  errors : List (ErrorRecord × String) := []

/-- The directory of a semantic hash, and the run directory in it. -/
abbrev Files := Option RunFiles

inductive FileWrite where
  | directory (runId : String)
  | config (config : ExperimentConfig)
  | configSha (hash : String)
  | state (run : ExperimentRun)
  | history (run : ExperimentRun)
  | result (result : ExperimentQuestionResult)
  | error (record : ErrorRecord)

namespace RunFiles

/-- The name of the next history file. -/
def historyName (files : RunFiles) (run : ExperimentRun) : String :=
  fourDigits files.history.length ++ "-" ++ run.status.value ++ ".json"

/-- The name of the next error file of a question. -/
def errorName (files : RunFiles) (record : ErrorRecord) : String :=
  fourDigits ((files.errors.filter fun entry =>
    entry.1.questionId = record.questionId).length + 1) ++ ".json"

def write (files : RunFiles) : FileWrite → RunFiles
  | .directory _ => files
  | .config config => { files with config := some config }
  | .configSha hash => { files with configSha := some hash }
  | .state run => { files with state := some run }
  | .history run =>
      { files with history := files.history ++ [(files.historyName run, run)] }
  | .result result =>
      { files with results := files.results.set result.questionId result }
  | .error record =>
      { files with errors := files.errors ++ [(record, files.errorName record)] }

end RunFiles

namespace Files

def write (files : Files) (change : FileWrite) : Files :=
  match files, change with
  | none, .directory runId => some { runId := runId }
  | none, _ => none
  | some run, change => some (run.write change)

def writeAll (files : Files) (changes : List FileWrite) : Files :=
  changes.foldl write files

end Files

theorem Files.writeAll_some (run : RunFiles) (changes : List FileWrite) :
    Files.writeAll (some run) changes =
      some (changes.foldl RunFiles.write run) := by
  induction changes generalizing run with
  | nil => rfl
  | cons change rest induction => exact induction (run.write change)

/-! ## Reading -/

namespace Experiment

variable (experiment : Experiment)

def mutatedConfig : PyException :=
  .valueError "experiment config was mutated after planning"

/-- `_find`. -/
def find (files : Files) (runId : String) : Except PyException RunFiles :=
  match files with
  | some run =>
      if run.runId = runId then .ok run
      else .error ⟨.fileNotFoundError, "unknown experiment run: " ++ runId⟩
  | none => .error ⟨.fileNotFoundError, "unknown experiment run: " ++ runId⟩

/-- The last check of `load_config`; the directory has the name `expected`. -/
def configIntact (platform : Platform) (expected runId : String)
    (config : ExperimentConfig) (artifactHash : String) : Prop :=
  config.semanticHash platform = .ok expected ∧
    (expected ++ "-").toList <+: runId.toList ∧
      config.fullHash platform = .ok artifactHash

instance (platform : Platform) (expected runId : String)
    (config : ExperimentConfig) (artifactHash : String) :
    Decidable (configIntact platform expected runId config artifactHash) :=
  inferInstanceAs (Decidable (_ ∧ _))

/-- `load_config`. -/
def loadConfig (files : Files) (runId : String) :
    Except PyException ExperimentConfig := do
  let run ← find files runId
  match run.config, run.configSha with
  | some config, some artifactHash =>
      if configIntact experiment.platform experiment.semanticHash runId config
          artifactHash then return config
      else throw mutatedConfig
  | _, _ => throw mutatedConfig

/-- `load`. -/
def load (files : Files) (runId : String) :
    Except PyException ExperimentRun := do
  let _ ← experiment.loadConfig files runId
  match (← find files runId).state with
  | some run => return run
  | none => throw ⟨.fileNotFoundError, "state.json"⟩

/-- `result_ids`. -/
def resultIds (files : Files) (runId : String) :
    Except PyException (Finset String) := do
  let config ← experiment.loadConfig files runId
  let run ← find files runId
  let invalid := config.questionIds.find? fun questionId =>
    match run.results.get? questionId with
    | some result => result.questionId ≠ questionId
    | none => false
  match invalid with
  | some questionId => throw (.valueError
      ("invalid immutable result for question " ++ questionId))
  | none => return (config.questionIds.filter fun questionId =>
      (run.results.get? questionId).isSome).toFinset

/-! ## Writing -/

/-- `create`, at a formatted time. -/
def create (files : Files) (timestamp : String) :
    Except PyException (List FileWrite) :=
  if files.isSome then
    .error ⟨.fileExistsError,
      "semantic config hash already has an experiment run"⟩
  else
    let runId := experiment.semanticHash ++ "-" ++ timestamp
    let run : ExperimentRun :=
      { runId := runId
        configHash := experiment.semanticHash
        status := .planned }
    .ok
      [.directory runId, .config experiment.config,
        .configSha experiment.fullHash, .state run, .history run]

/-- The state after a transition; the sets that are not given stay. -/
def transitioned (current : ExperimentRun) (status : RunStatus)
    (completed failed : Option (Finset String)) (stopReason : Option String) :
    ExperimentRun :=
  { current with
    status := status
    completedQuestionIds := completed.getD current.completedQuestionIds
    failedQuestionIds := failed.getD current.failedQuestionIds
    stopReason := stopReason }

/-- `transition`. -/
def transition (files : Files) (runId : String) (status : RunStatus)
    (completed failed : Option (Finset String)) (stopReason : Option String) :
    Except PyException (List FileWrite) := do
  let current ← experiment.load files runId
  if status ∉ current.status.successors then
    throw (.valueError ("unsafe run transition: " ++ current.status.value ++
      " -> " ++ status.value))
  let updated := transitioned current status completed failed stopReason
  return [.state updated, .history updated]

/-- `save_result`. -/
def saveResult (files : Files) (runId : String)
    (result : ExperimentQuestionResult) :
    Except PyException (List FileWrite) := do
  let config ← experiment.loadConfig files runId
  if result.questionId ∉ config.questionIds then
    throw (.valueError "result question is outside the immutable cohort")
  else do
    let run ← find files runId
    if !(Json.entriesCompliant result.response &&
        result.evidence.all Json.entriesCompliant) then
      throw (.valueError "Out of range float values are not JSON compliant")
    else if (run.results.get? result.questionId).isSome then
      throw ⟨.fileExistsError, "immutable artifact already exists: " ++
        result.questionId⟩
    else return [.result result]

/-- `save_error`. -/
def saveError (questionId : String) (error : PyException) :
    List FileWrite :=
  [.error
    { questionId := questionId
      errorType := error.cls
      message := error.message }]

end Experiment

/-! ## Well-formed files

Every prefix of the writes of the operations leaves such files. -/

/-- The files of a run directory of the experiment, of which the first few may
be there. -/
structure RunFiles.WellFormed (experiment : Experiment) (files : RunFiles) :
    Prop where
  named : (experiment.semanticHash ++ "-").toList <+: files.runId.toList
  config_eq : ∀ config, files.config = some config →
    config = experiment.config
  configSha_eq : ∀ hash, files.configSha = some hash →
    hash = experiment.fullHash
  state_last : files.state.isSome →
    files.config.isSome ∧ files.configSha.isSome
  results_eq : ∀ questionId result,
    files.results.get? questionId = some result →
      result.questionId = questionId ∧
        questionId ∈ experiment.config.questionIds

/-- The write keeps such files well-formed. -/
def FileWrite.Allowed (experiment : Experiment) (files : RunFiles) :
    FileWrite → Prop
  | .directory _ => True
  | .config written => written = experiment.config
  | .configSha written => written = experiment.fullHash
  | .state _ => files.config.isSome ∧ files.configSha.isSome
  | .history _ => True
  | .result written =>
      written.questionId ∈ experiment.config.questionIds ∧
        files.results.get? written.questionId = none
  | .error _ => True

def FileWrite.AllAllowed (experiment : Experiment) (files : RunFiles) :
    List FileWrite → Prop
  | [] => True
  | change :: rest =>
      change.Allowed experiment files ∧
        AllAllowed experiment (files.write change) rest

theorem RunFiles.WellFormed.write {experiment : Experiment}
    {files : RunFiles} (wellFormed : files.WellFormed experiment)
    {change : FileWrite} (allowed : change.Allowed experiment files) :
    (files.write change).WellFormed experiment := by
  cases change with
  | directory => exact wellFormed
  | config config =>
      exact
        { wellFormed with
          config_eq := by rintro _ ⟨⟩; exact allowed
          state_last := fun known =>
            ⟨rfl, (wellFormed.state_last known).2⟩ }
  | configSha hash =>
      exact
        { wellFormed with
          configSha_eq := by rintro _ ⟨⟩; exact allowed
          state_last := fun known =>
            ⟨(wellFormed.state_last known).1, rfl⟩ }
  | state run =>
      exact { wellFormed with state_last := fun _ => allowed }
  | history run => exact { wellFormed with }
  | result result =>
      refine { wellFormed with results_eq := ?_ }
      intro questionId found present
      change (files.results.set result.questionId result).get? questionId =
        some found at present
      rw [Dict.get?_set] at present
      split_ifs at present with same
      · obtain rfl := Option.some.inj present
        exact ⟨same, same ▸ allowed.1⟩
      · exact wellFormed.results_eq questionId found present
  | error record => exact { wellFormed with }

/-- Any first few of the writes keep the files well-formed. -/
theorem RunFiles.WellFormed.writes {experiment : Experiment}
    {files : RunFiles} (wellFormed : files.WellFormed experiment)
    {changes : List FileWrite}
    (allowed : FileWrite.AllAllowed experiment files changes) (kept : ℕ) :
    ((changes.take kept).foldl RunFiles.write files).WellFormed
      experiment := by
  induction changes generalizing files kept with
  | nil => simpa using wellFormed
  | cons change rest induction =>
      cases kept with
      | zero => simpa using wellFormed
      | succ kept => exact induction (wellFormed.write allowed.1) allowed.2 kept

/-- Results are never overwritten. -/
theorem FileWrite.AllAllowed.results_kept {experiment : Experiment}
    {files : RunFiles} {changes : List FileWrite}
    (allowed : FileWrite.AllAllowed experiment files changes) (kept : ℕ)
    {questionId : String} {result : ExperimentQuestionResult}
    (saved : files.results.get? questionId = some result) :
    ((changes.take kept).foldl RunFiles.write files).results.get?
      questionId = some result := by
  induction changes generalizing files kept with
  | nil => simpa using saved
  | cons change rest induction =>
      cases kept with
      | zero => simpa using saved
      | succ kept =>
          refine induction allowed.2 kept ?_
          cases change with
          | result written =>
              change (files.results.set written.questionId written).get?
                questionId = some result
              have other : written.questionId ≠ questionId := by
                intro same
                have fresh := allowed.1.2
                rw [same, saved] at fresh
                cases fresh
              rw [Dict.get?_set, if_neg other, saved]
          | directory | config | configSha | state | history | error =>
              exact saved

namespace Experiment

variable {experiment : Experiment} {files : Files} {run : RunFiles}

theorem find_ok {runId : String} :
    find files runId = .ok run ↔ files = some run ∧ run.runId = runId := by
  cases files with
  | none => simp [find]
  | some other =>
      simp only [find]
      split_ifs with same
      · simp only [Except.ok.injEq, Option.some.injEq]
        exact ⟨fun equal => ⟨equal, equal ▸ same⟩, fun both => both.1⟩
      · simp only [Option.some.injEq, false_iff, not_and]
        rintro rfl
        exact same

theorem loadConfig_ok {runId : String} {config : ExperimentConfig} :
    experiment.loadConfig files runId = .ok config ↔
      ∃ run artifactHash, files = some run ∧ run.runId = runId ∧
        run.config = some config ∧ run.configSha = some artifactHash ∧
          configIntact experiment.platform experiment.semanticHash runId
            config artifactHash := by
  unfold loadConfig
  rw [bind_eq_ok]
  constructor
  · rintro ⟨run, found, checked⟩
    obtain ⟨rfl, rfl⟩ := find_ok.mp found
    split at checked
    · next loaded artifactHash configured hashed =>
        split_ifs at checked with intact
        obtain rfl := Except.ok.inj checked
        exact ⟨run, artifactHash, rfl, rfl, configured, hashed, intact⟩
    · cases checked
  · rintro ⟨run, artifactHash, rfl, rfl, configured, hashed, intact⟩
    refine ⟨run, find_ok.mpr ⟨rfl, rfl⟩, ?_⟩
    rw [configured, hashed]
    exact if_pos intact

theorem load_ok {runId : String} {state : ExperimentRun} :
    experiment.load files runId = .ok state ↔
      ∃ config run, experiment.loadConfig files runId = .ok config ∧
        files = some run ∧ run.state = some state := by
  unfold load
  rw [bind_eq_ok]
  constructor
  · rintro ⟨config, loaded, read⟩
    obtain ⟨run, found, read⟩ := bind_eq_ok.mp read
    split at read
    · next other known =>
        obtain rfl := Except.ok.inj read
        exact ⟨config, run, loaded, (find_ok.mp found).1, known⟩
    · cases read
  · rintro ⟨config, run, loaded, rfl, known⟩
    obtain ⟨other, -, same, named, -⟩ := loadConfig_ok.mp loaded
    obtain rfl := Option.some.inj same
    refine ⟨config, loaded, bind_eq_ok.mpr
      ⟨run, find_ok.mpr ⟨rfl, named⟩, ?_⟩⟩
    rw [known]
    rfl

/-- In well-formed files the configuration loads once its hash is there. -/
theorem loadConfig_wellFormed (wellFormed : run.WellFormed experiment)
    (config : run.config.isSome) (configSha : run.configSha.isSome) :
    experiment.loadConfig (some run) run.runId = .ok experiment.config := by
  obtain ⟨loaded, configured⟩ := Option.isSome_iff_exists.mp config
  obtain ⟨artifactHash, hashed⟩ := Option.isSome_iff_exists.mp configSha
  obtain rfl := wellFormed.config_eq loaded configured
  obtain rfl := wellFormed.configSha_eq artifactHash hashed
  exact loadConfig_ok.mpr ⟨run, _, rfl, rfl, configured, hashed,
    experiment.semanticHash_eq, wellFormed.named, experiment.fullHash_eq⟩

theorem load_wellFormed (wellFormed : run.WellFormed experiment)
    {state : ExperimentRun} (known : run.state = some state) :
    experiment.load (some run) run.runId = .ok state := by
  obtain ⟨config, configSha⟩ := wellFormed.state_last (by simp [known])
  exact load_ok.mpr ⟨experiment.config, run,
    loadConfig_wellFormed wellFormed config configSha, rfl, known⟩

/-- What `load` finds. -/
theorem load_inv {runId : String} {state : ExperimentRun}
    (loaded : experiment.load (some run) runId = .ok state) :
    run.runId = runId ∧ run.state = some state := by
  obtain ⟨config, other, configured, same, known⟩ := load_ok.mp loaded
  obtain rfl := Option.some.inj same
  obtain ⟨found, -, same, named, -⟩ := loadConfig_ok.mp configured
  obtain rfl := Option.some.inj same
  exact ⟨named, known⟩

theorem transition_ok {runId : String} {status : RunStatus}
    {completed failed : Option (Finset String)} {stopReason : Option String}
    {writes : List FileWrite} :
    experiment.transition files runId status completed failed stopReason =
        .ok writes ↔
      ∃ current, experiment.load files runId = .ok current ∧
        status ∈ current.status.successors ∧
          writes =
            [.state (transitioned current status completed failed stopReason),
              .history
                (transitioned current status completed failed stopReason)] := by
  unfold transition
  rw [bind_eq_ok]
  constructor
  · rintro ⟨current, loaded, made⟩
    split_ifs at made with allowed
    · obtain rfl := Except.ok.inj made
      exact ⟨current, loaded, allowed, rfl⟩
    · cases made
  · rintro ⟨current, loaded, allowed, rfl⟩
    refine ⟨current, loaded, ?_⟩
    rw [if_neg (not_not.mpr allowed)]
    rfl

theorem create_ok {timestamp : String} {writes : List FileWrite} :
    experiment.create files timestamp = .ok writes ↔
      files = none ∧
        writes =
          [.directory (experiment.semanticHash ++ "-" ++ timestamp),
            .config experiment.config, .configSha experiment.fullHash,
            .state
              { runId := experiment.semanticHash ++ "-" ++ timestamp
                configHash := experiment.semanticHash
                status := .planned },
            .history
              { runId := experiment.semanticHash ++ "-" ++ timestamp
                configHash := experiment.semanticHash
                status := .planned }] := by
  unfold create
  split_ifs with present
  · cases files with
    | none => cases present
    | some run => simp
  · cases files with
    | none => simp [eq_comm]
    | some run => exact absurd rfl present

theorem saveResult_ok {runId : String} {result : ExperimentQuestionResult}
    {writes : List FileWrite}
    (saved : experiment.saveResult files runId result = .ok writes) :
    ∃ config run, experiment.loadConfig files runId = .ok config ∧
      files = some run ∧ result.questionId ∈ config.questionIds ∧
        run.results.get? result.questionId = none ∧
          writes = [.result result] := by
  obtain ⟨config, loaded, saved⟩ := bind_eq_ok.mp saved
  by_cases inside : result.questionId ∈ config.questionIds
  · rw [if_neg (not_not.mpr inside)] at saved
    obtain ⟨run, found, saved⟩ := bind_eq_ok.mp saved
    split_ifs at saved with invalid present
    obtain rfl := Except.ok.inj saved
    exact ⟨config, run, loaded, (find_ok.mp found).1, inside,
      by simpa using present, rfl⟩
  · rw [if_pos inside] at saved
    cases saved

theorem resultIds_wellFormed (wellFormed : run.WellFormed experiment)
    (config : run.config.isSome) (configSha : run.configSha.isSome) :
    ∃ completed, experiment.resultIds (some run) run.runId = .ok completed ∧
      ∀ questionId, questionId ∈ completed ↔
        (run.results.get? questionId).isSome := by
  refine ⟨(experiment.config.questionIds.filter fun questionId =>
    (run.results.get? questionId).isSome).toFinset, ?_, ?_⟩
  · have valid : (experiment.config.questionIds.find? fun questionId =>
        match run.results.get? questionId with
        | some result => decide (result.questionId ≠ questionId)
        | none => false) = none := by
      rw [List.find?_eq_none]
      intro questionId _
      split
      · next result found =>
          simpa using (wellFormed.results_eq questionId result found).1
      · simp
    refine bind_eq_ok.mpr ⟨experiment.config,
      loadConfig_wellFormed wellFormed config configSha,
      bind_eq_ok.mpr ⟨run, find_ok.mpr ⟨rfl, rfl⟩, ?_⟩⟩
    dsimp only
    rw [valid]
    rfl
  · intro questionId
    rw [List.mem_toFinset, List.mem_filter]
    constructor
    · exact fun both => both.2
    · intro present
      obtain ⟨result, found⟩ := Option.isSome_iff_exists.mp present
      exact ⟨(wellFormed.results_eq questionId result found).2, present⟩

end Experiment

end RagBench
