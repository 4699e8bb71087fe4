import RagBench.Experiments.Repository
import RagBench.Transition

/-!
# Running experiments

A run call is synchronous up to the start of its tasks and from their end on;
in between the tasks take turns at their suspension points.  A task waits for
the semaphore, then for its executor; what it does with the outcome is not
interrupted.

Cancelling the call cancels the tasks.  The first task that ends cancelled
makes `gather` raise, and the handler waits once more for all of them before
it records the cancellation.
-/

namespace RagBench

/-- What the error window counts. -/
inductive OutcomeKind where
  | ok
  | schema
  | provider
  | other
  deriving DecidableEq, Repr

/-- Why a run stops before its questions are done. -/
inductive StopCause where
  | schemaErrors
  | providerErrors
  | budget
  deriving DecidableEq, Repr

def StopCause.reason : StopCause → String
  | .schemaErrors => "schema_error_threshold"
  | .providerErrors => "provider_error_threshold"
  | .budget => "budget_exhausted"

/-- Where the run call is suspended. -/
inductive RunPhase where
  /-- In `gather`. -/
  | gathering
  /-- In `gather`, which has been cancelled. -/
  | cancelling
  /-- In the `gather` of the handler. -/
  | collecting
  /-- In the `gather` of the handler, which has been cancelled. -/
  | interrupted
  deriving DecidableEq, Repr

/-- A run call between its two synchronous parts.  `launched` are the
questions it gave to the executor. -/
structure RunState where
  runId : String
  questionIds : List String
  runtime : RuntimeConfig
  tasks : List String
  waiting : List String
  inFlight : List String := []
  completed : Finset String
  failed : Finset String := ∅
  recent : List OutcomeKind := []
  stopCause : Option StopCause := none
  phase : RunPhase := .gathering
  launched : List String := []

/-- How an execution ends, unless it is cancelled. -/
inductive ExecutionOutcome where
  | returned (result : ExperimentQuestionResult)
  | raised (error : PyException) (ordinary : error.isInstance .exception)

/-- A task goes on. -/
inductive TaskEvent where
  /-- It gets the semaphore and calls the executor. -/
  | start (questionId : String)
  /-- It gets the semaphore after the stop. -/
  | skip (questionId : String)
  /-- The executor is done. -/
  | finish (questionId : String) (outcome : ExecutionOutcome)
  /-- It ends cancelled. -/
  | abandon (questionId : String)

/-! ## Outcomes -/

/-- The kind recorded for an exception. -/
def errorKind (error : PyException) : OutcomeKind :=
  if error.isInstance .typeError ∨ error.isInstance .valueError then .schema
  else if error.isInstance providerHttpErrorClass then .provider
  else .other

/-- `recent[-error_window:]`. -/
def errorWindow (runtime : RuntimeConfig) (recent : List OutcomeKind) :
    List OutcomeKind :=
  recent.drop (recent.length - runtime.errorWindow)

/-- The rate of a kind in a window. -/
def outcomeRate (window : List OutcomeKind) (kind : OutcomeKind) : ℚ :=
  window.count kind / window.length

/-- The threshold that the last outcomes reach. -/
def trippedThreshold (runtime : RuntimeConfig) (recent : List OutcomeKind) :
    Option StopCause :=
  let window := errorWindow runtime recent
  if window.length ≠ runtime.errorWindow then none
  else if runtime.schemaErrorRateStop ≤ outcomeRate window .schema then
    some .schemaErrors
  else if runtime.providerErrorRateStop ≤ outcomeRate window .provider then
    some .providerErrors
  else none

namespace RunState

variable (run : RunState)

def stopped : Bool :=
  run.stopCause.isSome

/-- The executor raised `BudgetExceededError`. -/
def exhaustBudget (questionId : String) : RunState :=
  { run with
    failed := insert questionId run.failed
    stopCause := some .budget }

/-- Another exception was raised. -/
def recordFailure (questionId : String) (error : PyException) : RunState :=
  let recent := run.recent ++ [errorKind error]
  { run with
    failed := insert questionId run.failed
    recent := recent
    stopCause := (trippedThreshold run.runtime recent).or run.stopCause }

def recordSuccess (questionId : String) : RunState :=
  { run with
    completed := insert questionId run.completed
    recent := run.recent ++ [.ok] }

def closeTask (questionId : String) : RunState :=
  { run with
    waiting := run.waiting.erase questionId
    inFlight := run.inFlight.erase questionId }

def idle : Bool :=
  run.waiting.isEmpty && run.inFlight.isEmpty

end RunState

/-- The question is saved, or the exception the task handles. -/
def checkOutcome (experiment : Experiment) (files : Files) (runId : String)
    (questionId : String) :
    ExecutionOutcome → Except PyException (List FileWrite)
  | .returned result =>
      if result.questionId ≠ questionId then
        .error (.valueError
          "executor returned a result for the wrong question")
      else experiment.saveResult files runId result
  | .raised error _ => .error error

/-- What `one` does with the outcome of the executor. -/
def handleOutcome (experiment : Experiment) (files : Files) (run : RunState)
    (questionId : String) (outcome : ExecutionOutcome) :
    List FileWrite × RunState :=
  match checkOutcome experiment files run.runId questionId outcome with
  | .ok writes => (writes, run.recordSuccess questionId)
  | .error error =>
      (Experiment.saveError questionId error,
        if error.isInstance budgetExceededError then
          run.exhaustBudget questionId
        else run.recordFailure questionId error)

/-! ## Tasks -/

/-- The next suspension point of a task; `none` when the task is elsewhere. -/
def stepTask (experiment : Experiment) (files : Files) (run : RunState) :
    TaskEvent → Option (List FileWrite × RunState)
  | .start questionId =>
      if run.phase = .gathering ∧ questionId ∈ run.waiting ∧
          run.inFlight.length < run.runtime.concurrency.value ∧
          run.stopped = false then
        some ([],
          { run with
            waiting := run.waiting.erase questionId
            inFlight := questionId :: run.inFlight
            launched := run.launched ++ [questionId] })
      else none
  | .skip questionId =>
      if run.phase = .gathering ∧ questionId ∈ run.waiting ∧
          run.inFlight.length < run.runtime.concurrency.value ∧
          run.stopped = true then
        some ([], run.closeTask questionId)
      else none
  | .finish questionId outcome =>
      if questionId ∈ run.inFlight then
        some (handleOutcome experiment files (run.closeTask questionId)
          questionId outcome)
      else none
  | .abandon questionId =>
      if run.phase ≠ .gathering ∧
          (questionId ∈ run.waiting ∨ questionId ∈ run.inFlight) then
        some ([],
          { run.closeTask questionId with
            phase := if run.phase = .cancelling then .collecting
              else run.phase })
      else none

/-! ## Run calls -/

/-- A run call before its tasks are started. -/
def RunState.initial (config : ExperimentConfig) (runId : String)
    (completed : Finset String) : RunState :=
  let pending := (config.questionIds.filter (· ∉ completed)).take
    config.runtime.batchCap
  { runId := runId
    questionIds := config.questionIds
    runtime := config.runtime
    tasks := pending
    waiting := pending
    completed := completed }

/-- `run` lets an experiment in this state go on. -/
def Admits (current : ExperimentRun) (resume acknowledgement : Bool) : Prop :=
  current.status ≠ .completed ∧
    (current.status = .planned ∨ resume = true) ∧
      ¬ (current.status = .stopped ∧
        (current.stopReason = some StopCause.schemaErrors.reason ∨
          current.stopReason = some StopCause.providerErrors.reason) ∧
        acknowledgement = false)

/-- The checks of `run`. -/
def checkAdmission (current : ExperimentRun)
    (resume acknowledgement : Bool) : Except PyException Unit :=
  if current.status = .completed then
    .error (.valueError "completed experiments cannot be resumed")
  else if current.status ≠ .planned ∧ resume = false then
    .error (.valueError "non-planned experiment requires --resume")
  else if current.status = .stopped ∧
      (current.stopReason = some StopCause.schemaErrors.reason ∨
        current.stopReason = some StopCause.providerErrors.reason) ∧
      acknowledgement = false then
    .error ⟨.permissionError,
      "threshold-stopped experiment requires diagnosis acknowledgement"⟩
  else .ok ()

theorem checkAdmission_ok {current : ExperimentRun}
    {resume acknowledgement : Bool} :
    checkAdmission current resume acknowledgement = .ok () ↔
      Admits current resume acknowledgement := by
  unfold checkAdmission Admits
  split_ifs with done unplanned undiagnosed
  · simp [done]
  · simp [unplanned]
  · exact iff_of_false (by simp) fun admitted => admitted.2.2 undiagnosed
  · refine iff_of_true rfl ⟨done, ?_, undiagnosed⟩
    rw [not_and_or, not_not, Bool.not_eq_false] at unplanned
    exact unplanned

/-- `run` up to `gather`; `acknowledgement` is the truth value of
`diagnosis_acknowledgement`. -/
def startRun (experiment : Experiment) (files : Files) (runId : String)
    (resume acknowledgement : Bool) :
    Except PyException (List FileWrite × RunState) := do
  let current ← experiment.load files runId
  checkAdmission current resume acknowledgement
  let config ← experiment.loadConfig files runId
  let completed ← experiment.resultIds files runId
  let writes ← experiment.transition files runId .running (some completed)
    (some ∅) none
  return (writes, .initial config runId completed)

/-- `run` from the end of `gather` on; a call that was cancelled during the
handler makes no transition. -/
def finishRun (experiment : Experiment) (files : Files) (run : RunState) :
    Except PyException (List FileWrite) :=
  match run.phase with
  | .interrupted => .error .cancelled
  | .cancelling | .collecting =>
      experiment.transition files run.runId .cancelled (some run.completed)
        (some run.failed) (some "operator_cancelled")
  | .gathering =>
      match run.stopCause with
      | some cause =>
          experiment.transition files run.runId .stopped (some run.completed)
            (some run.failed) (some cause.reason)
      | none =>
          if run.failed ≠ ∅ then
            experiment.transition files run.runId .failed (some run.completed)
              (some run.failed) none
          else if run.completed.card ≠ run.questionIds.length then
            experiment.transition files run.runId .stopped
              (some run.completed) none (some "batch_cap")
          else
            experiment.transition files run.runId .completed
              (some run.completed) (some ∅) none

/-- Cancelling the call.  Without tasks it does not suspend. -/
def cancelRun (run : RunState) : Option RunState :=
  if run.tasks = [] then none
  else
    match run.phase with
    | .gathering => some { run with phase := .cancelling }
    | .cancelling => some run
    | .collecting => some { run with phase := .interrupted }
    | .interrupted => some run

/-! ## The system -/

/-- The files, and the run call that is going on. -/
structure World where
  files : Files
  active : Option RunState

inductive Event where
  | create (timestamp : String)
  | transition (runId : String) (status : RunStatus)
      (completed failed : Option (Finset String)) (stopReason : Option String)
  | run (runId : String) (resume acknowledgement : Bool)
  | task (event : TaskEvent)
  | cancel
  /-- All tasks are done before `gather` has raised the cancellation. -/
  | collect
  /-- All tasks are done, and the call ends. -/
  | conclude

namespace World

/-- The writes of an event and the call that goes on after it; `none` when the
event cannot happen, or the call is refused. -/
def effect (experiment : Experiment) (world : World) :
    Event → Option (List FileWrite × Option RunState)
  | .create timestamp =>
      if world.active.isSome then none
      else (experiment.create world.files timestamp).toOption.map (·, none)
  | .transition runId status completed failed stopReason =>
      if world.active.isSome then none
      else (experiment.transition world.files runId status completed failed
        stopReason).toOption.map (·, none)
  | .run runId resume acknowledgement =>
      if world.active.isSome then none
      else (startRun experiment world.files runId resume
        acknowledgement).toOption.map fun (writes, run) => (writes, some run)
  | .task event =>
      world.active.bind fun run =>
        (stepTask experiment world.files run event).map
          fun (writes, next) => (writes, some next)
  | .cancel =>
      world.active.bind fun run =>
        (cancelRun run).map fun next => ([], some next)
  | .collect =>
      world.active.bind fun run =>
        if run.phase = .cancelling ∧ run.idle then
          some ([], some { run with phase := .collecting })
        else none
  | .conclude =>
      world.active.bind fun run =>
        if run.phase ≠ .cancelling ∧ run.idle then
          match finishRun experiment world.files run with
          | .ok writes => some (writes, none)
          | .error _ => some ([], none)
        else none

/-- An event that is not interrupted. -/
def Step (experiment : Experiment) (before : World) (event : Event)
    (after : World) : Prop :=
  ∃ writes, before.effect experiment event = some (writes, after.active) ∧
    after.files = before.files.writeAll writes

/-- `Step` as a function. -/
def perform (experiment : Experiment) (before : World) (event : Event) :
    Option World :=
  (before.effect experiment event).map fun (writes, next) =>
    { files := before.files.writeAll writes
      active := next }

def performAll (experiment : Experiment) :
    World → List Event → Option World
  | world, [] => some world
  | world, event :: events =>
      (world.perform experiment event).bind (performAll experiment · events)

/-- No files, and no call. -/
def empty : World :=
  { files := none
    active := none }

end World

/-- An event, or a crash after the first few of its writes. -/
inductive Incident where
  | done (event : Event)
  | crash (event : Event) (kept : ℕ)

def World.Happens (experiment : Experiment) (before : World) :
    Incident → World → Prop
  | .done event, after => before.Step experiment event after
  | .crash event kept, after =>
      after.active = none ∧ ∃ writes next,
        before.effect experiment event = some (writes, next) ∧
          after.files = before.files.writeAll (writes.take kept)

end RagBench
