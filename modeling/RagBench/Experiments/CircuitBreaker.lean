import RagBench.Experiments.Reachable

/-!
# The circuit breaker

A call that reaches an error threshold stops with that reason, and `run` asks
for a diagnosis before it resumes such an experiment.  The reason is one
variable of the call: an exhausted budget overwrites it, and a cancellation
does not look at it.
-/

namespace RagBench

namespace World

/-- Without a diagnosis no call resumes the experiment. -/
def Refuses (experiment : Experiment) (world : World) : Prop :=
  ∀ runId accepted,
    startRun experiment world.files runId true false ≠ .ok accepted

/-- An event of the call that is going on, before its end. -/
def WithinCall : Event → Prop
  | .task _ | .cancel | .collect => True
  | _ => False

/-- An execution ends with `BudgetExceededError`. -/
def ExceedsBudget : Event → Prop
  | .task (.finish _ (.raised error _)) =>
      error.isInstance budgetExceededError
  | _ => False

/-- An event that leaves the reason of the stop alone. -/
structure Spares (event : Event) : Prop where
  within : WithinCall event
  uncancelled : event ≠ .cancel
  affordable : ¬ ExceedsBudget event

/-- The call is in `gather`, and a threshold is the reason of its stop. -/
def Halted (world : World) : Prop :=
  ∃ run cause, world.active = some run ∧ run.phase = .gathering ∧
    run.stopCause = some cause ∧ cause ≠ .budget

end World

theorem trippedThreshold_ne_budget {runtime : RuntimeConfig}
    {recent : List OutcomeKind} {cause : StopCause}
    (tripped : trippedThreshold runtime recent = some cause) :
    cause ≠ .budget := by
  unfold trippedThreshold at tripped
  dsimp only at tripped
  split_ifs at tripped
  all_goals
    obtain rfl := Option.some.inj tripped
    decide

/-- A failure that is not the budget's leaves a threshold in charge. -/
theorem recordFailure_threshold (run : RunState) (questionId : String)
    (error : PyException) {cause : StopCause}
    (halted : run.stopCause = some cause) (threshold : cause ≠ .budget) :
    ∃ cause, (run.recordFailure questionId error).stopCause = some cause ∧
      cause ≠ .budget := by
  change ∃ cause, (trippedThreshold run.runtime
    (run.recent ++ [errorKind error])).or run.stopCause = some cause ∧ _
  cases tripped : trippedThreshold run.runtime
      (run.recent ++ [errorKind error]) with
  | some reason => exact ⟨reason, rfl, trippedThreshold_ne_budget tripped⟩
  | none => exact ⟨cause, halted, threshold⟩

section Saving

variable {experiment : Experiment}

/-- A result that cannot be saved does not look like an exhausted budget. -/
theorem saveResult_affordable {files : RunFiles}
    (wellFormed : files.WellFormed experiment) (known : files.state.isSome)
    {result : ExperimentQuestionResult} {error : PyException}
    (failed : experiment.saveResult (some files) files.runId result =
      .error error) :
    ¬ error.isInstance budgetExceededError := by
  obtain ⟨config, configSha⟩ := wellFormed.state_last known
  unfold Experiment.saveResult at failed
  rw [Experiment.loadConfig_wellFormed wellFormed config configSha,
    Experiment.find_ok.mpr ⟨rfl, rfl⟩] at failed
  simp only [bind, Except.bind] at failed
  split_ifs at failed
  · obtain rfl := Except.error.inj failed
    decide
  · obtain rfl := Except.error.inj failed
    simp [PyException.isInstance, ExceptionClass.lineage, budgetExceededError]
  · cases failed
  · obtain rfl := Except.error.inj failed
    decide

/-- A task that goes on without exceeding the budget keeps the reason of the
stop, or sets it to a threshold. -/
theorem stepTask_halted {files : RunFiles} {run next : RunState}
    (tracks : run.Tracks experiment files)
    (wellFormed : files.WellFormed experiment) {event : TaskEvent}
    {writes : List FileWrite}
    (stepped : stepTask experiment (some files) run event =
      some (writes, next))
    (affordable : ¬ World.ExceedsBudget (.task event))
    {cause : StopCause} (halted : run.stopCause = some cause)
    (threshold : cause ≠ .budget) :
    ∃ cause, next.stopCause = some cause ∧ cause ≠ .budget := by
  cases event with
  | start | skip | abandon =>
      obtain ⟨-, stepped⟩ := Option.ite_none_right_eq_some.mp stepped
      obtain ⟨-, rfl⟩ := Prod.mk.inj (Option.some.inj stepped)
      exact ⟨cause, halted, threshold⟩
  | finish questionId outcome =>
      obtain ⟨-, handled⟩ := Option.ite_none_right_eq_some.mp stepped
      rcases handleOutcome_cases (Option.some.inj handled) with
        ⟨_, -, -, -, -, rfl⟩ |
          ⟨error, failed, -, ⟨exhausted, -⟩ | ⟨-, rfl⟩⟩
      · exact ⟨cause, halted, threshold⟩
      · cases outcome with
        | raised error ordinary =>
            obtain rfl := Except.error.inj failed
            exact absurd exhausted affordable
        | returned result =>
            dsimp only [checkOutcome] at failed
            split_ifs at failed
            · obtain rfl := Except.error.inj failed
              exact absurd exhausted (by decide)
            · obtain ⟨state, known, -⟩ := tracks.running
              have unsaved : experiment.saveResult (some files) files.runId
                  result = .error error := by
                rw [tracks.named]
                exact failed
              exact absurd exhausted
                (saveResult_affordable wellFormed (by simp [known]) unsaved)
      · exact recordFailure_threshold _ _ error halted threshold

end Saving

/-! ## From the stop to the end of the call -/

namespace World

variable {experiment : Experiment} {world : World}

theorem Halted.step (halted : world.Halted)
    (sound : world.Sound experiment) {event : Event} (spares : Spares event)
    {after : World} (performed : world.Step experiment event after) :
    after.Halted := by
  obtain ⟨run, cause, active, gathering, stopped, threshold⟩ := halted
  obtain ⟨files, found, tracks⟩ := sound.active run active
  obtain ⟨writes, affects, -⟩ := performed
  cases event with
  | create | transition | run | conclude => exact spares.within.elim
  | cancel => exact absurd rfl spares.uncancelled
  | collect =>
      obtain ⟨other, same, affects⟩ := Option.bind_eq_some_iff.mp affects
      obtain rfl := Option.some.inj (active.symm.trans same)
      obtain ⟨⟨cancelling, -⟩, -⟩ :=
        Option.ite_none_right_eq_some.mp affects
      rw [gathering] at cancelling
      cases cancelling
  | task event =>
      obtain ⟨other, same, affects⟩ := Option.bind_eq_some_iff.mp affects
      obtain rfl := Option.some.inj (active.symm.trans same)
      obtain ⟨⟨made, next⟩, stepped, same⟩ :=
        Option.map_eq_some_iff.mp affects
      obtain ⟨rfl, continues⟩ := Prod.mk.inj same
      rw [found] at stepped
      obtain ⟨reason, kept, still⟩ := stepTask_halted tracks
        (sound.files files found) stepped spares.affordable stopped threshold
      refine ⟨next, reason, continues.symm, ?_, kept, still⟩
      rcases stepTask_phase stepped with same | ⟨cancelling, -⟩
      · rw [same, gathering]
      · rw [gathering] at cancelling
        cases cancelling

/-- The end of the call persists the threshold. -/
theorem Halted.conclude (halted : world.Halted)
    (sound : world.Sound experiment) {after : World}
    (concluded : world.Step experiment .conclude after) :
    after.Refuses experiment := by
  obtain ⟨run, cause, active, gathering, stopped, threshold⟩ := halted
  obtain ⟨files, found, tracks⟩ := sound.active run active
  have wellFormed := sound.files files found
  obtain ⟨state, known, running, -⟩ := tracks.running
  obtain ⟨writes, affects, written⟩ := concluded
  obtain ⟨other, same, affects⟩ := Option.bind_eq_some_iff.mp affects
  obtain rfl := Option.some.inj (active.symm.trans same)
  obtain ⟨-, affects⟩ := Option.ite_none_right_eq_some.mp affects
  have allowed : RunStatus.stopped ∈ state.status.successors := by
    rw [running]
    decide
  have finished := transition_wellFormed wellFormed known allowed
    (some run.completed) (some run.failed) (some cause.reason)
  have stops : finishRun experiment world.files run =
      experiment.transition (some files) files.runId .stopped
        (some run.completed) (some run.failed) (some cause.reason) := by
    unfold finishRun
    rw [gathering, stopped, found, tracks.named]
  rw [stops, finished] at affects
  obtain ⟨rfl, -⟩ := Prod.mk.inj (Option.some.inj affects)
  rintro runId ⟨moves, next⟩ accepted
  rw [written, found, Files.writeAll_some] at accepted
  obtain ⟨-, current, -, same, ⟨-, -, undiagnosed⟩, -⟩ :=
    (startRun_ok (wellFormed.writes (transition_allowed finished) 2)).mp
      accepted
  obtain rfl := Option.some.inj same
  refine undiagnosed ⟨rfl, ?_, rfl⟩
  cases cause with
  | schemaErrors => exact .inl rfl
  | providerErrors => exact .inr rfl
  | budget => exact absurd rfl threshold

end World

def invalidAnswer : ExecutionOutcome :=
  .raised (.valueError "invalid answer") (by decide)

end RagBench
