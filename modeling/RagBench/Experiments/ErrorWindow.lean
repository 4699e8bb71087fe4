import RagBench.Experiments.CircuitBreaker

/-!
# The error window

Only a recorded failure is compared with the thresholds.  A success enters the
window as well, and it can take the place of an earlier failure or be the
outcome that completes the first window; nothing looks at the shares then.
-/

namespace RagBench

/-- The window is full, and the share of one kind of error in it reaches the
threshold of that kind. -/
def AtThreshold (runtime : RuntimeConfig) (recent : List OutcomeKind) :
    StopCause → Prop
  | .schemaErrors =>
      (errorWindow runtime recent).length = runtime.errorWindow ∧
        runtime.schemaErrorRateStop ≤
          outcomeRate (errorWindow runtime recent) .schema
  | .providerErrors =>
      (errorWindow runtime recent).length = runtime.errorWindow ∧
        runtime.providerErrorRateStop ≤
          outcomeRate (errorWindow runtime recent) .provider
  | .budget => False

/-- A success recorded now would put the last window at a threshold that is
not the reason of the stop: it completes the first window, or the budget has
taken over the reason, or it ends the share of schema errors that set it. -/
def RunState.Overlooks (run : RunState) : Prop :=
  let recent := run.recent ++ [.ok]
  run.recent.length + 1 = run.runtime.errorWindow ∧
      (∃ cause, AtThreshold run.runtime recent cause) ∨
    run.stopCause = some .budget ∧
      (∃ cause, AtThreshold run.runtime recent cause) ∨
    run.stopCause = some .schemaErrors ∧
      ¬ AtThreshold run.runtime recent .schemaErrors ∧
        AtThreshold run.runtime recent .providerErrors

namespace World

/-- The call that is going on records an outcome. -/
def Records (before after : World) : Prop :=
  ∃ run next kind, before.active = some run ∧ after.active = some next ∧
    next.recent = run.recent ++ [kind]

/-- Up to its end the call gives no further question to the executor. -/
def StartsNothing (experiment : Experiment) (world : World) : Prop :=
  ∀ run events later, world.active = some run →
    (∀ event ∈ events, WithinCall event) →
      Run (Step experiment) world events later →
        ∃ next, later.active = some next ∧ next.launched = run.launched

/-- A window at a threshold has set the stop, with a matching reason. -/
def HaltsAtThreshold (experiment : Experiment) (world : World) : Prop :=
  ∀ run cause, world.active = some run →
    AtThreshold run.runtime run.recent cause →
      (∃ reason, run.stopCause = some reason ∧
        AtThreshold run.runtime run.recent reason) ∧
          world.StartsNothing experiment

/-- The incident records a success that is overlooked. -/
def OverlooksSuccess (experiment : Experiment) (world : World) :
    Incident → Prop
  | .done (.task (.finish questionId outcome)) =>
      ∃ run writes, world.active = some run ∧ run.Overlooks ∧
        checkOutcome experiment world.files run.runId questionId outcome =
          .ok writes
  | _ => False

/-- An incident that does not record such a success. -/
def HappensNoticed (experiment : Experiment) (before : World)
    (incident : Incident) (after : World) : Prop :=
  before.Happens experiment incident after ∧
    ¬ before.OverlooksSuccess experiment incident

end World

/-! ## Shares in a window -/

section Shares

variable {runtime : RuntimeConfig} {recent : List OutcomeKind}

theorem errorWindow_length :
    (errorWindow runtime recent).length =
      min recent.length runtime.errorWindow := by
  unfold errorWindow
  rw [List.length_drop]
  omega

theorem errorWindow_full :
    (errorWindow runtime recent).length = runtime.errorWindow ↔
      runtime.errorWindow ≤ recent.length := by
  rw [errorWindow_length]
  exact min_eq_right_iff

/-- A full window moves on by one outcome. -/
theorem errorWindow_append (full : runtime.errorWindow ≤ recent.length)
    (kind : OutcomeKind) :
    errorWindow runtime (recent ++ [kind]) =
      (errorWindow runtime recent).tail ++ [kind] := by
  have positive := runtime.errorWindow_positive
  unfold errorWindow
  rw [List.length_append, List.length_singleton,
    List.drop_append_of_le_length (by omega), List.tail_drop]
  congr 2
  omega

/-- A success never raises the share of another kind in a full window. -/
theorem outcomeRate_success (full : runtime.errorWindow ≤ recent.length)
    {kind : OutcomeKind} (failure : kind ≠ .ok) :
    outcomeRate (errorWindow runtime (recent ++ [.ok])) kind ≤
      outcomeRate (errorWindow runtime recent) kind := by
  have longer : runtime.errorWindow ≤ (recent ++ [OutcomeKind.ok]).length := by
    rw [List.length_append]
    exact full.trans (Nat.le_add_right _ _)
  have fewer : (errorWindow runtime (recent ++ [.ok])).count kind ≤
      (errorWindow runtime recent).count kind := by
    rw [errorWindow_append full, List.count_append,
      List.count_singleton, if_neg (by simpa using failure.symm),
      Nat.add_zero]
    exact (List.tail_sublist _).count_le kind
  unfold outcomeRate
  rw [errorWindow_full.mpr full, errorWindow_full.mpr longer]
  gcongr

theorem AtThreshold.full {cause : StopCause}
    (reached : AtThreshold runtime recent cause) :
    runtime.errorWindow ≤ recent.length := by
  cases cause with
  | schemaErrors | providerErrors => exact errorWindow_full.mp reached.1
  | budget => exact reached.elim

/-- A threshold reached after a success was reached before it. -/
theorem AtThreshold.before_success {cause : StopCause}
    (full : runtime.errorWindow ≤ recent.length)
    (reached : AtThreshold runtime (recent ++ [.ok]) cause) :
    AtThreshold runtime recent cause := by
  cases cause with
  | schemaErrors =>
      exact ⟨errorWindow_full.mpr full,
        reached.2.trans (outcomeRate_success full (by decide))⟩
  | providerErrors =>
      exact ⟨errorWindow_full.mpr full,
        reached.2.trans (outcomeRate_success full (by decide))⟩
  | budget => exact reached

/-- Schema errors go before provider errors. -/
theorem trippedThreshold_eq_some {cause : StopCause} :
    trippedThreshold runtime recent = some cause ↔
      AtThreshold runtime recent cause ∧
        (cause = .providerErrors →
          ¬ AtThreshold runtime recent .schemaErrors) := by
  unfold trippedThreshold AtThreshold
  dsimp only
  split_ifs with partly schema provider
  all_goals cases cause <;> simp_all

theorem trippedThreshold_of_atThreshold {cause : StopCause}
    (reached : AtThreshold runtime recent cause) :
    ∃ reason, trippedThreshold runtime recent = some reason := by
  by_cases schema : AtThreshold runtime recent .schemaErrors
  · exact ⟨.schemaErrors, trippedThreshold_eq_some.mpr
      ⟨schema, fun other => by cases other⟩⟩
  · cases cause with
    | schemaErrors => exact absurd reached schema
    | providerErrors =>
        exact ⟨.providerErrors, trippedThreshold_eq_some.mpr
          ⟨reached, fun _ => schema⟩⟩
    | budget => exact reached.elim

end Shares

/-! ## What a task does to the window -/

/-- The reason of the stop is the threshold that the window reaches, unless
the budget has overwritten it. -/
def RunState.Heeds (run : RunState) : Prop :=
  ∀ cause, trippedThreshold run.runtime run.recent = some cause →
    run.stopCause = some cause ∨ run.stopCause = some .budget

/-- The stop has been set for a threshold the window reaches. -/
def RunState.Answers (run : RunState) : Prop :=
  ∀ cause, AtThreshold run.runtime run.recent cause →
    ∃ reason, run.stopCause = some reason ∧
      AtThreshold run.runtime run.recent reason

section Tasks

variable {experiment : Experiment} {files : Files} {run next : RunState}

/-- A task leaves the window alone, or appends a success, or appends a failure
and compares the window with the thresholds. -/
theorem stepTask_window {event : TaskEvent} {writes : List FileWrite}
    (stepped : stepTask experiment files run event = some (writes, next)) :
    next.runtime = run.runtime ∧
      (next.recent = run.recent ∧ (next.stopCause = run.stopCause ∨
          next.stopCause = some .budget) ∨
        (∃ questionId outcome saved, event = .finish questionId outcome ∧
          checkOutcome experiment files run.runId questionId outcome =
            .ok saved ∧
          next.recent = run.recent ++ [.ok] ∧
            next.stopCause = run.stopCause) ∨
        ∃ kind, next.recent = run.recent ++ [kind] ∧
          next.stopCause =
            (trippedThreshold run.runtime next.recent).or run.stopCause) := by
  cases event with
  | start | skip | abandon =>
      obtain ⟨-, stepped⟩ := Option.ite_none_right_eq_some.mp stepped
      obtain ⟨-, rfl⟩ := Prod.mk.inj (Option.some.inj stepped)
      exact ⟨rfl, .inl ⟨rfl, .inl rfl⟩⟩
  | finish questionId outcome =>
      obtain ⟨-, stepped⟩ := Option.ite_none_right_eq_some.mp stepped
      have handled := Option.some.inj stepped
      unfold handleOutcome at handled
      split at handled
      · next saved accepted =>
          obtain ⟨-, rfl⟩ := Prod.mk.inj handled
          exact ⟨rfl, .inr (.inl
            ⟨questionId, outcome, saved, rfl, accepted, rfl, rfl⟩)⟩
      · next error refused =>
          obtain ⟨-, rfl⟩ := Prod.mk.inj handled
          split_ifs
          · exact ⟨rfl, .inl ⟨rfl, .inr rfl⟩⟩
          · exact ⟨rfl, .inr (.inr ⟨errorKind error, rfl, rfl⟩)⟩

/-- A comparison sets the reason. -/
theorem heeds_of_compared {stopCause : Option StopCause}
    (compared : next.stopCause =
      (trippedThreshold next.runtime next.recent).or stopCause) :
    next.Heeds := by
  intro cause tripped
  rw [tripped] at compared
  exact .inl compared

theorem answers_of_compared {stopCause : Option StopCause}
    (compared : next.stopCause =
      (trippedThreshold next.runtime next.recent).or stopCause) :
    next.Answers := by
  intro cause reached
  obtain ⟨reason, tripped⟩ := trippedThreshold_of_atThreshold reached
  rw [tripped] at compared
  exact ⟨reason, compared, (trippedThreshold_eq_some.mp tripped).1⟩

/-- A success that is not overlooked finds the reason in place. -/
theorem RunState.Heeds.success (heeds : run.Heeds)
    (noticed : ¬ run.Overlooks) {cause : StopCause}
    (reached : AtThreshold run.runtime (run.recent ++ [.ok]) cause) :
    ∃ reason, run.stopCause = some reason ∧
      trippedThreshold run.runtime (run.recent ++ [.ok]) = some reason := by
  have full : run.runtime.errorWindow ≤ run.recent.length := by
    have longer := reached.full
    rw [List.length_append, List.length_singleton] at longer
    refine Nat.le_of_lt_succ (lt_of_le_of_ne longer fun completes => ?_)
    exact noticed (.inl ⟨completes.symm, cause, reached⟩)
  obtain ⟨reason, tripped⟩ :=
    trippedThreshold_of_atThreshold (reached.before_success full)
  have held := trippedThreshold_eq_some.mp tripped
  rcases heeds reason tripped with stopped | exhausted
  · refine ⟨reason, stopped, trippedThreshold_eq_some.mpr ?_⟩
    cases reason with
    | schemaErrors =>
        refine ⟨?_, fun other => by cases other⟩
        by_contra ended
        cases cause with
        | schemaErrors => exact ended reached
        | providerErrors =>
            exact noticed (.inr (.inr ⟨stopped, ended, reached⟩))
        | budget => exact reached
    | providerErrors =>
        have unreached : ¬ AtThreshold run.runtime (run.recent ++ [.ok])
            .schemaErrors :=
          fun schema => held.2 rfl (schema.before_success full)
        refine ⟨?_, fun _ => unreached⟩
        cases cause with
        | schemaErrors => exact absurd reached unreached
        | providerErrors => exact reached
        | budget => exact reached.elim
    | budget => exact held.1.elim
  · exact absurd (.inr (.inl ⟨exhausted, cause, reached⟩)) noticed

end Tasks

namespace World

variable {experiment : Experiment} {world : World}

/-- The call that is going on, if any, heeds its window. -/
def Heeds (world : World) : Prop :=
  ∀ run, world.active = some run → run.Heeds

/-- A task keeps the reason of the stop in step with the window, and an
outcome it records answers it. -/
theorem Heeds.task (heeds : world.Heeds) {event : TaskEvent} {after : World}
    (happened : world.HappensNoticed experiment (.done (.task event)) after) :
    after.Heeds ∧ ∀ run next kind, world.active = some run →
      after.active = some next → next.recent = run.recent ++ [kind] →
        next.Answers := by
  obtain ⟨⟨writes, affects, -⟩, noticed⟩ := happened
  obtain ⟨run, active, affects⟩ := Option.bind_eq_some_iff.mp affects
  obtain ⟨⟨made, next⟩, stepped, same⟩ := Option.map_eq_some_iff.mp affects
  obtain ⟨rfl, continues⟩ := Prod.mk.inj same
  have held := heeds run active
  have books : next.Heeds ∧
      (next.recent ≠ run.recent → next.Answers) := by
    obtain ⟨runtime, ⟨same, kept | exhausted⟩ |
      ⟨questionId, outcome, saved, rfl, accepted, appended, kept⟩ |
      ⟨kind, appended, compared⟩⟩ := stepTask_window stepped
    · refine ⟨?_, fun changed => absurd same changed⟩
      rw [RunState.Heeds, runtime, same, kept]
      exact held
    · exact ⟨fun _ _ => .inr exhausted, fun changed => absurd same changed⟩
    · have finds := @RunState.Heeds.success run held fun overlooked =>
        noticed ⟨run, saved, active, overlooked, accepted⟩
      rw [RunState.Heeds, RunState.Answers, runtime, appended, kept]
      constructor
      · intro cause tripped
        obtain ⟨reason, stopped, same⟩ :=
          finds (trippedThreshold_eq_some.mp tripped).1
        rw [tripped] at same
        exact .inl (stopped.trans same.symm)
      · intro _ cause reached
        obtain ⟨reason, stopped, tripped⟩ := finds reached
        exact ⟨reason, stopped, (trippedThreshold_eq_some.mp tripped).1⟩
    · rw [← runtime] at compared
      exact ⟨heeds_of_compared compared,
        fun _ => answers_of_compared compared⟩
  refine ⟨?_, ?_⟩
  · intro other same
    obtain rfl := Option.some.inj (continues.trans same)
    exact books.1
  · intro other later kind sameRun sameNext appended
    obtain rfl := Option.some.inj (active.symm.trans sameRun)
    obtain rfl := Option.some.inj (continues.trans sameNext)
    exact books.2 (by simp [appended])

/-- A call begins with an empty window. -/
theorem initial_heeds (config : ExperimentConfig) (runId : String)
    (completed : Finset String) :
    (RunState.initial config runId completed).Heeds := by
  intro cause tripped
  have full := (trippedThreshold_eq_some.mp tripped).1.full
  exact absurd config.runtime.errorWindow_positive (Nat.not_lt.mpr full)

theorem startRun_heeds {files : Files} {runId : String}
    {resume acknowledgement : Bool} {writes : List FileWrite}
    {run : RunState}
    (accepted : startRun experiment files runId resume acknowledgement =
      .ok (writes, run)) :
    run.Heeds := by
  obtain ⟨_, -, accepted⟩ := bind_eq_ok.mp accepted
  obtain ⟨_, -, accepted⟩ := bind_eq_ok.mp accepted
  obtain ⟨config, -, accepted⟩ := bind_eq_ok.mp accepted
  obtain ⟨completed, -, accepted⟩ := bind_eq_ok.mp accepted
  obtain ⟨_, -, accepted⟩ := bind_eq_ok.mp accepted
  obtain ⟨-, rfl⟩ := Prod.mk.inj (Except.ok.inj accepted)
  exact initial_heeds config runId completed

theorem cancelRun_recent {run next : RunState}
    (cancelled : cancelRun run = some next) :
    next = { run with phase := next.phase } := by
  unfold cancelRun at cancelled
  split_ifs at cancelled
  split at cancelled
  all_goals
    obtain rfl := Option.some.inj cancelled
    rfl

/-- A call is carried on by a task, has just begun, or is in another phase. -/
theorem happens_active {incident : Incident} {after : World}
    {next : RunState} (happened : world.Happens experiment incident after)
    (active : after.active = some next) :
    (∃ event, incident = .done (.task event)) ∨
      (world.active = none ∧ next.Heeds) ∨
        ∃ run, world.active = some run ∧
          next = { run with phase := next.phase } := by
  cases incident with
  | crash event kept =>
      rw [happened.1] at active
      cases active
  | done event =>
      cases event with
      | task event => exact .inl ⟨event, rfl⟩
      | create | transition =>
          obtain ⟨writes, affects, -⟩ := happened
          obtain ⟨-, affects⟩ := Option.ite_none_left_eq_some.mp affects
          obtain ⟨_, -, same⟩ := Option.map_eq_some_iff.mp affects
          rw [active] at same
          cases (Prod.mk.inj same).2
      | run runId resume acknowledgement =>
          obtain ⟨writes, affects, -⟩ := happened
          obtain ⟨idle, affects⟩ := Option.ite_none_left_eq_some.mp affects
          obtain ⟨⟨made, next⟩, started, same⟩ :=
            Option.map_eq_some_iff.mp affects
          rw [active] at same
          obtain rfl := Option.some.inj (Prod.mk.inj same).2
          exact .inr (.inl ⟨Option.not_isSome_iff_eq_none.mp idle,
            startRun_heeds (toOption_eq_some.mp started)⟩)
      | cancel =>
          obtain ⟨writes, affects, -⟩ := happened
          obtain ⟨run, was, affects⟩ := Option.bind_eq_some_iff.mp affects
          obtain ⟨next, cancelled, same⟩ := Option.map_eq_some_iff.mp affects
          rw [active] at same
          obtain rfl := Option.some.inj (Prod.mk.inj same).2
          exact .inr (.inr ⟨run, was, cancelRun_recent cancelled⟩)
      | collect =>
          obtain ⟨writes, affects, -⟩ := happened
          obtain ⟨run, was, affects⟩ := Option.bind_eq_some_iff.mp affects
          obtain ⟨-, same⟩ := Option.ite_none_right_eq_some.mp affects
          rw [active] at same
          obtain rfl := Option.some.inj (Prod.mk.inj (Option.some.inj same)).2
          exact .inr (.inr ⟨run, was, rfl⟩)
      | conclude =>
          obtain ⟨writes, affects, -⟩ := happened
          obtain ⟨run, was, affects⟩ := Option.bind_eq_some_iff.mp affects
          obtain ⟨-, affects⟩ := Option.ite_none_right_eq_some.mp affects
          rw [active] at affects
          split at affects
          all_goals cases (Prod.mk.inj (Option.some.inj affects)).2

theorem Heeds.happens (heeds : world.Heeds) {incident : Incident}
    {after : World}
    (happened : world.HappensNoticed experiment incident after) :
    after.Heeds := by
  intro next active
  rcases happens_active happened.1 active with
    ⟨event, rfl⟩ | ⟨-, begun⟩ | ⟨run, was, same⟩
  · exact (heeds.task happened).1 next active
  · exact begun
  · rw [same]
    exact heeds run was

/-! ## After the stop -/

/-- The call has been stopped, and has launched these questions. -/
def StoppedAt (launched : List String) (world : World) : Prop :=
  ∃ run, world.active = some run ∧ run.stopped = true ∧
    run.launched = launched

theorem stepTask_stopped {files : Files} {run next : RunState}
    {event : TaskEvent} {writes : List FileWrite}
    (stepped : stepTask experiment files run event = some (writes, next))
    (stopped : run.stopped = true) :
    next.stopped = true ∧ next.launched = run.launched := by
  cases event with
  | start questionId =>
      obtain ⟨⟨-, -, -, going⟩, -⟩ :=
        Option.ite_none_right_eq_some.mp stepped
      rw [stopped] at going
      cases going
  | skip | abandon =>
      obtain ⟨-, stepped⟩ := Option.ite_none_right_eq_some.mp stepped
      obtain ⟨-, rfl⟩ := Prod.mk.inj (Option.some.inj stepped)
      exact ⟨stopped, rfl⟩
  | finish questionId outcome =>
      obtain ⟨-, stepped⟩ := Option.ite_none_right_eq_some.mp stepped
      have handled := Option.some.inj stepped
      unfold handleOutcome at handled
      split at handled
      · obtain ⟨-, rfl⟩ := Prod.mk.inj handled
        exact ⟨stopped, rfl⟩
      · obtain ⟨-, rfl⟩ := Prod.mk.inj handled
        split_ifs
        · exact ⟨rfl, rfl⟩
        · refine ⟨?_, rfl⟩
          change Option.isSome (Option.or _ run.stopCause) = true
          rw [Option.isSome_or, Bool.or_eq_true]
          exact .inr stopped

theorem StoppedAt.step {launched : List String}
    (stopped : world.StoppedAt launched) {event : Event}
    (within : WithinCall event) {after : World}
    (performed : world.Step experiment event after) :
    after.StoppedAt launched := by
  obtain ⟨run, active, stopped, rfl⟩ := stopped
  obtain ⟨writes, affects, -⟩ := performed
  cases event with
  | create | transition | run | conclude => exact within.elim
  | task event =>
      obtain ⟨other, same, affects⟩ := Option.bind_eq_some_iff.mp affects
      obtain rfl := Option.some.inj (active.symm.trans same)
      obtain ⟨⟨made, next⟩, stepped, same⟩ :=
        Option.map_eq_some_iff.mp affects
      obtain ⟨still, kept⟩ := stepTask_stopped stepped stopped
      exact ⟨next, (Prod.mk.inj same).2.symm, still, kept⟩
  | cancel =>
      obtain ⟨other, same, affects⟩ := Option.bind_eq_some_iff.mp affects
      obtain rfl := Option.some.inj (active.symm.trans same)
      obtain ⟨next, cancelled, same⟩ := Option.map_eq_some_iff.mp affects
      refine ⟨next, (Prod.mk.inj same).2.symm, ?_⟩
      rw [cancelRun_recent cancelled]
      exact ⟨stopped, rfl⟩
  | collect =>
      obtain ⟨other, same, affects⟩ := Option.bind_eq_some_iff.mp affects
      obtain rfl := Option.some.inj (active.symm.trans same)
      obtain ⟨-, same⟩ := Option.ite_none_right_eq_some.mp affects
      exact ⟨_, (Prod.mk.inj (Option.some.inj same)).2.symm, stopped, rfl⟩

theorem startsNothing_of_stopped {run : RunState}
    (active : world.active = some run) (stopped : run.stopped = true) :
    world.StartsNothing experiment := by
  intro other events later same within rest
  obtain rfl := Option.some.inj (active.symm.trans same)
  obtain ⟨next, active, -, kept⟩ := rest.invariant WithinCall within
    (fun _ world => world.StoppedAt run.launched)
    ⟨run, active, stopped, rfl⟩
    fun _ _ _ _ held within performed => held.step within performed
  exact ⟨next, active, kept⟩

end World

/-- In a run in which no success is overlooked, a recorded outcome that puts
the window at a threshold finds the stop set with a matching reason, and the
call starts no further question. -/
theorem window_stops_run {experiment : Experiment}
    {incidents : List Incident} {before after : World} {incident : Incident}
    (reached : Run (World.HappensNoticed experiment) .empty incidents before)
    (happened : before.HappensNoticed experiment incident after)
    (records : before.Records after) :
    after.HaltsAtThreshold experiment := by
  have heeds : before.Heeds :=
    reached.stateInvariant World.Heeds (fun _ active => by cases active)
      fun _ _ _ held happened => held.happens happened
  obtain ⟨run, next, kind, active, continues, appended⟩ := records
  have answers : next.Answers := by
    rcases World.happens_active happened.1 continues with
      ⟨event, rfl⟩ | ⟨idle, -⟩ | ⟨other, was, same⟩
    · exact (heeds.task happened).2 run next kind active continues appended
    · rw [active] at idle
      cases idle
    · obtain rfl := Option.some.inj (active.symm.trans was)
      rw [same] at appended
      simp at appended
  intro other cause same atThreshold
  obtain rfl := Option.some.inj (continues.symm.trans same)
  obtain ⟨reason, stopped, matching⟩ := answers cause atThreshold
  refine ⟨⟨reason, stopped, matching⟩,
    World.startsNothing_of_stopped continues ?_⟩
  rw [RunState.stopped, stopped]
  rfl

/-! ## A success that completes the window -/

/-- One answer of the first two is invalid. -/
def halfInvalidEvents : List Event :=
  [.create "t", .run "hash-t" false false, .task (.start "a"),
    .task (.start "b"), .task (.finish "a" invalidAnswer)]

/-- Half of the window of two outcomes are schema errors, which is the
threshold; the third question is started all the same. -/
theorem success_completes_window :
    ∃ before after later,
      World.empty.performAll threeTasks halfInvalidEvents = some before ∧
        before.perform threeTasks (.task (.finish "b" (answered "b"))) =
            some after ∧
          after.perform threeTasks (.task (.start "c")) = some later ∧
            before.Records after ∧
              ¬ after.HaltsAtThreshold threeTasks := by
  have computed :
      ∃ before ∈ World.empty.performAll threeTasks halfInvalidEvents,
        ∃ run ∈ before.active, ∃ after ∈ before.perform threeTasks
            (.task (.finish "b" (answered "b"))),
          ∃ next ∈ after.active, next.recent = run.recent ++ [.ok] ∧
            trippedThreshold next.runtime next.recent =
                some .schemaErrors ∧
              next.stopCause = none ∧
                (after.perform threeTasks (.task (.start "c"))).isSome := by
    decide +kernel
  obtain ⟨before, first, run, active, after, second, next, continues,
    appended, tripped, unstopped, started⟩ := computed
  obtain ⟨later, third⟩ := Option.isSome_iff_exists.mp started
  refine ⟨before, after, later, first, second, third,
    ⟨run, next, .ok, active, continues, appended⟩, fun halts => ?_⟩
  obtain ⟨⟨reason, stopped, -⟩, -⟩ := halts next .schemaErrors continues
    (trippedThreshold_eq_some.mp tripped).1
  rw [unstopped] at stopped
  cases stopped

/-- No execution returns a result in this event. -/
def World.Unanswered : Event → Prop
  | .task (.finish _ (.returned _)) => False
  | _ => True

theorem World.happensNoticed_of_unanswered {experiment : Experiment}
    {before after : World} {event : Event} (unanswered : Unanswered event)
    (performed : before.Step experiment event after) :
    before.HappensNoticed experiment (.done event) after := by
  refine ⟨performed, fun overlooks => ?_⟩
  rcases event with _ | _ | _ | task | _ | _ | _
  case task =>
    rcases task with _ | _ | ⟨questionId, result | ⟨error, ordinary⟩⟩ | _
    case finish.returned => exact unanswered
    case finish.raised =>
      obtain ⟨_, _, -, -, accepted⟩ := overlooks
      cases accepted
    all_goals exact overlooks
  all_goals exact overlooks

theorem World.run_noticed {experiment : Experiment} {start finish : World}
    {events : List Event} (run : Run (Step experiment) start events finish)
    (unanswered : ∀ event ∈ events, Unanswered event) :
    Run (HappensNoticed experiment) start (events.map .done) finish := by
  induction run with
  | refl => exact .refl
  | snoc _ performed induction =>
      rw [List.map_append]
      refine .snoc (induction fun event member =>
        unanswered event (List.mem_append_left _ member)) ?_
      exact happensNoticed_of_unanswered (unanswered _ (by simp)) performed

/-- Both answers of the first window are invalid. -/
theorem window_stops_run_invalid :
    ∃ before after,
      World.empty.performAll threeTasks halfInvalidEvents = some before ∧
        before.perform threeTasks (.task (.finish "b" invalidAnswer)) =
            some after ∧
          (∃ run, after.active = some run ∧
            AtThreshold run.runtime run.recent .schemaErrors) ∧
            after.HaltsAtThreshold threeTasks := by
  have computed :
      ∃ before ∈ World.empty.performAll threeTasks halfInvalidEvents,
        ∃ run ∈ before.active, ∃ after ∈ before.perform threeTasks
            (.task (.finish "b" invalidAnswer)),
          ∃ next ∈ after.active, next.recent = run.recent ++ [.schema] ∧
            trippedThreshold next.runtime next.recent =
              some .schemaErrors := by
    decide +kernel
  obtain ⟨before, first, run, active, after, second, next, continues,
    appended, tripped⟩ := computed
  refine ⟨before, after, first, second,
    ⟨next, continues, (trippedThreshold_eq_some.mp tripped).1⟩, ?_⟩
  refine window_stops_run
    (World.run_noticed (World.performAll_run first) ?_)
    (World.happensNoticed_of_unanswered (by exact trivial)
      (World.perform_step second))
    ⟨run, next, .schema, active, continues, appended⟩
  simp [halfInvalidEvents, World.Unanswered, invalidAnswer]

end RagBench
