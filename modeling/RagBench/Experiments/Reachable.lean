import RagBench.Experiments.Runner

/-!
# What holds in every reachable world

Whatever is called, however the tasks are interleaved and wherever a crash
cuts an operation short, the files are well-formed, and a run call that is
going on keeps its books in step with them.
-/

namespace RagBench

/-- The memory of a run call against the files. -/
structure RunState.Tracks (experiment : Experiment) (files : RunFiles)
    (run : RunState) : Prop where
  named : files.runId = run.runId
  running : ∃ state, files.state = some state ∧ state.status = .running ∧
    state.failedQuestionIds = ∅
  questionIds_eq : run.questionIds = experiment.config.questionIds
  runtime_eq : run.runtime = experiment.config.runtime
  completed_iff : ∀ questionId, questionId ∈ run.completed ↔
    (files.results.get? questionId).isSome
  failed_fresh : ∀ questionId ∈ run.failed,
    questionId ∉ run.completed ∧ questionId ∈ run.questionIds
  tasks_nodup : (run.waiting ++ run.inFlight).Nodup
  tasks_fresh : ∀ questionId ∈ run.waiting ++ run.inFlight,
    questionId ∈ run.questionIds ∧ questionId ∉ run.completed ∧
      questionId ∉ run.failed
  inFlight_bounded : run.inFlight.length ≤ run.runtime.concurrency.value
  launched_bounded :
    run.launched.length + run.waiting.length ≤ run.runtime.batchCap
  stop_failed : run.stopCause ≠ none → run.failed.Nonempty

structure World.Sound (experiment : Experiment) (world : World) : Prop where
  files : ∀ run, world.files = some run → run.WellFormed experiment
  active : ∀ run, world.active = some run →
    ∃ files, world.files = some files ∧ run.Tracks experiment files

section Inversion

variable {experiment : Experiment} {files : RunFiles}

/-- What a transition reads and writes. -/
theorem transition_inv {runId : String} {status : RunStatus}
    {completed failed : Option (Finset String)} {stopReason : Option String}
    {writes : List FileWrite}
    (accepted : experiment.transition (some files) runId status completed
      failed stopReason = .ok writes) :
    files.runId = runId ∧ ∃ current, files.state = some current ∧
      status ∈ current.status.successors ∧
        writes =
          [.state (Experiment.transitioned current status completed failed
              stopReason),
            .history (Experiment.transitioned current status completed failed
              stopReason)] := by
  obtain ⟨current, loaded, allowed, written⟩ :=
    Experiment.transition_ok.mp accepted
  obtain ⟨named, known⟩ := Experiment.load_inv loaded
  exact ⟨named, current, known, allowed, written⟩

theorem transition_wellFormed (wellFormed : files.WellFormed experiment)
    {current : ExperimentRun} (known : files.state = some current)
    {status : RunStatus} (allowed : status ∈ current.status.successors)
    (completed failed : Option (Finset String))
    (stopReason : Option String) :
    experiment.transition (some files) files.runId status completed failed
        stopReason =
      .ok
        [.state (Experiment.transitioned current status completed failed
            stopReason),
          .history (Experiment.transitioned current status completed failed
            stopReason)] :=
  Experiment.transition_ok.mpr ⟨current,
    Experiment.load_wellFormed wellFormed known, allowed, rfl⟩

/-- When `run` is accepted, and what it starts with. -/
theorem startRun_ok (wellFormed : files.WellFormed experiment)
    {runId : String} {resume acknowledgement : Bool}
    {writes : List FileWrite} {run : RunState} :
    startRun experiment (some files) runId resume acknowledgement =
        .ok (writes, run) ↔
      files.runId = runId ∧ ∃ current completed,
        files.state = some current ∧ Admits current resume acknowledgement ∧
          .running ∈ current.status.successors ∧
          experiment.resultIds (some files) files.runId = .ok completed ∧
          writes =
            [.state (Experiment.transitioned current .running (some completed)
                (some ∅) none),
              .history (Experiment.transitioned current .running
                (some completed) (some ∅) none)] ∧
          run = .initial experiment.config runId completed := by
  constructor
  · intro accepted
    obtain ⟨current, loaded, accepted⟩ := bind_eq_ok.mp accepted
    obtain ⟨⟨⟩, admitted, accepted⟩ := bind_eq_ok.mp accepted
    obtain ⟨config, configured, accepted⟩ := bind_eq_ok.mp accepted
    obtain ⟨completed, saved, accepted⟩ := bind_eq_ok.mp accepted
    obtain ⟨made, moved, returned⟩ := bind_eq_ok.mp accepted
    obtain ⟨rfl, rfl⟩ := Prod.mk.inj (Except.ok.inj returned)
    obtain ⟨rfl, known⟩ := Experiment.load_inv loaded
    obtain ⟨-, other, same, allowed, rfl⟩ := transition_inv moved
    obtain rfl := Option.some.inj (known.symm.trans same)
    obtain ⟨_, _, found, -, loadedConfig, -⟩ :=
      Experiment.loadConfig_ok.mp configured
    obtain rfl := Option.some.inj found
    obtain rfl := wellFormed.config_eq config loadedConfig
    exact ⟨rfl, current, completed, known, checkAdmission_ok.mp admitted,
      allowed, saved, rfl, rfl⟩
  · rintro ⟨rfl, current, completed, known, admitted, allowed, saved, rfl,
      rfl⟩
    obtain ⟨config, configSha⟩ := wellFormed.state_last (by simp [known])
    exact bind_eq_ok.mpr
      ⟨current, Experiment.load_wellFormed wellFormed known,
        bind_eq_ok.mpr ⟨(), checkAdmission_ok.mpr admitted,
          bind_eq_ok.mpr ⟨experiment.config,
            Experiment.loadConfig_wellFormed wellFormed config configSha,
            bind_eq_ok.mpr ⟨completed, saved,
              bind_eq_ok.mpr ⟨_, transition_wellFormed wellFormed known
                allowed _ _ _, rfl⟩⟩⟩⟩⟩

theorem startRun_phase {files : Files} {runId : String}
    {resume acknowledgement : Bool} {writes : List FileWrite}
    {run : RunState}
    (accepted : startRun experiment files runId resume acknowledgement =
      .ok (writes, run)) :
    run.phase = .gathering := by
  obtain ⟨_, -, accepted⟩ := bind_eq_ok.mp accepted
  obtain ⟨_, -, accepted⟩ := bind_eq_ok.mp accepted
  obtain ⟨_, -, accepted⟩ := bind_eq_ok.mp accepted
  obtain ⟨_, -, accepted⟩ := bind_eq_ok.mp accepted
  obtain ⟨_, -, accepted⟩ := bind_eq_ok.mp accepted
  obtain ⟨-, rfl⟩ := Prod.mk.inj (Except.ok.inj accepted)
  rfl

/-- What handling an outcome writes and remembers. -/
theorem handleOutcome_cases {run next : RunState} {questionId : String}
    {outcome : ExecutionOutcome} {writes : List FileWrite}
    (handled : handleOutcome experiment (some files) run questionId outcome =
      (writes, next)) :
    (∃ result, outcome = .returned result ∧
      result.questionId = questionId ∧
        files.results.get? questionId = none ∧
          writes = [.result result] ∧
            next = run.recordSuccess questionId) ∨
    ∃ error, checkOutcome experiment (some files) run.runId questionId
        outcome = .error error ∧
      writes = Experiment.saveError questionId error ∧
        (error.isInstance budgetExceededError ∧
            next = run.exhaustBudget questionId ∨
          ¬ error.isInstance budgetExceededError ∧
            next = run.recordFailure questionId error) := by
  unfold handleOutcome at handled
  split at handled
  · next saved accepted =>
      obtain ⟨rfl, rfl⟩ := Prod.mk.inj handled
      cases outcome with
      | raised error => cases accepted
      | returned result =>
          dsimp only [checkOutcome] at accepted
          split_ifs at accepted with same
          obtain rfl := not_not.mp same
          obtain ⟨_, run, -, found, -, unsaved, rfl⟩ :=
            Experiment.saveResult_ok accepted
          obtain rfl := Option.some.inj found
          exact .inl ⟨result, rfl, rfl, unsaved, rfl, rfl⟩
  · next error refused =>
      obtain ⟨rfl, rfl⟩ := Prod.mk.inj handled
      refine .inr ⟨error, refused, rfl, ?_⟩
      split_ifs with exhausted
      · exact .inl ⟨exhausted, rfl⟩
      · exact .inr ⟨exhausted, rfl⟩

theorem handleOutcome_phase (files : Files) (run : RunState)
    (questionId : String) (outcome : ExecutionOutcome) :
    (handleOutcome experiment files run questionId outcome).2.phase =
      run.phase := by
  unfold handleOutcome
  split
  · rfl
  · dsimp only
    split_ifs <;> rfl

/-- The first task that ends cancelled takes the call to its handler. -/
theorem stepTask_phase {files : Files} {run next : RunState}
    {event : TaskEvent} {writes : List FileWrite}
    (stepped : stepTask experiment files run event = some (writes, next)) :
    next.phase = run.phase ∨
      run.phase = .cancelling ∧ next.phase = .collecting := by
  cases event with
  | start | skip =>
      obtain ⟨-, stepped⟩ := Option.ite_none_right_eq_some.mp stepped
      obtain ⟨-, rfl⟩ := Prod.mk.inj (Option.some.inj stepped)
      exact .inl rfl
  | finish questionId outcome =>
      obtain ⟨-, handled⟩ := Option.ite_none_right_eq_some.mp stepped
      have same := @handleOutcome_phase experiment files
        (run.closeTask questionId) questionId outcome
      rw [Option.some.inj handled] at same
      exact .inl same
  | abandon =>
      obtain ⟨-, stepped⟩ := Option.ite_none_right_eq_some.mp stepped
      obtain ⟨-, rfl⟩ := Prod.mk.inj (Option.some.inj stepped)
      by_cases cancelling : run.phase = .cancelling
      · exact .inr ⟨cancelling, if_pos cancelling⟩
      · exact .inl (if_neg cancelling)

end Inversion

/-! ## Tasks keep the books -/

namespace RunState.Tracks

variable {experiment : Experiment} {files : RunFiles} {run : RunState}

/-- A task that starts its execution. -/
theorem start (tracks : run.Tracks experiment files) {questionId : String}
    (waits : questionId ∈ run.waiting)
    (room : run.inFlight.length < run.runtime.concurrency.value) :
    ({ run with
        waiting := run.waiting.erase questionId
        inFlight := questionId :: run.inFlight
        launched := run.launched ++ [questionId] } : RunState).Tracks
          experiment files := by
  have permuted : (run.waiting.erase questionId ++
      questionId :: run.inFlight).Perm (run.waiting ++ run.inFlight) := by
    refine List.perm_middle.trans ?_
    rw [← List.cons_append]
    exact (List.perm_cons_erase waits).symm.append_right _
  refine
    { tracks with
      tasks_nodup := permuted.nodup_iff.mpr tracks.tasks_nodup
      tasks_fresh := fun other member =>
        tracks.tasks_fresh other (permuted.mem_iff.mp member)
      inFlight_bounded := room
      launched_bounded := ?_ }
  have erased := List.length_erase_of_mem waits
  have positive := List.length_pos_of_mem waits
  have bounded := tracks.launched_bounded
  simp only [List.length_append, List.length_singleton]
  omega

/-- A task that ends without an outcome, or before its outcome is handled. -/
theorem closeTask (tracks : run.Tracks experiment files)
    (questionId : String) :
    (run.closeTask questionId).Tracks experiment files := by
  have sublist : (run.waiting.erase questionId ++
      run.inFlight.erase questionId).Sublist (run.waiting ++ run.inFlight) :=
    List.erase_sublist.append List.erase_sublist
  refine
    { tracks with
      tasks_nodup := tracks.tasks_nodup.sublist sublist
      tasks_fresh := fun other member =>
        tracks.tasks_fresh other (sublist.subset member)
      inFlight_bounded :=
        (List.erase_sublist.length_le).trans tracks.inFlight_bounded
      launched_bounded := ?_ }
  have shorter : (run.waiting.erase questionId).length ≤ run.waiting.length :=
    List.erase_sublist.length_le
  have bounded := tracks.launched_bounded
  simp only [RunState.closeTask]
  omega

/-- A question whose result has been saved. -/
theorem recordSuccess (tracks : run.Tracks experiment files)
    {result : ExperimentQuestionResult}
    (unfailed : result.questionId ∉ run.failed)
    (closed : result.questionId ∉ run.waiting ++ run.inFlight) :
    (run.recordSuccess result.questionId).Tracks experiment
      (files.write (.result result)) := by
  refine
    { tracks with
      completed_iff := ?_
      failed_fresh := ?_
      tasks_fresh := ?_ }
  · intro questionId
    change _ ∈ insert _ _ ↔
      ((files.results.set result.questionId result).get? questionId).isSome
    rw [Finset.mem_insert, Dict.get?_set, tracks.completed_iff]
    by_cases same : result.questionId = questionId
    · simp [same]
    · simp [same, Ne.symm same]
  · intro questionId failed
    obtain ⟨fresh, among⟩ := tracks.failed_fresh questionId failed
    refine ⟨?_, among⟩
    change _ ∉ insert _ _
    rw [Finset.mem_insert, not_or]
    exact ⟨fun same => unfailed (same ▸ failed), fresh⟩
  · intro questionId member
    obtain ⟨among, fresh, unfailed⟩ := tracks.tasks_fresh questionId member
    refine ⟨among, ?_, unfailed⟩
    change _ ∉ insert _ _
    rw [Finset.mem_insert, not_or]
    exact ⟨fun same => closed (same ▸ member), fresh⟩

/-- A question whose execution failed, whatever the failure stops. -/
theorem recordError (tracks : run.Tracks experiment files)
    {questionId : String} (among : questionId ∈ run.questionIds)
    (unfinished : questionId ∉ run.completed)
    (closed : questionId ∉ run.waiting ++ run.inFlight)
    (record : ErrorRecord) (recent : List OutcomeKind)
    (stopCause : Option StopCause) :
    ({ run with
        failed := insert questionId run.failed
        recent := recent
        stopCause := stopCause } : RunState).Tracks experiment
          (files.write (.error record)) := by
  refine
    { tracks with
      failed_fresh := ?_
      tasks_fresh := ?_
      stop_failed := fun _ => ⟨questionId, Finset.mem_insert_self _ _⟩ }
  · intro other failed
    rcases Finset.mem_insert.mp failed with rfl | failed
    · exact ⟨unfinished, among⟩
    · exact tracks.failed_fresh other failed
  · intro other member
    obtain ⟨inside, fresh, unfailed⟩ := tracks.tasks_fresh other member
    refine ⟨inside, fresh, ?_⟩
    rw [Finset.mem_insert, not_or]
    exact ⟨fun same => closed (same ▸ member), unfailed⟩

/-- The outcome of a task that has been closed. -/
theorem handleOutcome (tracks : run.Tracks experiment files)
    {questionId : String} (among : questionId ∈ run.questionIds)
    (unfinished : questionId ∉ run.completed)
    (unfailed : questionId ∉ run.failed)
    (closed : questionId ∉ run.waiting ++ run.inFlight)
    {outcome : ExecutionOutcome} {writes : List FileWrite} {next : RunState}
    (handled : RagBench.handleOutcome experiment (some files) run questionId
      outcome = (writes, next)) :
    next.Tracks experiment (writes.foldl RunFiles.write files) := by
  rcases handleOutcome_cases handled with
    ⟨result, -, rfl, -, rfl, rfl⟩ | ⟨error, -, rfl, exhausted | recorded⟩
  · exact tracks.recordSuccess unfailed closed
  · obtain ⟨-, rfl⟩ := exhausted
    exact tracks.recordError among unfinished closed _ _ _
  · obtain ⟨-, rfl⟩ := recorded
    exact tracks.recordError among unfinished closed _ _ _

/-- A task that goes on to its next suspension point. -/
theorem stepTask (tracks : run.Tracks experiment files) {event : TaskEvent}
    {writes : List FileWrite} {next : RunState}
    (stepped : RagBench.stepTask experiment (some files) run event =
      some (writes, next)) :
    next.Tracks experiment (writes.foldl RunFiles.write files) := by
  cases event with
  | start questionId =>
      dsimp only [RagBench.stepTask] at stepped
      split_ifs at stepped with able
      obtain ⟨-, waits, room, -⟩ := able
      obtain ⟨rfl, rfl⟩ := Prod.mk.inj (Option.some.inj stepped)
      exact tracks.start waits room
  | skip questionId =>
      dsimp only [RagBench.stepTask] at stepped
      split_ifs at stepped
      obtain ⟨rfl, rfl⟩ := Prod.mk.inj (Option.some.inj stepped)
      exact tracks.closeTask questionId
  | finish questionId outcome =>
      dsimp only [RagBench.stepTask] at stepped
      split_ifs at stepped with inFlight
      obtain ⟨among, unfinished, unfailed⟩ :=
        tracks.tasks_fresh questionId (List.mem_append_right _ inFlight)
      have separate := List.nodup_append'.mp tracks.tasks_nodup
      have closed : questionId ∉ (run.closeTask questionId).waiting ++
          (run.closeTask questionId).inFlight := by
        rw [List.mem_append, not_or]
        exact ⟨fun waits => separate.2.2 (List.mem_of_mem_erase waits)
            inFlight,
          separate.2.1.not_mem_erase⟩
      exact (tracks.closeTask questionId).handleOutcome among unfinished
        unfailed closed (Option.some.inj stepped)
  | abandon questionId =>
      obtain ⟨-, stepped⟩ := Option.ite_none_right_eq_some.mp stepped
      obtain ⟨rfl, rfl⟩ := Prod.mk.inj (Option.some.inj stepped)
      exact { tracks.closeTask questionId with }

/-- Cancelling only changes the phase. -/
theorem cancelRun (tracks : run.Tracks experiment files) {next : RunState}
    (cancelled : RagBench.cancelRun run = some next) :
    next.Tracks experiment files := by
  unfold RagBench.cancelRun at cancelled
  split_ifs at cancelled
  split at cancelled
  all_goals
    obtain rfl := Option.some.inj cancelled
    exact { tracks with }

/-- The call has just begun. -/
theorem initial (wellFormed : files.WellFormed experiment)
    {current : ExperimentRun} (status : current.status = .running)
    (cleared : current.failedQuestionIds = ∅)
    {completed : Finset String}
    (saved : experiment.resultIds (some files) files.runId = .ok completed)
    (config : files.config.isSome) (configSha : files.configSha.isSome) :
    (RunState.initial experiment.config files.runId completed).Tracks
      experiment
        ([FileWrite.state current, .history current].foldl RunFiles.write
          files) := by
  obtain ⟨_, same, completed_iff⟩ :=
    Experiment.resultIds_wellFormed wellFormed config configSha
  obtain rfl := Except.ok.inj (saved.symm.trans same)
  have unique : experiment.config.questionIds.Nodup :=
    experiment.config.questions_unique
  exact
    { named := rfl
      running := ⟨current, rfl, status, cleared⟩
      questionIds_eq := rfl
      runtime_eq := rfl
      completed_iff := completed_iff
      failed_fresh := by simp [RunState.initial]
      tasks_nodup := by
        simpa [RunState.initial] using
          (unique.filter _).sublist (List.take_sublist _ _)
      tasks_fresh := by
        intro questionId member
        rw [RunState.initial, List.append_nil] at member
        have kept := List.mem_filter.mp (List.mem_of_mem_take member)
        exact ⟨kept.1, of_decide_eq_true kept.2, Finset.notMem_empty _⟩
      inFlight_bounded := Nat.zero_le _
      launched_bounded := by
        simp [RunState.initial]
      stop_failed := fun stopped => absurd rfl stopped }

end RunState.Tracks

/-! ## Writes are allowed -/

section Allowed

variable {experiment : Experiment} {files : RunFiles}

theorem create_wellFormed {timestamp : String} {writes : List FileWrite}
    (created : experiment.create none timestamp = .ok writes) (kept : ℕ)
    {run : RunFiles}
    (known : Files.writeAll none (writes.take kept) = some run) :
    run.WellFormed experiment := by
  obtain ⟨-, rfl⟩ := Experiment.create_ok.mp created
  cases kept with
  | zero => cases known
  | succ kept =>
      have written := (Files.writeAll_some _ _).symm.trans known
      obtain rfl := Option.some.inj written
      have fresh : RunFiles.WellFormed experiment
          { runId := experiment.semanticHash ++ "-" ++ timestamp } :=
        { named := by simp
          config_eq := by simp
          configSha_eq := by simp
          state_last := by simp
          results_eq := by simp [Dict.get?, Dict.empty, Dict.lookup] }
      refine RunFiles.WellFormed.writes fresh ?_ kept
      exact ⟨rfl, rfl, ⟨rfl, rfl⟩, trivial, trivial⟩

theorem transition_allowed {runId : String} {status : RunStatus}
    {completed failed : Option (Finset String)} {stopReason : Option String}
    {writes : List FileWrite}
    (accepted : experiment.transition (some files) runId status completed
      failed stopReason = .ok writes) :
    FileWrite.AllAllowed experiment files writes := by
  obtain ⟨_, loaded, -, rfl⟩ := Experiment.transition_ok.mp accepted
  obtain ⟨_, _, configured, -⟩ := Experiment.load_ok.mp loaded
  obtain ⟨_, _, found, -, config, configSha, -⟩ :=
    Experiment.loadConfig_ok.mp configured
  obtain rfl := Option.some.inj found
  exact ⟨⟨by simp [config], by simp [configSha]⟩, trivial, trivial⟩

theorem finishRun_allowed {run : RunState} {writes : List FileWrite}
    (finished : finishRun experiment (some files) run = .ok writes) :
    FileWrite.AllAllowed experiment files writes := by
  unfold finishRun at finished
  split at finished
  · cases finished
  · exact transition_allowed finished
  · exact transition_allowed finished
  · split at finished
    · exact transition_allowed finished
    · split_ifs at finished <;> exact transition_allowed finished

theorem handleOutcome_allowed {run next : RunState} {questionId : String}
    (among : questionId ∈ experiment.config.questionIds)
    {outcome : ExecutionOutcome} {writes : List FileWrite}
    (handled : handleOutcome experiment (some files) run questionId outcome =
      (writes, next)) :
    FileWrite.AllAllowed experiment files writes := by
  rcases handleOutcome_cases handled with
    ⟨result, -, rfl, unsaved, rfl, -⟩ | ⟨error, -, rfl, -⟩
  · exact ⟨⟨among, unsaved⟩, trivial⟩
  · exact ⟨trivial, trivial⟩

theorem stepTask_allowed {run next : RunState}
    (tracks : run.Tracks experiment files) {event : TaskEvent}
    {writes : List FileWrite}
    (stepped : stepTask experiment (some files) run event =
      some (writes, next)) :
    FileWrite.AllAllowed experiment files writes := by
  cases event with
  | finish questionId outcome =>
      obtain ⟨inFlight, handled⟩ := Option.ite_none_right_eq_some.mp stepped
      obtain ⟨among, -⟩ :=
        tracks.tasks_fresh questionId (List.mem_append_right _ inFlight)
      exact handleOutcome_allowed (tracks.questionIds_eq ▸ among)
        (Option.some.inj handled)
  | start | skip | abandon =>
      obtain ⟨-, stepped⟩ := Option.ite_none_right_eq_some.mp stepped
      obtain ⟨rfl, -⟩ := Prod.mk.inj (Option.some.inj stepped)
      trivial

end Allowed

/-! ## Reachable worlds -/

namespace World

variable {experiment : Experiment} {world : World}

/-- What an event that can happen does to the files and to the call. -/
theorem Sound.effect (sound : world.Sound experiment) {event : Event}
    {writes : List FileWrite} {next : Option RunState}
    (affects : world.effect experiment event = some (writes, next)) :
    (world.files = none ∧ next = none ∧ ∃ timestamp,
      event = .create timestamp ∧
        experiment.create none timestamp = .ok writes) ∨
    ∃ files, world.files = some files ∧
      FileWrite.AllAllowed experiment files writes ∧
        ∀ run, next = some run →
          run.Tracks experiment (writes.foldl RunFiles.write files) := by
  cases event with
  | create timestamp =>
      obtain ⟨-, affects⟩ := Option.ite_none_left_eq_some.mp affects
      obtain ⟨made, created, same⟩ := Option.map_eq_some_iff.mp affects
      obtain ⟨rfl, rfl⟩ := Prod.mk.inj same
      have accepted := toOption_eq_some.mp created
      have missing := (Experiment.create_ok.mp accepted).1
      exact .inl ⟨missing, rfl, timestamp, rfl, missing ▸ accepted⟩
  | transition runId status completed failed stopReason =>
      obtain ⟨-, affects⟩ := Option.ite_none_left_eq_some.mp affects
      obtain ⟨made, moved, same⟩ := Option.map_eq_some_iff.mp affects
      obtain ⟨rfl, rfl⟩ := Prod.mk.inj same
      have accepted := toOption_eq_some.mp moved
      obtain ⟨_, loaded, -⟩ := Experiment.transition_ok.mp accepted
      obtain ⟨_, files, -, found, -⟩ := Experiment.load_ok.mp loaded
      rw [found] at accepted
      exact .inr ⟨files, found, transition_allowed accepted, by simp⟩
  | run runId resume acknowledgement =>
      obtain ⟨-, affects⟩ := Option.ite_none_left_eq_some.mp affects
      obtain ⟨⟨made, run⟩, started, same⟩ :=
        Option.map_eq_some_iff.mp affects
      obtain ⟨rfl, rfl⟩ := Prod.mk.inj same
      have accepted := toOption_eq_some.mp started
      obtain ⟨_, loaded, -⟩ := bind_eq_ok.mp accepted
      obtain ⟨_, files, -, found, -⟩ := Experiment.load_ok.mp loaded
      have wellFormed := sound.files files found
      rw [found] at accepted
      obtain ⟨rfl, current, completed, known, -, -, saved, rfl, rfl⟩ :=
        (startRun_ok wellFormed).mp accepted
      have present := wellFormed.state_last (by simp [known])
      refine .inr ⟨files, found, ⟨present, trivial, trivial⟩, ?_⟩
      rintro _ ⟨⟩
      exact .initial wellFormed rfl rfl saved present.1 present.2
  | task event =>
      obtain ⟨run, running, affects⟩ := Option.bind_eq_some_iff.mp affects
      obtain ⟨⟨made, after⟩, stepped, same⟩ :=
        Option.map_eq_some_iff.mp affects
      obtain ⟨rfl, rfl⟩ := Prod.mk.inj same
      obtain ⟨files, found, tracks⟩ := sound.active run running
      rw [found] at stepped
      refine .inr ⟨files, found, stepTask_allowed tracks stepped, ?_⟩
      rintro _ ⟨⟩
      exact tracks.stepTask stepped
  | cancel =>
      obtain ⟨run, running, affects⟩ := Option.bind_eq_some_iff.mp affects
      obtain ⟨after, cancelled, same⟩ := Option.map_eq_some_iff.mp affects
      obtain ⟨rfl, rfl⟩ := Prod.mk.inj same
      obtain ⟨files, found, tracks⟩ := sound.active run running
      refine .inr ⟨files, found, trivial, ?_⟩
      rintro _ ⟨⟩
      exact tracks.cancelRun cancelled
  | collect =>
      obtain ⟨run, running, affects⟩ := Option.bind_eq_some_iff.mp affects
      obtain ⟨-, same⟩ := Option.ite_none_right_eq_some.mp affects
      obtain ⟨rfl, rfl⟩ := Prod.mk.inj (Option.some.inj same)
      obtain ⟨files, found, tracks⟩ := sound.active run running
      refine .inr ⟨files, found, trivial, ?_⟩
      rintro _ ⟨⟩
      exact { tracks with }
  | conclude =>
      obtain ⟨run, running, affects⟩ := Option.bind_eq_some_iff.mp affects
      obtain ⟨-, affects⟩ := Option.ite_none_right_eq_some.mp affects
      obtain ⟨files, found, -⟩ := sound.active run running
      rw [found] at affects
      refine .inr ⟨files, found, ?_⟩
      split at affects
      · next made finished =>
          obtain ⟨rfl, rfl⟩ := Prod.mk.inj (Option.some.inj affects)
          exact ⟨finishRun_allowed finished, by simp⟩
      · obtain ⟨rfl, rfl⟩ := Prod.mk.inj (Option.some.inj affects)
        exact ⟨trivial, by simp⟩

/-- The first few writes of an event leave well-formed files. -/
theorem Sound.effect_wellFormed (sound : world.Sound experiment)
    {event : Event} {writes : List FileWrite} {next : Option RunState}
    (affects : world.effect experiment event = some (writes, next))
    (kept : ℕ) {files : RunFiles}
    (known : world.files.writeAll (writes.take kept) = some files) :
    files.WellFormed experiment := by
  rcases sound.effect affects with
    ⟨missing, -, timestamp, -, created⟩ | ⟨before, found, allowed, -⟩
  · rw [missing] at known
    exact create_wellFormed created kept known
  · rw [found, Files.writeAll_some] at known
    obtain rfl := Option.some.inj known
    exact (sound.files before found).writes allowed kept

theorem Sound.step (sound : world.Sound experiment) {event : Event}
    {after : World} (performed : world.Step experiment event after) :
    after.Sound experiment := by
  obtain ⟨writes, affects, written⟩ := performed
  constructor
  · intro files known
    refine sound.effect_wellFormed affects writes.length ?_
    rw [List.take_length, ← written, known]
  · intro run active
    rw [active] at affects
    rcases sound.effect affects with ⟨-, none, -⟩ | ⟨before, found, -, tracks⟩
    · cases none
    · refine ⟨_, ?_, tracks run rfl⟩
      rw [written, found, Files.writeAll_some]

theorem Sound.happens (sound : world.Sound experiment)
    {incident : Incident} {after : World}
    (happened : world.Happens experiment incident after) :
    after.Sound experiment := by
  cases incident with
  | done event => exact sound.step happened
  | crash event kept =>
      obtain ⟨inactive, writes, next, affects, written⟩ := happened
      constructor
      · intro files known
        exact sound.effect_wellFormed affects kept (written ▸ known)
      · intro run active
        rw [inactive] at active
        cases active

theorem empty_sound : World.empty.Sound experiment :=
  { files := fun _ known => by cases known
    active := fun _ active => by cases active }

/-- Whatever happens, the files are well-formed and the call keeps its books
in step with them. -/
theorem reachable_sound {incidents : List Incident}
    (run : Run (World.Happens experiment) .empty incidents world) :
    world.Sound experiment :=
  run.stateInvariant (World.Sound experiment) empty_sound
    fun _ _ _ sound happened => sound.happens happened

/-! ## Computed runs -/

theorem perform_step {after : World} {event : Event}
    (performed : world.perform experiment event = some after) :
    world.Step experiment event after := by
  obtain ⟨⟨writes, next⟩, affects, rfl⟩ :=
    Option.map_eq_some_iff.mp performed
  exact ⟨writes, affects, rfl⟩

theorem performAll_run {after : World} {events : List Event}
    (performed : world.performAll experiment events = some after) :
    Run (World.Step experiment) world events after := by
  induction events generalizing world with
  | nil =>
      obtain rfl := Option.some.inj performed
      exact .refl
  | cons event events induction =>
      obtain ⟨middle, first, rest⟩ := Option.bind_eq_some_iff.mp performed
      exact .cons (perform_step first) (induction rest)

end World

/-- A small experiment on the given questions. -/
def experimentOn (questionIds : List String) (unique : questionIds.Nodup)
    (nonempty : questionIds ≠ []) : Experiment :=
  { platform := samplePlatform
    config := sampleExperiment questionIds unique nonempty
    semanticHash := "hash"
    fullHash := "hash"
    semanticHash_eq := rfl
    fullHash_eq := rfl }

def threeTasks : Experiment :=
  experimentOn ["a", "b", "c"] sampleIds_nodup sampleIds_ne_nil

/-- The executor answers the question. -/
def answered (questionId : String) : ExecutionOutcome :=
  .returned
    { questionId := questionId
      response := []
      evidence := []
      usage := ⟨1, 1, 0⟩
      cached := false }

end RagBench
