import RagBench.Experiments.Bookkeeping

/-!
# Experiments after a crash

`create` refuses a directory that exists, and no transition leads from RUNNING
to RUNNING.  So an experiment can be brought forward from its files exactly
when there is no directory yet, or a state other than RUNNING.  A crash of
`create` after the directory, or of a run call after its first transition,
leaves neither.
-/

namespace RagBench

namespace Files

/-- The status in the state file. -/
def status (files : Files) : Option RunStatus :=
  files.bind fun run => run.state.map (·.status)

/-- `run(resume=True)`, with the diagnosis acknowledged, goes on with the
remaining questions. -/
def Continues (experiment : Experiment) (files : Files) : Prop :=
  ∃ runId writes run,
    startRun experiment files runId true true = .ok (writes, run) ∧
      run.waiting = (experiment.config.questionIds.filter fun questionId =>
        (files.bind (·.results.get? questionId)).isNone).take
          experiment.config.runtime.batchCap

/-- The experiment continues, at once or after `create`. -/
def BroughtForward (experiment : Experiment) (files : Files) : Prop :=
  files.Continues experiment ∨
    ∃ timestamp writes, experiment.create files timestamp = .ok writes ∧
      (files.writeAll writes).Continues experiment

/-- There is nothing yet, or a state other than RUNNING. -/
def Settled (files : Files) : Prop :=
  files = none ∨ ∃ status, files.status = some status ∧ status ≠ .running

end Files

/-- The incident leaves a directory without a state, or a RUNNING state that
no call owns. -/
def World.Strands (before : World) : Incident → Prop
  | .done (.transition _ status _ _ _) => status = .running
  | .done .conclude =>
      ∃ run, before.active = some run ∧ run.phase = .interrupted
  | .done _ => False
  | .crash (.create _) kept => 1 ≤ kept ∧ kept ≤ 3
  | .crash (.transition _ status _ _ _) kept => status = .running ∧ 1 ≤ kept
  | .crash (.run _ _ _) kept => 1 ≤ kept
  | .crash .conclude kept =>
      kept = 0 ∨ ∃ run, before.active = some run ∧ run.phase = .interrupted
  | .crash _ _ => True

/-- An incident that does not strand the experiment. -/
def World.HappensSafely (experiment : Experiment) (before : World)
    (incident : Incident) (after : World) : Prop :=
  before.Happens experiment incident after ∧ ¬ before.Strands incident

section Continuing

variable {experiment : Experiment} {files : RunFiles}

theorem admits_unfinished {current : ExperimentRun}
    (unfinished : current.status ≠ .completed) : Admits current true true :=
  ⟨unfinished, .inr rfl, fun undiagnosed => by cases undiagnosed.2.2⟩

theorem RunStatus.running_mem_successors {status : RunStatus} :
    .running ∈ status.successors ↔
      status ≠ .running ∧ status ≠ .completed := by
  cases status <;> decide

/-- A state other than RUNNING and COMPLETED is enough to go on. -/
theorem continues_of_state (wellFormed : files.WellFormed experiment)
    {current : ExperimentRun} (known : files.state = some current)
    (idle : current.status ≠ .running)
    (unfinished : current.status ≠ .completed) :
    Files.Continues experiment (some files) := by
  obtain ⟨config, configSha⟩ := wellFormed.state_last (by simp [known])
  obtain ⟨completed, loaded, completed_iff⟩ :=
    Experiment.resultIds_wellFormed wellFormed config configSha
  refine ⟨files.runId, _, _, (startRun_ok wellFormed).mpr ⟨rfl, current,
    completed, known, admits_unfinished unfinished,
    RunStatus.running_mem_successors.mpr ⟨idle, unfinished⟩, loaded, rfl,
    rfl⟩, ?_⟩
  change List.take _ (List.filter _ _) = List.take _ (List.filter _ _)
  congr 1
  refine List.filter_congr fun questionId _ => ?_
  rw [Bool.eq_iff_iff, decide_eq_true_iff, completed_iff]
  simp

theorem state_of_continues (wellFormed : files.WellFormed experiment)
    (continues : Files.Continues experiment (some files)) :
    ∃ current, files.state = some current ∧ current.status ≠ .running := by
  obtain ⟨runId, writes, run, accepted, -⟩ := continues
  obtain ⟨-, current, -, known, -, allowed, -⟩ :=
    (startRun_ok wellFormed).mp accepted
  exact ⟨current, known, (RunStatus.running_mem_successors.mp allowed).1⟩

/-- What `create` leaves when it is not interrupted. -/
theorem create_state {timestamp : String} {writes : List FileWrite}
    (created : experiment.create none timestamp = .ok writes) :
    ∃ files state, Files.writeAll none writes = some files ∧
      files.WellFormed experiment ∧ files.state = some state ∧
        state.status = .planned := by
  obtain ⟨-, rfl⟩ := Experiment.create_ok.mp created
  exact ⟨_, _, rfl, create_wellFormed created 5 rfl, rfl, rfl⟩

/-- Without a directory `create` succeeds, and the experiment goes on. -/
theorem broughtForward_none : Files.BroughtForward experiment none := by
  have created : experiment.create none "" = .ok _ := rfl
  obtain ⟨files, state, written, wellFormed, known, planned⟩ :=
    create_state created
  refine .inr ⟨"", _, created, ?_⟩
  rw [written]
  apply continues_of_state wellFormed known
  · simp [planned]
  · simp [planned]

/-- The writes of a transition, but for those that a crash cuts off. -/
theorem settled_of_transition {state : ExperimentRun}
    (idle : state.status ≠ .running) {kept : ℕ} (written : 1 ≤ kept) :
    (Files.writeAll (some files)
      ([FileWrite.state state, .history state].take kept)).Settled := by
  obtain ⟨kept, rfl⟩ := Nat.exists_eq_add_of_le' written
  cases kept with
  | zero => exact .inr ⟨state.status, rfl, idle⟩
  | succ kept =>
      rw [List.take_of_length_le (by simp)]
      exact .inr ⟨state.status, rfl, idle⟩

/-- The writes of `create`, but for those that a crash cuts off. -/
theorem settled_of_create {timestamp : String} {writes : List FileWrite}
    (created : experiment.create none timestamp = .ok writes) {kept : ℕ}
    (written : ¬ (1 ≤ kept ∧ kept ≤ 3)) :
    (Files.writeAll none (writes.take kept)).Settled := by
  obtain ⟨-, rfl⟩ := Experiment.create_ok.mp created
  rcases Nat.eq_zero_or_pos kept with rfl | positive
  · exact .inl rfl
  · obtain ⟨kept, rfl⟩ : ∃ more, kept = more + 4 :=
      ⟨kept - 4, by omega⟩
    cases kept with
    | zero => exact .inr ⟨.planned, rfl, by decide⟩
    | succ kept =>
        rw [List.take_of_length_le (by simp)]
        exact .inr ⟨.planned, rfl, by decide⟩

theorem finishRun_writes {run : RunState} {writes : List FileWrite}
    (finished : finishRun experiment (some files) run = .ok writes) :
    ∃ state, writes = [.state state, .history state] ∧
      state.status ≠ .running := by
  unfold finishRun at finished
  split at finished
  · cases finished
  · obtain ⟨-, current, -, -, rfl⟩ := transition_inv finished
    exact ⟨_, rfl, by simp [Experiment.transitioned]⟩
  · obtain ⟨-, current, -, -, rfl⟩ := transition_inv finished
    exact ⟨_, rfl, by simp [Experiment.transitioned]⟩
  · split at finished
    · obtain ⟨-, current, -, -, rfl⟩ := transition_inv finished
      exact ⟨_, rfl, by simp [Experiment.transitioned]⟩
    · split_ifs at finished
      all_goals
        obtain ⟨-, current, -, -, rfl⟩ := transition_inv finished
        exact ⟨_, rfl, by simp [Experiment.transitioned]⟩

end Continuing

namespace World

variable {experiment : Experiment} {world : World}

/-- An unfinished experiment can be brought forward from such files only. -/
theorem Sound.broughtForward_iff (sound : world.Sound experiment)
    (unfinished : world.files.status ≠ some .completed) :
    world.files.BroughtForward experiment ↔ world.files.Settled := by
  cases found : world.files with
  | none => exact iff_of_true broughtForward_none (.inl rfl)
  | some files =>
      have wellFormed := sound.files files found
      rw [found] at unfinished
      constructor
      · rintro (continues | ⟨_, _, created, -⟩)
        · obtain ⟨current, known, idle⟩ :=
            state_of_continues wellFormed continues
          exact .inr ⟨current.status, by simp [Files.status, known], idle⟩
        · cases (Experiment.create_ok.mp created).1
      · rintro (missing | ⟨status, known, idle⟩)
        · cases missing
        · obtain ⟨current, present, rfl⟩ := Option.map_eq_some_iff.mp known
          refine .inl (continues_of_state wellFormed present idle ?_)
          intro completed
          rw [known, completed] at unfinished
          exact unfinished rfl

/-- The files of a world without a call are settled. -/
def Rests (world : World) : Prop :=
  world.active = none → world.files.Settled

/-- An event that writes, and the first few of its writes. -/
theorem Rests.writes (rests : world.Rests) (sound : world.Sound experiment)
    {event : Event} {writes : List FileWrite} {next : Option RunState}
    (affects : world.effect experiment event = some (writes, next))
    {kept : ℕ} (safe : ¬ world.Strands (.crash event kept)) :
    (world.files.writeAll (writes.take kept)).Settled := by
  cases event with
  | create timestamp =>
      obtain ⟨-, affects⟩ := Option.ite_none_left_eq_some.mp affects
      obtain ⟨made, created, same⟩ := Option.map_eq_some_iff.mp affects
      obtain ⟨rfl, -⟩ := Prod.mk.inj same
      have accepted := toOption_eq_some.mp created
      have missing := (Experiment.create_ok.mp accepted).1
      rw [missing] at accepted ⊢
      exact settled_of_create accepted safe
  | transition runId status completed failed stopReason =>
      obtain ⟨inactive, affects⟩ := Option.ite_none_left_eq_some.mp affects
      obtain ⟨made, moved, same⟩ := Option.map_eq_some_iff.mp affects
      obtain ⟨rfl, -⟩ := Prod.mk.inj same
      have accepted := toOption_eq_some.mp moved
      rcases Nat.eq_zero_or_pos kept with rfl | positive
      · exact rests (by simpa using inactive)
      · have idle : status ≠ .running :=
          fun running => safe ⟨running, positive⟩
        obtain ⟨_, loaded, -⟩ := Experiment.transition_ok.mp accepted
        obtain ⟨_, files, -, found, -⟩ := Experiment.load_ok.mp loaded
        rw [found] at accepted ⊢
        obtain ⟨-, current, -, -, rfl⟩ := transition_inv accepted
        exact settled_of_transition idle positive
  | run runId resume acknowledgement =>
      obtain ⟨inactive, -⟩ := Option.ite_none_left_eq_some.mp affects
      obtain rfl : kept = 0 := by
        simpa [Strands] using safe
      exact rests (by simpa using inactive)
  | task | cancel | collect => exact absurd trivial safe
  | conclude =>
      obtain ⟨run, active, affects⟩ := Option.bind_eq_some_iff.mp affects
      obtain ⟨-, affects⟩ := Option.ite_none_right_eq_some.mp affects
      obtain ⟨files, found, tracks⟩ := sound.active run active
      obtain ⟨written, uninterrupted⟩ := not_or.mp safe
      obtain ⟨state, finished, -⟩ := tracks.finishRun_settles
        (sound.files files found)
        fun interrupted => uninterrupted ⟨run, active, interrupted⟩
      obtain ⟨_, same, idle⟩ := finishRun_writes finished
      rw [found, finished] at affects
      obtain ⟨rfl, -⟩ := Prod.mk.inj (Option.some.inj affects)
      rw [found, same]
      exact settled_of_transition idle (Nat.one_le_iff_ne_zero.mpr written)

/-- An event after which no call goes on is a crash after all its writes. -/
theorem not_strands_of_done {event : Event} {writes : List FileWrite}
    (affects : world.effect experiment event = some (writes, none))
    (safe : ¬ world.Strands (.done event)) {kept : ℕ} (all : 4 ≤ kept) :
    ¬ world.Strands (.crash event kept) := by
  cases event with
  | create => exact fun cut => absurd cut.2 (by omega)
  | transition => exact fun cut => safe cut.1
  | run =>
      obtain ⟨-, affects⟩ := Option.ite_none_left_eq_some.mp affects
      obtain ⟨_, -, same⟩ := Option.map_eq_some_iff.mp affects
      cases same
  | task =>
      obtain ⟨_, -, affects⟩ := Option.bind_eq_some_iff.mp affects
      obtain ⟨_, -, same⟩ := Option.map_eq_some_iff.mp affects
      cases same
  | cancel =>
      obtain ⟨_, -, affects⟩ := Option.bind_eq_some_iff.mp affects
      obtain ⟨_, -, same⟩ := Option.map_eq_some_iff.mp affects
      cases same
  | collect =>
      obtain ⟨_, -, affects⟩ := Option.bind_eq_some_iff.mp affects
      obtain ⟨-, same⟩ := Option.ite_none_right_eq_some.mp affects
      cases same
  | conclude =>
      rintro (cut | interrupted)
      · omega
      · exact safe interrupted

theorem Rests.happens (rests : world.Rests) (sound : world.Sound experiment)
    {incident : Incident} {after : World}
    (happened : world.HappensSafely experiment incident after) :
    after.Rests := by
  obtain ⟨happened, safe⟩ := happened
  intro inactive
  cases incident with
  | done event =>
      obtain ⟨writes, affects, written⟩ := happened
      rw [inactive] at affects
      have settled := rests.writes sound affects
        (not_strands_of_done affects safe
          (Nat.le_add_left 4 writes.length))
      rw [List.take_of_length_le (Nat.le_add_right _ 4)] at settled
      exact written ▸ settled
  | crash event kept =>
      obtain ⟨-, writes, next, affects, written⟩ := happened
      exact written ▸ rests.writes sound affects safe

end World

/-- From the files of any world without a call an unfinished experiment can be
brought forward if and only if they are settled, and they are after every run
in which no crash strands the experiment. -/
theorem crash_resumability (experiment : Experiment) (world : World)
    (idle : world.active = none)
    (unfinished : world.files.status ≠ some .completed) :
    (∀ incidents,
      Run (World.Happens experiment) .empty incidents world →
        (world.files.BroughtForward experiment ↔ world.files.Settled)) ∧
    ∀ incidents,
      Run (World.HappensSafely experiment) .empty incidents world →
        world.files.BroughtForward experiment := by
  constructor
  · intro incidents run
    exact (World.reachable_sound run).broughtForward_iff unfinished
  · intro incidents run
    have held : world.Sound experiment ∧ world.Rests := by
      refine run.stateInvariant
        (fun world => world.Sound experiment ∧ world.Rests)
        ⟨World.empty_sound, fun _ => .inl rfl⟩ ?_
      intro _ _ _ held happened
      exact ⟨held.1.happens happened.1, held.2.happens held.1 happened⟩
    exact (held.1.broughtForward_iff unfinished).mpr (held.2 idle)

/-! ## Crashes of the first two calls -/

/-- A run call that a crash ends before its first write. -/
theorem early_crash_resumable :
    ∃ world, Run (World.HappensSafely threeTasks) .empty
        [.done (.create "t"), .crash (.run "hash-t" false false) 0] world ∧
      world.files.BroughtForward threeTasks := by
  have computed : ∃ created ∈ World.empty.perform threeTasks (.create "t"),
      created.files.status = some .planned ∧
        (created.effect threeTasks (.run "hash-t" false false)).isSome := by
    decide +kernel
  obtain ⟨created, performed, planned, admitted⟩ := computed
  obtain ⟨⟨writes, next⟩, affects⟩ := Option.isSome_iff_exists.mp admitted
  have run : Run (World.HappensSafely threeTasks) .empty
      [.done (.create "t"), .crash (.run "hash-t" false false) 0]
      { files := created.files, active := none } := by
    refine .cons ⟨World.perform_step performed, id⟩ (.single ⟨?_, ?_⟩)
    · exact ⟨rfl, writes, next, affects, rfl⟩
    · exact Nat.not_succ_le_zero 0
  refine ⟨_, run, (crash_resumability threeTasks _ rfl ?_).2 _ run⟩
  simp [planned]

/-- The crash leaves an experiment that cannot be brought forward. -/
def Stranded (incidents : List Incident) : Prop :=
  ∃ world, Run (World.Happens threeTasks) .empty incidents world ∧
    world.active = none ∧ world.files.status ≠ some .completed ∧
      ¬ world.files.BroughtForward threeTasks

private theorem stranded_of_run {incidents : List Incident} {world : World}
    (run : Run (World.Happens threeTasks) .empty incidents world)
    (idle : world.active = none) (started : world.files.isSome)
    (stuck : world.files.status = none ∨
      world.files.status = some .running) : Stranded incidents := by
  have unfinished : world.files.status ≠ some .completed := by
    rcases stuck with unknown | running
    · simp [unknown]
    · simp [running]
  refine ⟨world, run, idle, unfinished, ?_⟩
  rw [(World.reachable_sound run).broughtForward_iff unfinished]
  rintro (missing | ⟨status, known, other⟩)
  · simp [missing] at started
  · rcases stuck with unknown | running
    · simp [unknown] at known
    · exact other (Option.some.inj (known.symm.trans running))

/-- A crash of `create` after the directory, and one of the run call after
the RUNNING state. -/
theorem crashes_strand :
    Stranded [.crash (.create "t") 1] ∧
      Stranded
        [.done (.create "t"), .crash (.run "hash-t" false false) 1] := by
  constructor
  · have run : Run (World.Happens threeTasks) .empty
        [.crash (.create "t") 1]
        { files := some { runId := "hash-t" }, active := none } :=
      .single ⟨rfl, _, _, rfl, rfl⟩
    exact stranded_of_run run rfl rfl (.inl rfl)
  · have computed : ∃ created ∈ World.empty.perform threeTasks (.create "t"),
        ∃ effect ∈ created.effect threeTasks (.run "hash-t" false false),
          (created.files.writeAll (effect.1.take 1)).isSome ∧
            (created.files.writeAll (effect.1.take 1)).status =
              some .running := by
      decide +kernel
    obtain ⟨created, performed, effect, affects, started, running⟩ :=
      computed
    have run : Run (World.Happens threeTasks) .empty
        [.done (.create "t"), .crash (.run "hash-t" false false) 1]
        { files := created.files.writeAll (effect.1.take 1)
          active := none } :=
      .cons (World.perform_step performed)
        (.single ⟨rfl, effect.1, effect.2, affects, rfl⟩)
    exact stranded_of_run run rfl started (.inr running)

end RagBench
