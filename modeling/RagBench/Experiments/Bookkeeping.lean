import RagBench.Experiments.Reachable

/-!
# The books of an experiment

A run call counts its completed questions in memory and persists the count
when it ends.  As long as a cancelled call is not cancelled once more while it
waits for its tasks, what it persists agrees with the saved results.
-/

namespace RagBench

/-- The saved result of a question. -/
def World.saved (world : World) (questionId : String) :
    Option ExperimentQuestionResult :=
  world.files.bind (·.results.get? questionId)

def RunFiles.AllSaved (experiment : Experiment) (files : RunFiles) : Prop :=
  ∀ questionId ∈ experiment.config.questionIds,
    (files.results.get? questionId).isSome

/-- The state found at the end of a run call agrees with the results. -/
structure RunState.Settles (experiment : Experiment) (run : RunState)
    (files : RunFiles) (state : ExperimentRun) : Prop where
  completed_iff : ∀ questionId, questionId ∈ state.completedQuestionIds ↔
    (files.results.get? questionId).isSome
  failed_disjoint :
    Disjoint state.completedQuestionIds state.failedQuestionIds
  all_saved : state.status = .completed → files.AllSaved experiment
  ends_completed : run.phase = .gathering → files.AllSaved experiment →
    state.status = .completed

structure World.BooksKept (experiment : Experiment) (world : World) :
    Prop where
  launched_bounded : ∀ run, world.active = some run →
    run.launched.length ≤ experiment.config.runtime.batchCap
  inFlight_bounded : ∀ run, world.active = some run →
    run.inFlight.length ≤ experiment.config.runtime.concurrency.value
  starts_unsaved : ∀ questionId after,
    world.Step experiment (.task (.start questionId)) after →
      world.saved questionId = none
  results_kept : ∀ incident after,
    world.Happens experiment incident after →
      ∀ questionId result, world.saved questionId = some result →
        after.saved questionId = some result
  ends_settled : ∀ run after, world.active = some run →
    world.Step experiment .conclude after →
      ∃ files state, after.files = some files ∧ files.state = some state ∧
        run.Settles experiment files state

/-- A cancelled call is cancelled again while it waits for its tasks. -/
def World.CancelledAgain (world : World) (incident : Incident) : Prop :=
  incident = .done .cancel ∧
    ∃ run, world.active = some run ∧ run.phase = .collecting

/-- An incident, but no second cancellation. -/
def World.HappensOnce (experiment : Experiment) (before : World)
    (incident : Incident) (after : World) : Prop :=
  before.Happens experiment incident after ∧ ¬ before.CancelledAgain incident

namespace RunState.Tracks

variable {experiment : Experiment} {files : RunFiles} {run : RunState}

theorem failed_eq_empty (tracks : run.Tracks experiment files)
    (saved : files.AllSaved experiment) : run.failed = ∅ := by
  rw [Finset.eq_empty_iff_forall_notMem]
  intro questionId failed
  obtain ⟨unfinished, among⟩ := tracks.failed_fresh questionId failed
  refine unfinished ((tracks.completed_iff questionId).mpr ?_)
  exact saved questionId (tracks.questionIds_eq ▸ among)

/-- Counting the completed questions tells whether all are saved. -/
theorem allSaved_iff (tracks : run.Tracks experiment files)
    (wellFormed : files.WellFormed experiment) :
    files.AllSaved experiment ↔
      run.completed.card = run.questionIds.length := by
  have unique : run.questionIds.Nodup :=
    tracks.questionIds_eq ▸ experiment.config.questions_unique
  have among : run.completed ⊆ run.questionIds.toFinset := by
    intro questionId finished
    obtain ⟨result, saved⟩ := Option.isSome_iff_exists.mp
      ((tracks.completed_iff questionId).mp finished)
    rw [List.mem_toFinset, tracks.questionIds_eq]
    exact (wellFormed.results_eq questionId result saved).2
  rw [← List.toFinset_card_of_nodup unique]
  constructor
  · intro saved
    congr 1
    refine among.antisymm fun questionId member => ?_
    rw [List.mem_toFinset, tracks.questionIds_eq] at member
    exact (tracks.completed_iff questionId).mpr (saved questionId member)
  · intro counted questionId member
    rw [← tracks.completed_iff, Finset.eq_of_subset_of_card_le among
      counted.ge, List.mem_toFinset, tracks.questionIds_eq]
    exact member

theorem failed_disjoint (tracks : run.Tracks experiment files) :
    Disjoint run.completed run.failed :=
  Finset.disjoint_right.mpr fun questionId failed =>
    (tracks.failed_fresh questionId failed).1

/-- A transition to the end of the experiment. -/
theorem settles_completed (tracks : run.Tracks experiment files)
    (saved : files.AllSaved experiment) (current : ExperimentRun) :
    run.Settles experiment files (Experiment.transitioned current .completed
      (some run.completed) (some ∅) none) :=
  { completed_iff := tracks.completed_iff
    failed_disjoint := Finset.disjoint_empty_right _
    all_saved := fun _ => saved
    ends_completed := fun _ _ => rfl }

/-- A transition to another state. -/
theorem settles_unfinished (tracks : run.Tracks experiment files)
    {current : ExperimentRun} {status : RunStatus}
    {failed : Option (Finset String)} (stopReason : Option String)
    (unfinished : status ≠ .completed)
    (disjoint : Disjoint run.completed
      (failed.getD current.failedQuestionIds))
    (unsaved : run.phase = .gathering → ¬ files.AllSaved experiment) :
    run.Settles experiment files (Experiment.transitioned current status
      (some run.completed) failed stopReason) :=
  { completed_iff := tracks.completed_iff
    failed_disjoint := disjoint
    all_saved := fun finished => absurd finished unfinished
    ends_completed := fun gathering saved =>
      absurd saved (unsaved gathering) }

/-- A call that is not interrupted settles its books. -/
theorem finishRun_settles (tracks : run.Tracks experiment files)
    (wellFormed : files.WellFormed experiment)
    (uninterrupted : run.phase ≠ .interrupted) :
    ∃ state, finishRun experiment (some files) run =
        .ok [.state state, .history state] ∧
      run.Settles experiment files state := by
  obtain ⟨current, known, running, cleared⟩ := tracks.running
  have moves (status : RunStatus)
      (allowed : status ∈ RunStatus.running.successors)
      (failed : Option (Finset String)) (stopReason : Option String) :
      experiment.transition (some files) run.runId status
          (some run.completed) failed stopReason = .ok _ :=
    tracks.named ▸ transition_wellFormed wellFormed known
      (running ▸ allowed) (some run.completed) failed stopReason
  unfold finishRun
  split
  · next interrupted => exact absurd interrupted uninterrupted
  · next cancelled =>
      refine ⟨_, moves .cancelled (by decide) _ _, ?_⟩
      apply tracks.settles_unfinished
      · decide
      · exact tracks.failed_disjoint
      · simp [cancelled]
  · next cancelled =>
      refine ⟨_, moves .cancelled (by decide) _ _, ?_⟩
      apply tracks.settles_unfinished
      · decide
      · exact tracks.failed_disjoint
      · simp [cancelled]
  · split
    · next cause stopped =>
        refine ⟨_, moves .stopped (by decide) _ _, ?_⟩
        apply tracks.settles_unfinished
        · decide
        · exact tracks.failed_disjoint
        · intro _ saved
          have failures := tracks.stop_failed (by simp [stopped])
          rw [tracks.failed_eq_empty saved] at failures
          exact Finset.not_nonempty_empty failures
    · split_ifs with failures missing
      · refine ⟨_, moves .failed (by decide) _ _, ?_⟩
        apply tracks.settles_unfinished
        · decide
        · exact tracks.failed_disjoint
        · intro _ saved
          exact failures (tracks.failed_eq_empty saved)
      · refine ⟨_, moves .stopped (by decide) _ _, ?_⟩
        apply tracks.settles_unfinished
        · decide
        · rw [Option.getD_none, cleared]
          exact Finset.disjoint_empty_right _
        · intro _ saved
          exact missing ((tracks.allSaved_iff wellFormed).mp saved)
      · refine ⟨_, moves .completed (by decide) _ _, ?_⟩
        exact tracks.settles_completed
          ((tracks.allSaved_iff wellFormed).mpr (not_not.mp missing)) _

end RunState.Tracks

/-! ## Whole runs -/

namespace World

variable {experiment : Experiment} {world : World}

/-- The handler of a cancelled call has not been cancelled. -/
def Uninterrupted (world : World) : Prop :=
  ∀ run, world.active = some run → run.phase ≠ .interrupted

/-- Only a second cancellation interrupts the handler. -/
theorem Uninterrupted.step (uninterrupted : world.Uninterrupted)
    {event : Event} {after : World}
    (performed : world.Step experiment event after)
    (once : ¬ world.CancelledAgain (.done event)) :
    after.Uninterrupted := by
  obtain ⟨writes, affects, -⟩ := performed
  intro next active
  rw [active] at affects
  cases event with
  | create | transition =>
      obtain ⟨-, affects⟩ := Option.ite_none_left_eq_some.mp affects
      obtain ⟨_, -, same⟩ := Option.map_eq_some_iff.mp affects
      cases same
  | run runId resume acknowledgement =>
      obtain ⟨-, affects⟩ := Option.ite_none_left_eq_some.mp affects
      obtain ⟨⟨made, run⟩, started, same⟩ :=
        Option.map_eq_some_iff.mp affects
      obtain ⟨rfl, ⟨⟩⟩ := Prod.mk.inj same
      simp [startRun_phase (toOption_eq_some.mp started)]
  | task event =>
      obtain ⟨run, running, affects⟩ := Option.bind_eq_some_iff.mp affects
      obtain ⟨⟨made, after⟩, stepped, same⟩ :=
        Option.map_eq_some_iff.mp affects
      obtain ⟨rfl, ⟨⟩⟩ := Prod.mk.inj same
      rcases stepTask_phase stepped with kept | ⟨-, collecting⟩
      · rw [kept]
        exact uninterrupted run running
      · simp [collecting]
  | cancel =>
      obtain ⟨run, running, affects⟩ := Option.bind_eq_some_iff.mp affects
      obtain ⟨after, cancelled, same⟩ := Option.map_eq_some_iff.mp affects
      obtain ⟨rfl, ⟨⟩⟩ := Prod.mk.inj same
      unfold cancelRun at cancelled
      split_ifs at cancelled
      split at cancelled
      · cases cancelled
        simp
      · next cancelling =>
          cases cancelled
          simp [cancelling]
      · next collecting => exact absurd ⟨rfl, run, running, collecting⟩ once
      · next interrupted =>
          exact absurd interrupted (uninterrupted run running)
  | collect =>
      obtain ⟨run, running, affects⟩ := Option.bind_eq_some_iff.mp affects
      obtain ⟨-, same⟩ := Option.ite_none_right_eq_some.mp affects
      obtain ⟨rfl, ⟨⟩⟩ := Prod.mk.inj (Option.some.inj same)
      simp
  | conclude =>
      obtain ⟨run, running, affects⟩ := Option.bind_eq_some_iff.mp affects
      obtain ⟨-, affects⟩ := Option.ite_none_right_eq_some.mp affects
      split at affects
      · cases Option.some.inj affects
      · cases Option.some.inj affects

theorem Uninterrupted.happens (uninterrupted : world.Uninterrupted)
    {incident : Incident} {after : World}
    (happened : world.HappensOnce experiment incident after) :
    after.Uninterrupted := by
  obtain ⟨happened, once⟩ := happened
  cases incident with
  | done event => exact uninterrupted.step happened once
  | crash event kept =>
      intro run active
      rw [happened.1] at active
      cases active

/-- A result stays, also when a crash cuts the event short. -/
theorem Sound.results_kept (sound : world.Sound experiment)
    {incident : Incident} {after : World}
    (happened : world.Happens experiment incident after)
    {questionId : String} {result : ExperimentQuestionResult}
    (saved : world.saved questionId = some result) :
    after.saved questionId = some result := by
  obtain ⟨files, found, present⟩ := Option.bind_eq_some_iff.mp saved
  have kept (event : Event) (writes : List FileWrite)
      (next : Option RunState)
      (affects : world.effect experiment event = some (writes, next))
      (count : ℕ)
      (written : after.files = world.files.writeAll (writes.take count)) :
      after.saved questionId = some result := by
    rcases sound.effect affects with ⟨missing, -⟩ | ⟨other, same, allowed, -⟩
    · rw [missing] at found
      cases found
    · obtain rfl := Option.some.inj (found.symm.trans same)
      rw [found, Files.writeAll_some] at written
      rw [World.saved, written]
      exact allowed.results_kept count present
  cases incident with
  | done event =>
      obtain ⟨writes, affects, written⟩ := happened
      refine kept event writes after.active affects writes.length ?_
      rw [List.take_length, written]
  | crash event count =>
      obtain ⟨-, writes, next, affects, written⟩ := happened
      exact kept event writes next affects count written

theorem Sound.booksKept (sound : world.Sound experiment)
    (uninterrupted : world.Uninterrupted) : world.BooksKept experiment := by
  refine
    { launched_bounded := ?_
      inFlight_bounded := ?_
      starts_unsaved := ?_
      results_kept := fun _ _ happened _ _ saved =>
        sound.results_kept happened saved
      ends_settled := ?_ }
  · intro run active
    obtain ⟨files, -, tracks⟩ := sound.active run active
    rw [← tracks.runtime_eq]
    exact (Nat.le_add_right _ _).trans tracks.launched_bounded
  · intro run active
    obtain ⟨files, -, tracks⟩ := sound.active run active
    rw [← tracks.runtime_eq]
    exact tracks.inFlight_bounded
  · rintro questionId after ⟨writes, affects, -⟩
    obtain ⟨run, active, affects⟩ := Option.bind_eq_some_iff.mp affects
    obtain ⟨_, stepped, -⟩ := Option.map_eq_some_iff.mp affects
    obtain ⟨⟨-, waits, -⟩, -⟩ := Option.ite_none_right_eq_some.mp stepped
    obtain ⟨files, found, tracks⟩ := sound.active run active
    obtain ⟨-, unfinished, -⟩ :=
      tracks.tasks_fresh questionId (List.mem_append_left _ waits)
    rw [tracks.completed_iff, Bool.not_eq_true, Option.isSome_eq_false_iff,
      Option.isNone_iff_eq_none] at unfinished
    rw [saved, found]
    exact unfinished
  · rintro run after active ⟨writes, affects, written⟩
    obtain ⟨files, found, tracks⟩ := sound.active run active
    obtain ⟨state, finished, settles⟩ := tracks.finishRun_settles
      (sound.files files found) (uninterrupted run active)
    obtain ⟨other, same, affects⟩ := Option.bind_eq_some_iff.mp affects
    obtain rfl := Option.some.inj (active.symm.trans same)
    obtain ⟨-, affects⟩ := Option.ite_none_right_eq_some.mp affects
    rw [found, finished] at affects
    obtain ⟨rfl, -⟩ := Prod.mk.inj (Option.some.inj affects)
    refine ⟨_, state, written.trans (found ▸ Files.writeAll_some _ _), rfl,
      ?_⟩
    exact { settles with }

end World

/-- The books are kept as long as no cancelled call is cancelled again while
it waits for its tasks. -/
theorem books_kept {experiment : Experiment} {incidents : List Incident}
    {world : World}
    (run : Run (World.HappensOnce experiment) .empty incidents world) :
    world.BooksKept experiment := by
  have held : world.Sound experiment ∧ world.Uninterrupted := by
    refine run.stateInvariant
      (fun world => world.Sound experiment ∧ world.Uninterrupted)
      ⟨World.empty_sound, ?_⟩ ?_
    · intro _ active
      cases active
    · intro _ _ _ held happened
      exact ⟨held.1.happens happened.1, held.2.happens happened⟩
  exact held.1.booksKept held.2

/-! ## One run, and a second cancellation -/

private theorem performAll_once {experiment : Experiment}
    {world after : World} {events : List Event}
    (performed : world.performAll experiment events = some after)
    (uncancelled : ∀ event ∈ events, event ≠ .cancel) :
    Run (World.HappensOnce experiment) world (events.map .done) after := by
  induction events generalizing world with
  | nil =>
      obtain rfl := Option.some.inj performed
      exact .refl
  | cons event events induction =>
      obtain ⟨middle, first, rest⟩ := Option.bind_eq_some_iff.mp performed
      refine .cons ⟨World.perform_step first, ?_⟩ (induction rest ?_)
      · rintro ⟨same, -⟩
        exact uncancelled event (by simp) (Incident.done.inj same)
      · intro other member
        exact uncancelled other (List.mem_cons_of_mem _ member)

/-- Three answers, the last task started after the first has ended. -/
def answeredEvents : List Event :=
  [.create "t", .run "hash-t" false false, .task (.start "a"),
    .task (.start "b"), .task (.finish "b" (answered "b")),
    .task (.start "c"), .task (.finish "a" (answered "a")),
    .task (.finish "c" (answered "c")), .conclude]

theorem answered_books_kept :
    ∃ world, World.empty.performAll threeTasks answeredEvents = some world ∧
      world.BooksKept threeTasks := by
  have performed : (World.empty.performAll threeTasks
      answeredEvents).isSome := by
    decide +kernel
  obtain ⟨world, performed⟩ := Option.isSome_iff_exists.mp performed
  refine ⟨world, performed, books_kept (performAll_once performed ?_)⟩
  simp [answeredEvents]

/-- One answer is saved; the call is cancelled, one of the other tasks ends,
and the call is cancelled again. -/
def cancelledTwice : List Event :=
  [.create "t", .run "hash-t" false false, .task (.start "a"),
    .task (.start "b"), .task (.start "c"),
    .task (.finish "a" (answered "a")), .cancel, .task (.abandon "b"),
    .cancel, .task (.abandon "c")]

/-- The saved answer is missing in the state that the call leaves behind. -/
theorem second_cancellation_loses_answer :
    ∃ world, Run (World.Step threeTasks) .empty cancelledTwice world ∧
      ¬ world.BooksKept threeTasks := by
  have computed : ∃ world ∈ World.empty.performAll threeTasks cancelledTwice,
      ∃ run ∈ world.active, ∃ after ∈ world.perform threeTasks .conclude,
        ∃ files ∈ after.files, ∃ state ∈ files.state,
          "a" ∉ state.completedQuestionIds ∧
            (files.results.get? "a").isSome := by
    decide +kernel
  obtain ⟨world, performed, run, active, after, concluded, files, found,
    state, known, missing, saved⟩ := computed
  refine ⟨world, World.performAll_run performed, fun kept => missing ?_⟩
  obtain ⟨others, otherState, same, sameState, settles⟩ :=
    kept.ends_settled run after active (World.perform_step concluded)
  obtain rfl := Option.some.inj (found.symm.trans same)
  obtain rfl := Option.some.inj (known.symm.trans sameState)
  exact (settles.completed_iff "a").mpr saved

end RagBench
