import Mathlib.Data.String.Basic
import RagBench.Experiments.Reachable

/-!
# The history of a run

The states of a run are kept twice: the last one in a file that is replaced,
and each of them in a file of its own, named by the number of files before it
and by its status.  The order of the history is that of the file names.
-/

namespace RagBench

/-! ## File names -/

private theorem toList_pushn (text : String) (character : Char) (count : ℕ) :
    (text.pushn character count).toList =
      text.toList ++ List.replicate count character := by
  rw [String.pushn_eq_repeat_push]
  induction count with
  | zero => simp [Nat.repeat]
  | succ count induction =>
      simp [Nat.repeat, induction, List.replicate_succ']

private theorem toList_fourDigits (number : ℕ) :
    (fourDigits number).toList =
      List.replicate (4 - (Nat.toDigits 10 number).length) '0' ++
        Nat.toDigits 10 number := by
  simp [fourDigits, toList_pushn, ← String.length_toList]

/-- The digits of a number below ten thousand. -/
theorem fourDigits_eq {number : ℕ} (short : number < 10000) :
    (fourDigits number).toList =
      [(number / 1000).digitChar, (number / 100 % 10).digitChar,
        (number / 10 % 10).digitChar, (number % 10).digitChar] := by
  have last (value : ℕ) (large : 10 ≤ value) : Nat.toDigits 10 value =
      Nat.toDigits 10 (value / 10) ++ [(value % 10).digitChar] :=
    Nat.toDigits_of_base_le (by decide) large
  have single (value : ℕ) (small : value < 10) :
      Nat.toDigits 10 value = [value.digitChar] :=
    Nat.toDigits_of_lt_base small
  have hundreds : number / 10 / 10 = number / 100 := by omega
  have thousands : number / 100 / 10 = number / 1000 := by omega
  rw [toList_fourDigits]
  rcases Nat.lt_or_ge number 10 with ones | tens
  · have first : number / 1000 = 0 := by omega
    have second : number / 100 % 10 = 0 := by omega
    have third : number / 10 % 10 = 0 := by omega
    rw [single number ones, first, second, third, Nat.mod_eq_of_lt ones]
    rfl
  rcases Nat.lt_or_ge number 100 with below | hundred
  · have first : number / 1000 = 0 := by omega
    have second : number / 100 % 10 = 0 := by omega
    have third : number / 10 < 10 := by omega
    rw [last number tens, single _ third, first, second,
      Nat.mod_eq_of_lt third]
    rfl
  rcases Nat.lt_or_ge number 1000 with below | thousand
  · have first : number / 1000 = 0 := by omega
    have second : number / 100 < 10 := by omega
    rw [last number tens, last (number / 10) (by omega), hundreds,
      single _ second, first, Nat.mod_eq_of_lt second]
    rfl
  · have first : number / 1000 < 10 := by omega
    rw [last number tens, last (number / 10) (by omega), hundreds,
      last (number / 100) (by omega), thousands, single _ first]
    rfl

private theorem digitChar_lt {first second : ℕ} (less : first < second)
    (small : second < 10) : first.digitChar < second.digitChar := by
  revert first
  revert second
  decide

/-- Names with smaller numbers come first. -/
theorem fourDigits_append_lt {first second : ℕ} (less : first < second)
    (short : second < 10000) (tail tail' : String) :
    fourDigits first ++ tail < fourDigits second ++ tail' := by
  rw [String.lt_iff_toList_lt, String.toList_append, String.toList_append,
    fourDigits_eq (less.trans short), fourDigits_eq short]
  simp only [List.cons_append, List.nil_append, List.cons_lt_cons_iff]
  rcases Nat.lt_or_ge (first / 1000) (second / 1000) with above | same
  · exact .inl (digitChar_lt above (by omega))
  have thousands : first / 1000 = second / 1000 := by omega
  refine .inr ⟨by rw [thousands], ?_⟩
  rcases Nat.lt_or_ge (first / 100 % 10) (second / 100 % 10) with above | same
  · exact .inl (digitChar_lt above (by omega))
  have hundreds : first / 100 % 10 = second / 100 % 10 := by omega
  refine .inr ⟨by rw [hundreds], ?_⟩
  rcases Nat.lt_or_ge (first / 10 % 10) (second / 10 % 10) with above | same
  · exact .inl (digitChar_lt above (by omega))
  have tens : first / 10 % 10 = second / 10 % 10 := by omega
  exact .inr ⟨by rw [tens], .inl (digitChar_lt (by omega) (by omega))⟩

/-! ## The repository -/

/-- The run directories, by the semantic hash of their experiment. -/
abbrev RunDirectories := Dict String (Experiment × RunFiles)

/-- The write is exclusive, and its file is there. -/
def FileWrite.isTaken (files : RunFiles) : FileWrite → Bool
  | .config _ => files.config.isSome
  | .history run => files.historyName run ∈ files.history.map Prod.fst
  | _ => false

/-- The writes of an operation, up to one that finds its file there. -/
def RunFiles.perform : RunFiles → List FileWrite →
    Except PyException Unit × RunFiles
  | files, [] => (.ok (), files)
  | files, change :: rest =>
      if change.isTaken files then
        (.error ⟨.fileExistsError, "immutable artifact already exists"⟩, files)
      else perform (files.write change) rest

namespace RunDirectories

variable (directories : RunDirectories)

/-- `_find`. -/
def findRun (runId : String) :
    Except PyException (String × Experiment × RunFiles) :=
  match directories.entries.filter fun entry => entry.2.2.runId = runId with
  | [entry] => .ok entry
  | _ => .error ⟨.fileNotFoundError, "unknown experiment run: " ++ runId⟩

/-- `load`. -/
def load (runId : String) : Except PyException ExperimentRun := do
  let (_, experiment, run) ← findRun directories runId
  experiment.load (some run) runId

/-- `history`, in the order of the file names. -/
def history (runId : String) : Except PyException (List ExperimentRun) := do
  let (_, _, run) ← findRun directories runId
  return (sortBy Prod.fst run.history).map Prod.snd

/-- `create`, at a formatted time. -/
def create (experiment : Experiment) (timestamp : String) :
    Except PyException ExperimentRun × RunDirectories :=
  let semanticHash := experiment.semanticHash
  let found := (directories.get? semanticHash).map Prod.snd
  match experiment.create found timestamp with
  | .error error => (.error error, directories)
  | .ok writes =>
      let runId := semanticHash ++ "-" ++ timestamp
      let (result, run) := RunFiles.perform { runId := runId } writes
      (result.map fun _ =>
          { runId := runId
            configHash := semanticHash
            status := .planned },
        directories.set semanticHash (experiment, run))

/-- `transition`. -/
def transition (runId : String) (status : RunStatus)
    (completed failed : Option (Finset String)) (stopReason : Option String) :
    Except PyException ExperimentRun × RunDirectories :=
  let prepared := do
    let (semanticHash, experiment, run) ← findRun directories runId
    let current ← experiment.load (some run) runId
    let writes ← experiment.transition (some run) runId status completed
      failed stopReason
    return (semanticHash, experiment, run, current, writes)
  match prepared with
  | .error error => (.error error, directories)
  | .ok (semanticHash, experiment, run, current, writes) =>
      let (result, after) := run.perform writes
      (result.map fun _ => Experiment.transitioned current status completed
          failed stopReason,
        directories.set semanticHash (experiment, after))

end RunDirectories

inductive RepositoryCall where
  | create (experiment : Experiment) (timestamp : String)
  | transition (runId : String) (status : RunStatus)
      (completed failed : Option (Finset String)) (stopReason : Option String)

/-- The hash of a new experiment is a SHA-256 digest. -/
def RepositoryCall.HasDigest : RepositoryCall → Prop
  | .create experiment _ => experiment.semanticHash.length = 64
  | .transition _ _ _ _ _ => True

namespace RunDirectories

def perform (directories : RunDirectories) :
    RepositoryCall → Except PyException ExperimentRun × RunDirectories
  | .create experiment timestamp => directories.create experiment timestamp
  | .transition runId status completed failed stopReason =>
      directories.transition runId status completed failed stopReason

/-- The states that the calls have returned, and the directories after them. -/
def performAll : RunDirectories → List ExperimentRun → List RepositoryCall →
    List ExperimentRun × RunDirectories
  | directories, accepted, [] => (accepted, directories)
  | directories, accepted, call :: rest =>
      let (result, after) := directories.perform call
      performAll after (accepted ++ result.toOption.toList) rest

end RunDirectories

/-- The states of a run among these. -/
def statesOf (accepted : List ExperimentRun) (runId : String) :
    List ExperimentRun :=
  accepted.filter fun state => state.runId = runId

/-- The history files of the states. -/
def numberedStates (states : List ExperimentRun) :
    List (String × ExperimentRun) :=
  states.zipIdx.map fun (state, number) =>
    (fourDigits number ++ ("-" ++ state.status.value ++ ".json"), state)

theorem numberedStates_append (states : List ExperimentRun)
    (state : ExperimentRun) :
    numberedStates (states ++ [state]) =
      numberedStates states ++
        [(fourDigits states.length ++ ("-" ++ state.status.value ++ ".json"),
          state)] := by
  simp [numberedStates, List.zipIdx_append]

theorem map_snd_numberedStates (states : List ExperimentRun) :
    (numberedStates states).map Prod.snd = states := by
  rw [numberedStates, List.map_map]
  exact List.zipIdx_map_fst 0 states

/-- The names of the history files are in the order of the states. -/
theorem numberedStates_sorted {states : List ExperimentRun}
    (short : states.length ≤ 10000) :
    (numberedStates states).Pairwise fun first second =>
      first.1 < second.1 := by
  rw [numberedStates, List.pairwise_map]
  have numbers : states.zipIdx.Pairwise fun first second =>
      first.2 < second.2 ∧ second.2 < 10000 := by
    rw [← List.pairwise_map (f := Prod.snd)
      (R := fun first second => first < second ∧ second < 10000),
      List.zipIdx_map_snd]
    rw [List.pairwise_iff_getElem]
    intro first second bound bound' less
    simp only [List.length_range'] at bound bound'
    simp only [List.getElem_range']
    omega
  exact numbers.imp fun both => fourDigits_append_lt both.1 both.2 _ _

/-! ## State and history in step -/

/-- A run directory that keeps these states. -/
structure RunFiles.Keeps (experiment : Experiment) (states : List ExperimentRun)
    (run : RunFiles) : Prop where
  wellFormed : run.WellFormed experiment
  config : run.config.isSome
  configSha : run.configSha.isSome
  history : run.history = numberedStates states
  state : run.state = states.getLast?
  started : states ≠ []

/-- The directories keep the accepted states. -/
structure RunDirectories.Keeps (directories : RunDirectories)
    (accepted : List ExperimentRun) : Prop where
  named : ∀ semanticHash experiment run,
    directories.get? semanticHash = some (experiment, run) →
      experiment.semanticHash = semanticHash ∧ semanticHash.length = 64
  kept : ∀ semanticHash experiment run,
    directories.get? semanticHash = some (experiment, run) →
      run.Keeps experiment (statesOf accepted run.runId)
  present : ∀ state ∈ accepted, ∃ semanticHash experiment run,
    directories.get? semanticHash = some (experiment, run) ∧
      run.runId = state.runId

theorem mem_statesOf {accepted : List ExperimentRun} {runId : String}
    {state : ExperimentRun} :
    state ∈ statesOf accepted runId ↔ state ∈ accepted ∧ state.runId = runId := by
  rw [statesOf, List.mem_filter, decide_eq_true_eq]

theorem statesOf_append (accepted : List ExperimentRun) (state : ExperimentRun)
    (runId : String) :
    statesOf (accepted ++ [state]) runId =
      statesOf accepted runId ++ if state.runId = runId then [state] else [] := by
  rw [statesOf, List.filter_append, statesOf]
  by_cases same : state.runId = runId <;> simp [same]

/-- The name of the next history file is new. -/
private theorem name_fresh {states : List ExperimentRun}
    (short : states.length < 10000) (state : ExperimentRun) :
    fourDigits states.length ++ ("-" ++ state.status.value ++ ".json") ∉
      (numberedStates states).map Prod.fst := by
  have longer : (states ++ [state]).length ≤ 10000 := by
    rw [List.length_append]
    exact short
  have sorted := numberedStates_sorted longer
  rw [numberedStates_append, List.pairwise_append] at sorted
  intro taken
  obtain ⟨entry, member, same⟩ := List.mem_map.mp taken
  have before := sorted.2.2 entry member _ List.mem_cons_self
  rw [same] at before
  exact lt_irrefl _ before

/-- The next state is kept in both places. -/
theorem RunFiles.Keeps.perform {experiment : Experiment}
    {states : List ExperimentRun} {run : RunFiles}
    (keeps : run.Keeps experiment states) (short : states.length < 10000)
    (state : ExperimentRun) :
    ∃ after, run.perform [.state state, .history state] = (.ok (), after) ∧
      after.runId = run.runId ∧
        after.Keeps experiment (states ++ [state]) := by
  have name : run.historyName state =
      fourDigits states.length ++ ("-" ++ state.status.value ++ ".json") := by
    rw [RunFiles.historyName, keeps.history, numberedStates, List.length_map,
      List.length_zipIdx]
    simp only [String.append_assoc]
  have free : (FileWrite.history state).isTaken (run.write (.state state)) =
      false := by
    have fresh := name_fresh short state
    rw [← name, ← keeps.history] at fresh
    exact decide_eq_false fresh
  have first : FileWrite.Allowed experiment run (.state state) :=
    ⟨keeps.config, keeps.configSha⟩
  have second : FileWrite.Allowed experiment (run.write (.state state))
      (.history state) := trivial
  refine ⟨(run.write (.state state)).write (.history state), ?_, rfl, ?_⟩
  · rw [RunFiles.perform, if_neg (by simp [FileWrite.isTaken]),
      RunFiles.perform, free]
    rfl
  · exact
      { wellFormed := (keeps.wellFormed.write first).write second
        config := keeps.config
        configSha := keeps.configSha
        history := by
          rw [numberedStates_append, ← keeps.history, ← name]
          rfl
        state := List.getLast?_concat.symm
        started := by simp }

/-- The first state is kept in both places. -/
private theorem perform_created (runId : String) (config : ExperimentConfig)
    (hash : String) (state : ExperimentRun) :
    RunFiles.perform { runId := runId }
        [.directory runId, .config config, .configSha hash, .state state,
          .history state] =
      (.ok (),
        { runId := runId
          config := some config
          configSha := some hash
          state := some state
          history := numberedStates [state] }) := by
  simp [RunFiles.perform, FileWrite.isTaken, RunFiles.write, numberedStates,
    RunFiles.historyName, String.append_assoc]

/-- A run id begins with one digest. -/
private theorem digest_unique {first second runId : String}
    (length : first.length = 64) (length' : second.length = 64)
    (named : (first ++ "-").toList <+: runId.toList)
    (named' : (second ++ "-").toList <+: runId.toList) : first = second := by
  rw [String.toList_append] at named named'
  have short := (List.prefix_append _ _).trans named
  have short' := (List.prefix_append _ _).trans named'
  have same : first.toList.length = second.toList.length := by
    rw [String.length_toList, String.length_toList, length, length']
  exact String.toList_inj.mp
    ((List.prefix_of_prefix_length_le short short' same.le).eq_of_length same)

namespace RunDirectories

variable {directories : RunDirectories} {accepted : List ExperimentRun}

/-- The hash of a run is the beginning of its id. -/
theorem Keeps.hash_eq (keeps : directories.Keeps accepted)
    {semanticHash other : String} {experiment experiment' : Experiment}
    {run run' : RunFiles}
    (found : directories.get? semanticHash = some (experiment, run))
    (found' : directories.get? other = some (experiment', run'))
    (same : run.runId = run'.runId) : semanticHash = other := by
  obtain ⟨rfl, length⟩ := keeps.named _ _ _ found
  obtain ⟨rfl, length'⟩ := keeps.named _ _ _ found'
  have first := (keeps.kept _ _ _ found).wellFormed.named
  have second := (keeps.kept _ _ _ found').wellFormed.named
  rw [same] at first
  exact digest_unique length length' first second

/-- `_find` finds the directory of a run. -/
theorem Keeps.findRun_eq (keeps : directories.Keeps accepted)
    {semanticHash : String} {experiment : Experiment} {run : RunFiles}
    (found : directories.get? semanticHash = some (experiment, run)) :
    findRun directories run.runId = .ok (semanticHash, experiment, run) := by
  have listed := (directories.get?_eq_some_iff).mp found
  have only : directories.entries.filter
      (fun entry => entry.2.2.runId = run.runId) =
        [(semanticHash, experiment, run)] := by
    have distinct := directories.nodup.of_map
    rw [← List.perm_singleton, List.perm_ext_iff_of_nodup
      (distinct.filter _) (List.nodup_singleton _)]
    rintro ⟨other, experiment', run'⟩
    rw [List.mem_filter, List.mem_singleton, decide_eq_true_eq]
    constructor
    · rintro ⟨member, same⟩
      have found' := (directories.get?_eq_some_iff).mpr member
      obtain rfl := keeps.hash_eq found' found same
      rw [Option.some.inj (found'.symm.trans found)]
    · rintro ⟨rfl⟩
      exact ⟨listed, rfl⟩
  rw [findRun, only]

/-- An unknown run has no directory. -/
theorem findRun_unknown {runId : String}
    (unknown : ∀ semanticHash experiment run,
      directories.get? semanticHash = some (experiment, run) →
        run.runId ≠ runId) :
    ∃ error, findRun directories runId = .error error := by
  have none : directories.entries.filter
      (fun entry => entry.2.2.runId = runId) = [] := by
    rw [List.filter_eq_nil_iff]
    rintro ⟨semanticHash, experiment, run⟩ member same
    exact unknown _ _ _ ((directories.get?_eq_some_iff).mpr member)
      (of_decide_eq_true same)
  rw [findRun, none]
  exact ⟨_, rfl⟩

/-- A directory that has one more state; it keeps its run id, which no other
directory has. -/
private theorem Keeps.set (keeps : directories.Keeps accepted)
    {semanticHash : String} {experiment : Experiment} {after : RunFiles}
    (named : experiment.semanticHash = semanticHash ∧
      semanticHash.length = 64)
    (only : ∀ other experiment' run',
      directories.get? other = some (experiment', run') →
        (run'.runId = after.runId ↔ other = semanticHash))
    {state : ExperimentRun} (same : state.runId = after.runId)
    (kept : after.Keeps experiment
      (statesOf accepted after.runId ++ [state])) :
    RunDirectories.Keeps (Dict.set directories semanticHash (experiment, after))
      (accepted ++ [state]) := by
  constructor
  · intro other experiment' run' found
    rw [Dict.get?_set] at found
    split_ifs at found with here
    · cases Option.some.inj found
      exact here ▸ named
    · exact keeps.named _ _ _ found
  · intro other experiment' run' found
    rw [Dict.get?_set] at found
    rw [statesOf_append]
    split_ifs at found with here
    · cases Option.some.inj found
      rw [if_pos same]
      exact kept
    · have different : state.runId ≠ run'.runId := fun equal =>
        here ((only _ _ _ found).mp (equal.symm.trans same)).symm
      rw [if_neg different, List.append_nil]
      exact keeps.kept _ _ _ found
  · intro held member
    rcases List.mem_append.mp member with earlier | last
    · obtain ⟨other, experiment', run', found, sameId⟩ :=
        keeps.present held earlier
      by_cases here : semanticHash = other
      · exact ⟨semanticHash, experiment, after, Dict.get?_set_self _ _ _,
          ((only _ _ _ found).mpr here.symm).symm.trans sameId⟩
      · refine ⟨other, experiment', run', ?_, sameId⟩
        rw [Dict.get?_set_of_ne _ _ here]
        exact found
    · cases List.mem_singleton.mp last
      exact ⟨semanticHash, experiment, after, Dict.get?_set_self _ _ _,
        same.symm⟩

/-- What `load` and `history` read of a run. -/
theorem Keeps.reads (keeps : directories.Keeps accepted)
    {semanticHash : String} {experiment : Experiment} {run : RunFiles}
    (found : directories.get? semanticHash = some (experiment, run))
    (short : (statesOf accepted run.runId).length ≤ 10000) :
    directories.history run.runId = .ok (statesOf accepted run.runId) ∧
      ∃ current, (statesOf accepted run.runId).getLast? = some current ∧
        experiment.load (some run) run.runId = .ok current ∧
          directories.load run.runId = .ok current := by
  have kept := keeps.kept _ _ _ found
  have located := keeps.findRun_eq found
  constructor
  · have ordered : sortBy Prod.fst run.history = run.history := by
      apply sortBy_eq_self
      rw [kept.history]
      exact (numberedStates_sorted short).imp fun less => le_of_lt less
    rw [history, located]
    change Except.ok ((sortBy Prod.fst run.history).map Prod.snd) = _
    rw [ordered, kept.history, map_snd_numberedStates]
  · obtain ⟨current, last⟩ : ∃ current,
        (statesOf accepted run.runId).getLast? = some current :=
      ⟨_, List.getLast?_eq_some_getLast kept.started⟩
    have loaded := Experiment.load_wellFormed kept.wellFormed
      (kept.state.trans last)
    refine ⟨current, last, loaded, ?_⟩
    rw [load, located]
    exact loaded

/-- A transition of a run that is there. -/
theorem Keeps.transition (keeps : directories.Keeps accepted)
    {semanticHash : String} {experiment : Experiment} {run : RunFiles}
    (found : directories.get? semanticHash = some (experiment, run))
    (short : (statesOf accepted run.runId).length < 10000)
    {current : ExperimentRun}
    (loaded : experiment.load (some run) run.runId = .ok current)
    (status : RunStatus) (completed failed : Option (Finset String))
    (stopReason : Option String) :
    (status ∈ current.status.successors ∧ ∃ after,
        directories.transition run.runId status completed failed stopReason =
          (.ok (Experiment.transitioned current status completed failed
            stopReason), after) ∧
        after.Keeps (accepted ++ [Experiment.transitioned current status
          completed failed stopReason])) ∨
      status ∉ current.status.successors ∧ ∃ error,
        directories.transition run.runId status completed failed stopReason =
          (.error error, directories) := by
  have kept := keeps.kept _ _ _ found
  have located := keeps.findRun_eq found
  by_cases allowed : status ∈ current.status.successors
  · refine .inl ⟨allowed, ?_⟩
    have writes := (@Experiment.transition_ok experiment (some run) run.runId
      status completed failed stopReason _).mpr
        ⟨current, loaded, allowed, rfl⟩
    obtain ⟨after, performed, same, kept'⟩ := kept.perform short
      (Experiment.transitioned current status completed failed stopReason)
    have named : (Experiment.transitioned current status completed failed
        stopReason).runId = run.runId := by
      have listed : current ∈ statesOf accepted run.runId := by
        apply List.mem_of_getLast?
        rw [← kept.state]
        exact (Experiment.load_inv loaded).2
      exact (mem_statesOf.mp listed).2
    have only : ∀ other experiment' run',
        directories.get? other = some (experiment', run') →
          (run'.runId = after.runId ↔ other = semanticHash) := by
      intro other experiment' run' found'
      rw [same]
      constructor
      · exact keeps.hash_eq found' found
      · rintro rfl
        cases Option.some.inj (found.symm.trans found')
        rfl
    refine ⟨_, ?_, keeps.set (keeps.named _ _ _ found) only
      (named.trans same.symm) (same ▸ kept')⟩
    rw [RunDirectories.transition, located]
    simp only [bind, Except.bind, loaded, writes, pure, Except.pure]
    rw [performed]
    rfl
  · refine .inr ⟨allowed, ?_⟩
    cases refused : experiment.transition (some run) run.runId status completed
        failed stopReason with
    | ok writes =>
        obtain ⟨other, loaded', successor, -⟩ :=
          Experiment.transition_ok.mp refused
        cases Except.ok.inj (loaded.symm.trans loaded')
        exact absurd successor allowed
    | error error =>
        refine ⟨error, ?_⟩
        rw [RunDirectories.transition, located]
        simp only [bind, Except.bind, loaded, refused]

/-- A transition of a run that is not there. -/
theorem transition_unknown {runId : String}
    (unknown : ∀ semanticHash experiment run,
      directories.get? semanticHash = some (experiment, run) →
        run.runId ≠ runId) (status : RunStatus)
    (completed failed : Option (Finset String)) (stopReason : Option String) :
    ∃ error, directories.transition runId status completed failed stopReason =
      (.error error, directories) := by
  obtain ⟨error, missing⟩ := findRun_unknown unknown
  refine ⟨error, ?_⟩
  rw [RunDirectories.transition, missing]
  rfl

/-- A run is created where its experiment has no directory. -/
theorem Keeps.create (keeps : directories.Keeps accepted)
    {experiment : Experiment} (digest : experiment.semanticHash.length = 64)
    (timestamp : String) :
    (directories.get? experiment.semanticHash = none ∧ ∃ state after,
        directories.create experiment timestamp = (.ok state, after) ∧
          state.status = .planned ∧
            state.runId = experiment.semanticHash ++ "-" ++ timestamp ∧
              after.Keeps (accepted ++ [state])) ∨
      directories.get? experiment.semanticHash ≠ none ∧ ∃ error,
        directories.create experiment timestamp = (.error error, directories) := by
  let runId := experiment.semanticHash ++ "-" ++ timestamp
  let state : ExperimentRun :=
    { runId := runId
      configHash := experiment.semanticHash
      status := .planned }
  cases present : directories.get? experiment.semanticHash with
  | some held =>
      refine .inr ⟨by simp, ?_⟩
      rw [RunDirectories.create, present]
      exact ⟨_, rfl⟩
  | none =>
      obtain ⟨writes, created⟩ : ∃ writes,
          experiment.create none timestamp = .ok writes := ⟨_, rfl⟩
      obtain ⟨-, rfl⟩ := Experiment.create_ok.mp created
      let after : RunFiles :=
        { runId := runId
          config := some experiment.config
          configSha := some experiment.fullHash
          state := some state
          history := numberedStates [state] }
      have other : ∀ other experiment' run',
          directories.get? other = some (experiment', run') →
            run'.runId ≠ runId := by
        intro other experiment' run' found same
        obtain ⟨rfl, length⟩ := keeps.named _ _ _ found
        have first := (keeps.kept _ _ _ found).wellFormed.named
        rw [same] at first
        have second : (experiment.semanticHash ++ "-").toList <+:
            runId.toList := by simp [runId]
        rw [digest_unique length digest first second, present] at found
        cases found
      have fresh : statesOf accepted runId = [] := by
        rw [List.eq_nil_iff_forall_not_mem]
        intro held member
        obtain ⟨inside, sameId⟩ := mem_statesOf.mp member
        obtain ⟨_, _, run', found, named⟩ := keeps.present held inside
        exact other _ _ _ found (named.trans sameId)
      have only : ∀ other experiment' run',
          directories.get? other = some (experiment', run') →
            (run'.runId = after.runId ↔ other = experiment.semanticHash) := by
        intro hash experiment' run' found
        constructor
        · exact fun same => absurd same (other _ _ _ found)
        · rintro rfl
          rw [present] at found
          cases found
      have kept : after.Keeps experiment
          (statesOf accepted after.runId ++ [state]) := by
        rw [fresh, List.nil_append]
        exact
          { wellFormed :=
              { named := by simp [after, runId]
                config_eq := by
                  rintro _ ⟨⟩
                  rfl
                configSha_eq := by
                  rintro _ ⟨⟩
                  rfl
                state_last := fun _ => ⟨rfl, rfl⟩
                results_eq := fun _ _ found => by cases found }
            config := rfl
            configSha := rfl
            history := rfl
            state := rfl
            started := by simp }
      refine .inl ⟨rfl, state, _, ?_, rfl, rfl,
        keeps.set ⟨rfl, digest⟩ only rfl kept⟩
      rw [RunDirectories.create, present]
      simp only [Option.map_none, created]
      rw [perform_created]
      rfl

/-- A run that has states has a directory. -/
theorem Keeps.exists_run (keeps : directories.Keeps accepted) {runId : String}
    (known : statesOf accepted runId ≠ []) :
    ∃ semanticHash experiment run,
      directories.get? semanticHash = some (experiment, run) ∧
        run.runId = runId := by
  obtain ⟨state, member⟩ := List.exists_mem_of_ne_nil _ known
  obtain ⟨inside, rfl⟩ := mem_statesOf.mp member
  exact keeps.present state inside

theorem Keeps.unknown (keeps : directories.Keeps accepted) {runId : String}
    (unknown : statesOf accepted runId = []) :
    ∀ semanticHash experiment run,
      directories.get? semanticHash = some (experiment, run) →
        run.runId ≠ runId := by
  rintro _ _ _ found rfl
  exact (keeps.kept _ _ _ found).started unknown

/-- The state is the first one of its run, or follows the last one. -/
def Follows (accepted : List ExperimentRun) (state : ExperimentRun) : Prop :=
  match (statesOf accepted state.runId).getLast? with
  | none => state.status = .planned
  | some current => state.status ∈ current.status.successors

/-- The histories have fewer than ten thousand entries. -/
def Short (accepted : List ExperimentRun) : Prop :=
  ∀ runId, (statesOf accepted runId).length < 10000

/-- A call is rejected and changes nothing, or its state is the next one of
its run. -/
theorem Keeps.perform_cases (keeps : directories.Keeps accepted)
    (short : Short accepted) {call : RepositoryCall} (digest : call.HasDigest) :
    (∃ error, directories.perform call = (.error error, directories)) ∨
      ∃ state after, directories.perform call = (.ok state, after) ∧
        after.Keeps (accepted ++ [state]) ∧ Follows accepted state := by
  cases call with
  | create experiment timestamp =>
      rcases keeps.create digest timestamp with
        ⟨absent, state, after, created, status, named, keeps'⟩ |
          ⟨-, error, refused⟩
      · refine .inr ⟨state, after, created, keeps', ?_⟩
        have first : statesOf accepted state.runId = [] := by
          by_contra known
          obtain ⟨hash, experiment', run, found, same⟩ := keeps.exists_run known
          obtain ⟨rfl, length⟩ := keeps.named _ _ _ found
          have begins := (keeps.kept _ _ _ found).wellFormed.named
          rw [same, named] at begins
          rw [digest_unique length digest begins (by simp), absent] at found
          cases found
        rw [Follows, first]
        exact status
      · exact .inl ⟨error, refused⟩
  | transition runId status completed failed stopReason =>
      by_cases known : statesOf accepted runId = []
      · exact .inl (transition_unknown (keeps.unknown known) status completed
          failed stopReason)
      · obtain ⟨hash, experiment, run, found, rfl⟩ := keeps.exists_run known
        obtain ⟨-, current, last, loaded, -⟩ :=
          keeps.reads found (short _).le
        rcases keeps.transition found (short _) loaded status completed failed
            stopReason with ⟨allowed, after, accepted', keeps'⟩ |
          ⟨-, error, refused⟩
        · refine .inr ⟨_, after, accepted', keeps', ?_⟩
          have named : current.runId = run.runId :=
            (mem_statesOf.mp (List.mem_of_getLast? last)).2
          rw [Follows]
          change match (statesOf accepted current.runId).getLast? with
            | none => status = .planned
            | some current => status ∈ current.status.successors
          rw [named, last]
          exact allowed
        · exact .inl ⟨error, refused⟩

end RunDirectories

/-! ## Sequences of calls -/

/-- State and history after some calls, and what a further call does. -/
structure RunDirectories.InStep (directories : RunDirectories)
    (accepted : List ExperimentRun) : Prop where
  history : ∀ runId, statesOf accepted runId ≠ [] →
    directories.history runId = .ok (statesOf accepted runId)
  current : ∀ runId state, (statesOf accepted runId).getLast? = some state →
    directories.load runId = .ok state
  unknown : ∀ runId, statesOf accepted runId = [] →
    ∃ error, directories.load runId = .error error
  /-- Exactly the transitions of the table are accepted. -/
  allowed : ∀ runId status completed failed stopReason state,
    (directories.transition runId status completed failed stopReason).1 =
        .ok state ↔
      ∃ current, directories.load runId = .ok current ∧
        status ∈ current.status.successors ∧
          state = Experiment.transitioned current status completed failed
            stopReason
  rejected : ∀ call error, call.HasDigest →
    (directories.perform call).1 = .error error →
      (directories.perform call).2 = directories

namespace RunDirectories

variable {directories : RunDirectories} {accepted : List ExperimentRun}

theorem Keeps.inStep (keeps : directories.Keeps accepted)
    (short : Short accepted) : directories.InStep accepted := by
  constructor
  case history =>
    intro runId known
    obtain ⟨_, _, run, found, rfl⟩ := keeps.exists_run known
    exact (keeps.reads found (short _).le).1
  case current =>
    intro runId state last
    have known : statesOf accepted runId ≠ [] := by
      intro none
      rw [none] at last
      cases last
    obtain ⟨_, _, run, found, rfl⟩ := keeps.exists_run known
    obtain ⟨-, current, last', -, loaded⟩ := keeps.reads found (short _).le
    rw [loaded, Option.some.inj (last.symm.trans last')]
  case unknown =>
    intro runId none
    obtain ⟨error, missing⟩ := findRun_unknown (keeps.unknown none)
    refine ⟨error, ?_⟩
    rw [load, missing]
    rfl
  case allowed =>
    intro runId status completed failed stopReason state
    by_cases known : statesOf accepted runId = []
    · obtain ⟨error, missing⟩ := findRun_unknown (keeps.unknown known)
      obtain ⟨error', refused⟩ := transition_unknown (keeps.unknown known)
        status completed failed stopReason
      rw [refused, load, missing]
      constructor
      · intro same
        cases same
      · rintro ⟨current, loaded, -⟩
        cases loaded
    · obtain ⟨_, experiment, run, found, rfl⟩ := keeps.exists_run known
      obtain ⟨-, current, -, loaded, loaded'⟩ :=
        keeps.reads found (short _).le
      rw [loaded']
      rcases keeps.transition found (short _) loaded status completed failed
          stopReason with ⟨allowed, after, made, -⟩ | ⟨refused, error, made⟩
      · rw [made]
        constructor
        · intro same
          exact ⟨current, rfl, allowed, (Except.ok.inj same).symm⟩
        · rintro ⟨other, same, -, rfl⟩
          rw [Except.ok.inj same]
      · rw [made]
        constructor
        · intro same
          cases same
        · rintro ⟨other, same, allowed, -⟩
          rw [← Except.ok.inj same] at allowed
          exact absurd allowed refused
  case rejected =>
    intro call error digest failed
    rcases keeps.perform_cases short digest with ⟨_, refused⟩ |
      ⟨state, after, made, -⟩
    · rw [refused]
    · rw [made] at failed
      cases failed

/-- The accepted states stay in front. -/
theorem performAll_accepted (directories : RunDirectories)
    (accepted : List ExperimentRun) (calls : List RepositoryCall) :
    accepted <+: (performAll directories accepted calls).1 := by
  induction calls generalizing directories accepted with
  | nil => exact List.prefix_rfl
  | cons call calls induction =>
      exact (List.prefix_append _ _).trans (induction _ _)

theorem Short.of_le {accepted later : List ExperimentRun}
    (kept : accepted <+: later) (short : Short later) : Short accepted :=
  fun runId => ((kept.filter _).length_le).trans_lt (short runId)

/-- Every sequence of calls keeps state and history in step. -/
theorem Keeps.performAll (keeps : directories.Keeps accepted)
    {calls : List RepositoryCall} (digests : ∀ call ∈ calls, call.HasDigest)
    (short : Short (performAll directories accepted calls).1) :
    (performAll directories accepted calls).2.Keeps
      (performAll directories accepted calls).1 := by
  induction calls generalizing directories accepted with
  | nil => exact keeps
  | cons call calls induction =>
      obtain ⟨digest, digests⟩ := List.forall_mem_cons.mp digests
      have before : Short accepted :=
        .of_le (performAll_accepted directories accepted (call :: calls)) short
      rcases keeps.perform_cases before digest with ⟨error, refused⟩ |
        ⟨state, after, made, keeps', -⟩
      · rw [RunDirectories.performAll, refused] at short ⊢
        simp only [Except.toOption, Option.toList, List.append_nil] at short ⊢
        exact induction keeps digests short
      · rw [RunDirectories.performAll, made] at short ⊢
        simp only [Except.toOption, Option.toList] at short ⊢
        exact induction keeps' digests short

/-- No call adds a state to a completed run. -/
theorem Keeps.statesOf_completed (keeps : directories.Keeps accepted)
    {calls : List RepositoryCall} (digests : ∀ call ∈ calls, call.HasDigest)
    (short : Short (RunDirectories.performAll directories accepted calls).1)
    {runId : String} {state : ExperimentRun}
    (last : (statesOf accepted runId).getLast? = some state)
    (completed : state.status = .completed) :
    statesOf (RunDirectories.performAll directories accepted calls).1 runId =
      statesOf accepted runId := by
  induction calls generalizing directories accepted with
  | nil => rfl
  | cons call calls induction =>
      obtain ⟨digest, digests⟩ := List.forall_mem_cons.mp digests
      have before : Short accepted :=
        .of_le (performAll_accepted directories accepted (call :: calls)) short
      rcases keeps.perform_cases before digest with ⟨error, refused⟩ |
        ⟨next, after, made, keeps', follows⟩
      · rw [RunDirectories.performAll, refused] at short ⊢
        simp only [Except.toOption, Option.toList, List.append_nil] at short ⊢
        exact induction keeps digests short last
      · rw [RunDirectories.performAll, made] at short ⊢
        simp only [Except.toOption, Option.toList] at short ⊢
        have other : next.runId ≠ runId := by
          rintro rfl
          rw [Follows, last] at follows
          change next.status ∈ state.status.successors at follows
          rw [completed] at follows
          cases follows
        have same : statesOf (accepted ++ [next]) runId =
            statesOf accepted runId := by
          rw [statesOf_append, if_neg other, List.append_nil]
        rw [induction keeps' digests short (same.symm ▸ last), same]

end RunDirectories

/-- After every sequence of calls the history of a run lists its accepted
states, the last of which is loaded; the transitions of the table are accepted,
rejected calls change nothing, and completed runs are not left. -/
theorem run_history_in_step {calls : List RepositoryCall}
    (digests : ∀ call ∈ calls, call.HasDigest)
    {accepted : List ExperimentRun} {directories : RunDirectories}
    (performed : RunDirectories.performAll .empty [] calls =
      (accepted, directories))
    (short : RunDirectories.Short accepted) :
    directories.InStep accepted ∧
      ∀ runId state, directories.load runId = .ok state →
        state.status = .completed → ∀ later,
          (∀ call ∈ later, RepositoryCall.HasDigest call) →
            RunDirectories.Short (directories.performAll accepted later).1 →
              (directories.performAll accepted later).2.load runId =
                .ok state := by
  have started : RunDirectories.Keeps .empty [] := by
    constructor
    · intro _ _ _ found
      cases found
    · intro _ _ _ found
      cases found
    · intro _ member
      cases member
  have keeps : directories.Keeps accepted := by
    have all := @RunDirectories.Keeps.performAll .empty [] started calls digests
      (by rw [performed]; exact short)
    rwa [performed] at all
  refine ⟨keeps.inStep short, ?_⟩
  intro runId state loaded completed later digests' short'
  have last : (statesOf accepted runId).getLast? = some state := by
    cases found : (statesOf accepted runId).getLast? with
    | none =>
        have unknown := List.getLast?_eq_none_iff.mp found
        obtain ⟨error, failed⟩ := (keeps.inStep short).unknown runId unknown
        rw [failed] at loaded
        cases loaded
    | some current =>
        have read := (keeps.inStep short).current runId current found
        rw [Except.ok.inj (read.symm.trans loaded)]
  have kept := keeps.performAll digests' short'
  apply (kept.inStep short').current
  rw [keeps.statesOf_completed digests' short' last completed, last]

/-- The three tasks, with a digest of the length of SHA-256. -/
def digestExperiment : Experiment :=
  { platform :=
      { samplePlatform with
        canonicalJsonHash := fun _ =>
          .ok (String.ofList (List.replicate 64 'a')) }
    config := threeTasks.config
    semanticHash := String.ofList (List.replicate 64 'a')
    fullHash := String.ofList (List.replicate 64 'a')
    semanticHash_eq := rfl
    fullHash_eq := rfl }

def startedCalls : List RepositoryCall :=
  [.create digestExperiment "T",
    .transition (String.ofList (List.replicate 64 'a') ++ "-T") .running none
      none none]

theorem run_history_in_step_started :
    ((RunDirectories.performAll .empty [] startedCalls).1.map
        ExperimentRun.status) = [.planned, .running] ∧
      (RunDirectories.performAll .empty [] startedCalls).2.InStep
        (RunDirectories.performAll .empty [] startedCalls).1 := by
  have statuses : ((RunDirectories.performAll .empty [] startedCalls).1.map
      ExperimentRun.status) = [.planned, .running] := by decide +kernel
  have short : RunDirectories.Short
      (RunDirectories.performAll .empty [] startedCalls).1 := by
    intro runId
    have two := congrArg List.length statuses
    rw [List.length_map] at two
    refine (List.length_filter_le _ _).trans_lt ?_
    rw [two]
    decide
  have digests : ∀ call ∈ startedCalls, call.HasDigest := by
    intro call member
    rcases List.mem_cons.mp member with rfl | member
    · exact (by decide +kernel :
        (String.ofList (List.replicate 64 'a')).length = 64)
    · rcases List.mem_cons.mp member with rfl | member
      · trivial
      · cases member
  exact ⟨statuses, (run_history_in_step digests rfl short).1⟩

end RagBench
