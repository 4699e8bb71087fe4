import RagBench.Core.MarkedHash
import RagBench.Experiments.ScreeningEvaluation
import RagBench.Experiments.ScreeningResume

/-!
# Screens that come to their end

Each operation does to the file what the protocol says, and what is left of a
store that was stopped is a store on which the screen can be started again.
-/

namespace RagBench

namespace Screen

variable {screen : Screen} {calm : Prop}

/-! ## From the start to the evaluation -/

/-- The file holds the whole screen when a result is returned. -/
def Ends (screen : Screen) (calm : Prop) :
    Except PyException ScreeningResult → ScreeningView → Prop
  | .ok result, view => result.runId = screen.runId ∧ ∃ record,
      view = some (screen.questions.questions.length, record) ∧
        screen.Progress screen.questions.questions.length record ∧
        record.status = .complete ∧
        screen.runner.evaluateRun screen.config screen.questions record =
          .ok result.evaluation
  | .error _, _ => ¬ calm

/-- The questions that are left are searched, and a screen that is stopped by
an exception is marked. -/
theorem questions_follows {count : ℕ} {record : ScreeningRunRecord}
    {completed : Finset String}
    (progress : screen.Progress count record)
    (known : completed = record.completedQuestionIds)
    (accepted : calm → screen.Accepted) :
    (tryCatch
      (RetrievalScreenRunner.screenQuestions screen.config screen.runId
        screen.filter completed screen.questions.questions)
      fun error => do
        Program.await (ScreeningOp.markInterrupted screen.runId)
        throw error : ScreeningProgram Unit).Follows (screen.protocol calm)
      (fun outcome view =>
        match outcome with
        | .ok () => ∃ record,
            view = some (screen.questions.questions.length, record)
        | .error _ => ¬ calm)
      (some (count, record)) := by
  subst known
  have split : screen.questions.questions =
      screen.questions.questions.take count ++
        screen.questions.questions.drop count :=
    (List.take_append_drop _ _).symm
  have distinct := screen.questions.distinct
  rw [split, List.map_append, List.nodup_append] at distinct
  have done : ∀ question ∈ screen.questions.questions.take count,
      question.questionId ∈ record.completedQuestionIds := by
    intro question member
    rw [progress.completed, List.mem_toFinset]
    exact List.mem_map_of_mem member
  have fresh : ∀ question ∈ screen.questions.questions.drop count,
      question.questionId ∉ record.completedQuestionIds := by
    intro question member
    rw [progress.completed, List.mem_toFinset]
    exact fun again =>
      distinct.2.2 _ again _ (List.mem_map_of_mem member) rfl
  have loop := loop_follows record rfl progress.within fresh
    fun calm question member =>
      (accepted calm).rows question (List.mem_of_mem_drop member)
  rw [← screenQuestions_skip done, ← split] at loop
  refine Program.Follows.catching loop ?_ ?_
  · rintro ⟨⟩ view ⟨record', rfl⟩
    exact ⟨record', rfl⟩
  · rintro error view ⟨disturbed, count', record', rfl⟩
    refine Program.Follows.await (.markInterrupted count' record') ?_ ?_
    · intro _ _ _
      exact disturbed
    · intro _ _ _
      exact disturbed

/-- The program of a process keeps to the protocol. -/
theorem program_follows (accepted : calm → screen.Accepted)
    (view : ScreeningView) :
    screen.program.Follows (screen.protocol calm) (screen.Ends calm) view := by
  refine Program.Follows.check (fun _ _ => ?_) fun error rejected calm => ?_
  case refine_2 => rw [(accepted calm).inputs] at rejected; cases rejected
  refine Program.Follows.check (fun _ _ => ?_) fun error rejected calm => ?_
  case refine_2 =>
    rw [raiseIf, if_neg (not_not.mpr (accepted calm).retriever)] at rejected
    cases rejected
  refine Program.Follows.check (fun _ _ => ?_) fun error rejected calm => ?_
  case refine_2 =>
    rw [raiseIf, if_neg (not_not.mpr (accepted calm).rrf)] at rejected
    cases rejected
  refine Program.Follows.known screen.hashed ?_
  refine Program.Follows.known screen.identified ?_
  refine Program.Follows.await (.begin view) ?_ fun error after moved => ?_
  case refine_2 => cases moved
  intro started after moved
  obtain ⟨count, record, rfl, progress, known⟩ : ∃ count record,
      after = some (count, record) ∧ screen.Progress count record ∧
        started.completedQuestionIds = record.completedQuestionIds := by
    cases moved with
    | begun progress known => exact ⟨_, _, rfl, progress, known⟩
  refine Program.Follows.known screen.validate_filter ?_
  refine Program.Follows.bind (questions_follows progress known accepted) ?_
    fun error after disturbed => disturbed
  rintro ⟨⟩ view ⟨record', rfl⟩
  refine Program.Follows.await (.get _ record') ?_ fun error after moved => ?_
  case refine_2 => cases moved
  intro stored after moved
  obtain ⟨progress', rfl, rfl⟩ :
      screen.Progress screen.questions.questions.length record' ∧
        stored = record' ∧
        after = some (screen.questions.questions.length, record') := by
    cases moved with
    | got progress => exact ⟨progress, rfl, rfl⟩
  obtain ⟨evaluation, evaluated⟩ := progress'.evaluates
  refine Program.Follows.known evaluated ?_
  refine Program.Follows.await (.finish _ evaluation) ?_
    fun error after moved => ?_
  case refine_2 => cases moved
  rintro ⟨⟩ after moved
  cases moved with
  | finished progress complete hits latencies =>
      refine ⟨rfl, _, rfl, progress, complete, ?_⟩
      exact (evaluateRun_congr _ _ _ hits latencies).trans evaluated

/-! ## What the operations do to the file -/

section Environment

variable {floats : FloatText} {reader : JsonReader.FloatReader floats}
  {initial before after : FileScreeningStore} {view : ScreeningView}

/-- The hash of a run is the name of its file. -/
theorem runId_isHexDigest
    (hashes : screen.runner.platform.HashesCanonically floats)
    (hex : ∀ bytes,
      isHexDigest (screen.runner.platform.sha256Hex bytes) = true) :
    isHexDigest screen.runId = true := by
  have identified := screen.identified
  rw [RetrievalScreenRunner.runIdentity, hashes] at identified
  obtain ⟨text, -, same⟩ := bind_eq_ok.mp identified
  rw [← Except.ok.inj same]
  exact hex _

theorem Holds.ofFiles (holds : screen.Holds reader initial before view)
    (kept : view ≠ none) (same : after.files = before.files) :
    screen.Holds reader initial after view :=
  { loaded := (FileScreeningStore.load_congr same).trans holds.loaded
    absent := fun missing => absurd missing kept
    progress := holds.progress
    elsewhere := holds.elsewhere.trans fun other _ => by rw [same] }

/-- A new record in the file of the run. -/
theorem Holds.move {count : ℕ} {record : ScreeningRunRecord}
    (holds : screen.Holds reader initial before view)
    (loaded : after.load screen.runner.platform reader screen.runId =
      .ok (some record))
    (progress : screen.Progress count record)
    (elsewhere : FileScreeningStore.SameElsewhere screen.runId before after) :
    screen.Holds reader initial after (some (count, record)) where
  loaded := loaded
  absent missing := by cases missing
  progress _ _ same := by
    cases same
    exact progress
  elsewhere := holds.elsewhere.trans elsewhere

variable (hashes : screen.runner.platform.HashesCanonically floats)
  (path : isHexDigest screen.runId = true)
include hashes path

/-- The run is begun with its record, or with that of its file. -/
theorem Holds.begin (holds : screen.Holds reader initial before view) :
    ∃ moved, screen.Moves calm view (.begin screen.firstRecord)
        (before.begin screen.runner.platform reader screen.firstRecord).1
        moved ∧
      screen.Holds reader initial
        (before.begin screen.runner.platform reader screen.firstRecord).2
        moved := by
  have loaded := holds.loaded
  cases view with
  | none =>
      obtain ⟨after, begun, reloaded, elsewhere⟩ :=
        FileScreeningStore.begin_of_missing hashes
          screen.firstRecord path loaded (holds.absent rfl)
          progress_firstRecord.isCheckpoint
      rw [begun]
      exact ⟨_, .begun progress_firstRecord.reread rfl,
        holds.move reloaded progress_firstRecord.reread elsewhere⟩
  | some held =>
      obtain ⟨count, record⟩ := held
      have progress := holds.progress count record rfl
      obtain ⟨status, after, begun, reloaded, elsewhere⟩ :=
        FileScreeningStore.begin_of_load hashes
          screen.firstRecord path loaded progress.runId
          progress.configHash progress.questions progress.expected
          fun status => (progress.withStatus status _).isCheckpoint
      have next := (progress.withStatus status record.evaluation).reread
      rw [begun]
      exact ⟨_, .begun next rfl, holds.move reloaded next elsewhere⟩

/-- The rows of the next question are kept, unless the latency is infinite. -/
theorem Holds.persist {count : ℕ} {record : ScreeningRunRecord}
    {question : ScreeningQuestion} {rows : List PersistedRankedHit}
    {latency : PyFloat}
    (holds : screen.Holds reader initial before (some (count, record)))
    (next : screen.questions.questions[count]? = some question)
    (found : screen.rowsOf question = .ok rows)
    (measured : latency.isFinite = true ∧ latency.lt (.finite 0) = false ∨
      latency = .infinity) :
    ∃ moved, screen.Moves calm (some (count, record))
        (.persistQuestion screen.runId question.questionId rows latency)
        (before.persistQuestion screen.runner.platform reader screen.runId
          question.questionId rows latency).1 moved ∧
      screen.Holds reader initial
        (before.persistQuestion screen.runner.platform reader screen.runId
          question.questionId rows latency).2 moved := by
  have progress := holds.progress count record rfl
  have fresh := progress.fresh next
  rcases measured with measured | rfl
  · have later := progress.persisted next found measured
    have changed := FileScreeningStore.update_checkpoint hashes path
      holds.loaded
      (fun run =>
        if question.questionId ∈ run.completedQuestionIds then run
        else
          { run with
            hits := run.hits ++ rows
            latenciesMs := run.latenciesMs.set question.questionId latency
            completedQuestionIds :=
              insert question.questionId run.completedQuestionIds })
    rw [if_neg fresh] at changed
    obtain ⟨after, updated, reloaded, elsewhere⟩ :=
      changed later.runId later.isCheckpoint
    rw [FileScreeningStore.persistQuestion, updated]
    exact ⟨_, .persisted later.reread,
      holds.move reloaded later.reread elsewhere⟩
  · obtain ⟨error, after, updated, same⟩ :=
      FileScreeningStore.update_unwritable
        holds.loaded
        (fun run =>
          if question.questionId ∈ run.completedQuestionIds then run
          else
            { run with
              hits := run.hits ++ rows
              latenciesMs :=
                run.latenciesMs.set question.questionId .infinity
              completedQuestionIds :=
                insert question.questionId run.completedQuestionIds })
        (by
          rw [if_neg fresh, ScreeningRunRecord.fileText_ok_iff hashes]
          rintro ⟨-, finite⟩
          cases finite .infinity
            (Dict.mem_values_of_get? _ (Dict.get?_set_self _ _ _)))
    rw [FileScreeningStore.persistQuestion, updated]
    exact ⟨_, .refused, holds.ofFiles (by simp) same⟩

/-- An update that changes neither hits nor latencies. -/
theorem Holds.update {count : ℕ} {record : ScreeningRunRecord}
    (holds : screen.Holds reader initial before (some (count, record)))
    (status : ScreeningStatus)
    (evaluation : ScreeningRunRecord → Option RetrievalEvaluation) :
    ∃ after, before.update screen.runner.platform reader screen.runId
        (fun run => { run with
          status := status, evaluation := evaluation run }) =
        (.ok (), after) ∧
      screen.Holds reader initial after (some (count, { record with
        status := status, evaluation := evaluation record }.reread)) := by
  have progress := holds.progress count record rfl
  have next := progress.withStatus status (evaluation record)
  obtain ⟨after, updated, reloaded, elsewhere⟩ :=
    FileScreeningStore.update_checkpoint hashes path holds.loaded
      (fun run => { run with
        status := status, evaluation := evaluation run })
      next.runId next.isCheckpoint
  exact ⟨after, updated, holds.move reloaded next.reread elsewhere⟩

/-- An operation that is allowed keeps the file in step with its view. -/
theorem Holds.keep {op : ScreeningOp} {outcome : Except PyException op.Reply}
    (holds : screen.Holds reader initial before view)
    (allowed : screen.Allows view op)
    (performed : screen.Performs reader calm before op outcome after) :
    ∃ moved, screen.Moves calm view op outcome moved ∧
      screen.Holds reader initial after moved := by
  cases allowed with
  | begin view =>
      cases performed with
      | begin => exact holds.begin hashes path
  | search next =>
      cases performed with
      | found found finite => exact ⟨_, .found found finite, holds⟩
      | raised error disturbed => exact ⟨_, .raised disturbed, holds⟩
  | persistQuestion next found measured =>
      cases performed with
      | persistQuestion =>
          exact holds.persist hashes path next found measured
  | markInterrupted count record =>
      cases performed with
      | markInterrupted =>
          obtain ⟨after, updated, held⟩ :=
            holds.update hashes path .interrupted
              ScreeningRunRecord.evaluation
          rw [FileScreeningStore.markInterrupted, updated]
          exact ⟨_, .interrupted (held.progress _ _ rfl), held⟩
  | get count record =>
      cases performed with
      | get =>
          obtain ⟨after, found, same⟩ :=
            FileScreeningStore.get_of_load holds.loaded
          rw [found]
          exact ⟨_, .got (holds.progress _ _ rfl),
            holds.ofFiles (by simp) same⟩
  | finish record evaluation =>
      cases performed with
      | finish =>
          obtain ⟨after, updated, held⟩ :=
            holds.update hashes path .complete fun _ => some evaluation
          rw [FileScreeningStore.finish, updated]
          exact ⟨_, .finished (held.progress _ _ rfl) rfl rfl
            (Dict.get?_sorted _), held⟩

omit hashes path

/-- A new process finds the file as it was left. -/
theorem Holds.reopened (holds : screen.Holds reader initial before view) :
    screen.Holds reader initial before.reopened view where
  loaded := (FileScreeningStore.load_congr rfl).trans holds.loaded
  absent _ := rfl
  progress := holds.progress
  elsewhere := holds.elsewhere

theorem Performs.disturbed {calm : Prop} {op : ScreeningOp}
    {outcome : Except PyException op.Reply}
    (performed : screen.Performs reader calm before op outcome after) :
    screen.Performs reader False before op outcome after := by
  cases performed with
  | begin record => exact .begin record
  | found found _ => exact .found found False.elim
  | raised error _ => exact .raised error id
  | persistQuestion => exact .persistQuestion _ _ _ _
  | markInterrupted => exact .markInterrupted _
  | get => exact .get _
  | finish => exact .finish _ _

/-- Nothing keeps a calm screen from going on. -/
theorem Accepted.able (accepted : screen.Accepted) {op : ScreeningOp}
    (allowed : screen.Allows view op) :
    ∃ outcome after, screen.Performs reader True before op outcome after := by
  cases allowed with
  | begin => exact ⟨_, _, .begin _⟩
  | search next =>
      obtain ⟨rows, kept⟩ := accepted.rows _ (List.mem_of_getElem? next)
      obtain ⟨hits, found, -⟩ := bind_eq_ok.mp kept
      exact ⟨.ok (hits, .finite 0), _, .found found fun _ => by simp⟩
  | persistQuestion => exact ⟨_, _, .persistQuestion _ _ _ _⟩
  | markInterrupted => exact ⟨_, _, .markInterrupted _⟩
  | get => exact ⟨_, _, .get _⟩
  | finish => exact ⟨_, _, .finish _ _⟩

/-! ## Runs -/

variable (screen) (reader) in
/-- The screen is stopped anywhere and started again, any number of times. -/
abbrev Runs (initial : FileScreeningStore)
    (events : List (ProcessEvent ScreeningOp ScreeningOp.Reply PyException))
    (finish : Process ScreeningOp ScreeningOp.Reply PyException
      ScreeningResult FileScreeningStore) : Prop :=
  Run (Process.Step (screen.Performs reader False)
    FileScreeningStore.reopened (· = screen.program))
    ⟨initial, screen.program⟩ events finish

variable (screen) (reader) in
/-- The file holds the whole screen and the result is its evaluation. -/
def Completed (store : FileScreeningStore) (result : ScreeningResult) :
    Prop :=
  result.runId = screen.runId ∧ ∃ record,
    store.load screen.runner.platform reader screen.runId =
      .ok (some record) ∧
    screen.Progress screen.questions.questions.length record ∧
    record.status = .complete ∧
    screen.runner.evaluateRun screen.config screen.questions record =
      .ok result.evaluation

variable (screen) in
/-- The run has neither a file nor a record. -/
def Unused (store : FileScreeningStore) : Prop :=
  store.files.get? screen.runId = none ∧ store.runs.get? screen.runId = none

variable {finish : Process ScreeningOp ScreeningOp.Reply PyException
    ScreeningResult FileScreeningStore}
  {events : List (ProcessEvent ScreeningOp ScreeningOp.Reply PyException)}

theorem holds_unused (path : isHexDigest screen.runId = true)
    (unused : screen.Unused initial) :
    screen.Holds reader initial initial none where
  loaded := by
    rw [FileScreeningStore.load, FileScreeningStore.checkPath,
      raiseIf_bind (by simp [path]), unused.1]
    rfl
  absent _ := unused.2
  progress _ _ same := by cases same
  elsewhere _ _ := rfl

/-- Whatever has happened, the file is in step with some view. -/
theorem Runs.holds
    (hashes : screen.runner.platform.HashesCanonically floats)
    (hex : ∀ bytes,
      isHexDigest (screen.runner.platform.sha256Hex bytes) = true)
    (unused : screen.Unused initial)
    (run : screen.Runs reader initial events finish) :
    ∃ view, screen.Holds reader initial finish.state view ∧
      finish.task.Follows (screen.protocol False) (screen.Ends False)
        view := by
  have path := runId_isHexDigest hashes hex
  refine Process.run_follows run _ _ (screen.Holds reader initial) ?_ ?_ ?_
  · exact ⟨none, holds_unused path unused,
      program_follows False.elim none⟩
  · intro before view op outcome after holds allowed performed
    exact holds.keep hashes path allowed performed
  · rintro state view program holds rfl
    exact ⟨view, holds.reopened, program_follows False.elim view⟩

/-- What has ended has come to its end. -/
theorem Holds.completed {calm : Prop} {result : ScreeningResult}
    (holds : screen.Holds reader initial before view)
    (ended : screen.Ends calm (.ok result) view) :
    screen.Completed reader before result := by
  obtain ⟨named, record, rfl, progress, complete, evaluated⟩ := ended
  exact ⟨named, record, holds.loaded, progress, complete, evaluated⟩

/-- An accepted screen begins its run. -/
theorem Accepted.first (accepted : screen.Accepted) :
    ∃ next, screen.program = .call (.begin screen.firstRecord) next := by
  rw [program, RetrievalScreenRunner.run, accepted.inputs, raiseIf,
    if_neg (not_not.mpr accepted.retriever), raiseIf,
    if_neg (not_not.mpr accepted.rrf), screen.hashed]
  change ∃ next, (Program.fromExcept (screen.runner.runIdentity
    screen.questions screen.configHash) >>= _ :
      ScreeningProgram ScreeningResult) = _
  rw [screen.identified]
  exact ⟨_, rfl⟩

variable (reader) in
/-- After a stop a calm screen goes on to its result. -/
theorem Accepted.resumes (accepted : screen.Accepted)
    (hashes : screen.runner.platform.HashesCanonically floats)
    (hex : ∀ bytes,
      isHexDigest (screen.runner.platform.sha256Hex bytes) = true)
    (unused : screen.Unused initial)
    (run : screen.Runs reader initial events finish) :
    ∃ later last result, screen.Runs reader initial later last ∧
      last.task = .ret result := by
  have path := runId_isHexDigest hashes hex
  obtain ⟨view, holds, -⟩ := run.holds hashes hex unused
  have follows : screen.program.Follows (screen.protocol True)
      (screen.Ends True) view :=
    program_follows (fun _ => accepted) view
  have keep : ∀ before view op outcome after,
      screen.Holds reader initial before view → screen.Allows view op →
      screen.Performs reader True before op outcome after →
      ∃ moved, screen.Moves True view op outcome moved ∧
        screen.Holds reader initial after moved :=
    fun _ _ _ _ _ holds allowed performed =>
      holds.keep hashes path allowed performed
  obtain ⟨later, outcome, last, executed⟩ := Program.Follows.executes _
    follows holds.reopened keep fun _ _ _ _ allowed => accepted.able allowed
  obtain ⟨view', -, ended⟩ := executed.ends _ follows holds.reopened keep
  cases outcome with
  | error error => exact absurd trivial ended
  | ok result =>
      exact ⟨_, ⟨last, .ret result⟩, result,
        .append (.snoc run (.restarted rfl))
          (executed.run (fun _ _ _ _ => Performs.disturbed) _ _), rfl⟩

end Environment

/-! ## A screen of two questions -/

def sampleConfig : RetrievalExperimentConfig where
  corpusSnapshotId := "corpus"
  parseSnapshotId := "parse"
  parseMode := .standard
  chunkSnapshotId := "chunk"
  chunkStrategy := "fixed-300-0"
  embeddingSnapshotId := "embedding"
  retriever := .bm25
  rrf := none
  topK := .three
  questionSnapshotId := "dev"
  randomSeed := 0
  codeCommit := "0123456"
  valid := by decide

def sampleQuestions : List ScreeningQuestion :=
  [⟨"q1", "first?", "fact", ["c1"], by decide, by decide⟩,
    ⟨"q2", "second?", "fact", ["c3"], by decide, by decide⟩]

def sampleSnapshot : ScreeningQuestionSnapshot hexPlatform where
  snapshotId := "dev"
  split := "dev_auto"
  contentHash := hexHash (questionContent "dev_auto" sampleQuestions)
  complete := true
  questions := sampleQuestions
  identified := by
    refine ⟨by decide, ?_⟩
    rw [hexHash, sampleHexSha256, String.length_ofList, List.length_map,
      List.length_range]
  distinct := by decide
  hashed := hexPlatform_hash (by decide)

def sampleRunner : RetrievalScreenRunner where
  platform := hexPlatform
  inventory :=
    { corpus := ⟨"corpus", none, none, true⟩
      parse := ⟨"parse", some "corpus", some "standard", true⟩
      chunk := ⟨"chunk", some "parse", some "fixed-300-0", true⟩
      embedding := ⟨"embedding", some "chunk", some "fixed-300-0", true⟩ }
  developmentAuthorization :=
    { snapshotId := "dev"
      membershipHash :=
        hexHash (.array (sampleSnapshot.sortedIds.map .str))
      isGenuine := true }

def sampleHits : List SearchHit :=
  [⟨"c1", .finite 1, 1, "bm25", none⟩,
    ⟨"c2", .finite (1 / 2), 2, "bm25", none⟩]

def sampleScreen : Screen where
  runner := sampleRunner
  config := sampleConfig
  questions := sampleSnapshot
  binding := ⟨.bm25, none, by decide⟩
  retrieve := fun _ _ _ => .ok sampleHits
  configHash := hexHash sampleConfig.modelDump
  runId := hexHash (.object
    [("kind", .str "retrieval-screen-run-v1"),
      ("config_hash", .str (hexHash sampleConfig.modelDump)),
      ("question_snapshot_id", .str sampleSnapshot.snapshotId),
      ("question_content_hash", .str sampleSnapshot.contentHash)])
  hashed := hexPlatform_hash (by decide)
  identified := hexPlatform_hash rfl

theorem sampleScreen_accepted : sampleScreen.Accepted where
  inputs := by
    have hashed : sampleScreen.runner.platform.canonicalJsonHash
        (.array (sampleScreen.questions.sortedIds.map .str)) =
          .ok (hexHash (.array (sampleSnapshot.sortedIds.map .str))) :=
      hexPlatform_hash (Json.compliant_texts _)
    rw [RetrievalScreenRunner.validateInputs]
    dsimp only
    rw [raiseIf_bind (by decide), raiseIf_bind (by decide),
      raiseIf_bind (by decide)]
    have authorized : ¬ sampleRunner.developmentAuthorization.membershipHash ≠
        hexHash (.array (sampleSnapshot.sortedIds.map .str)) :=
      not_not.mpr rfl
    rw [hashed]
    change (raiseIf (sampleRunner.developmentAuthorization.membershipHash ≠
      hexHash (.array (sampleSnapshot.sortedIds.map .str))) _ >>=
        fun _ => _) = _
    rw [raiseIf_bind authorized]
    rfl
  retriever := rfl
  rrf := rfl
  rows question _ := by
    exact ⟨sampleHits.map (persistedHit question.questionId),
      bind_eq_ok.mpr ⟨sampleHits, rfl, rfl⟩⟩

/-! ## Results -/

section Results

variable {floats : FloatText} {reader : JsonReader.FloatReader floats}

/-- Wherever a screen was stopped, its file is accepted and holds the rows of
the first questions, no other file has changed, the next search is for the
first question that is left, and a result is the evaluation of the file. -/
theorem stopped_anywhere
    (hashes : screen.runner.platform.HashesCanonically floats)
    (hex : ∀ bytes,
      isHexDigest (screen.runner.platform.sha256Hex bytes) = true)
    {initial : FileScreeningStore}
    {finish : Process ScreeningOp ScreeningOp.Reply PyException
      ScreeningResult FileScreeningStore}
    {events : List (ProcessEvent ScreeningOp ScreeningOp.Reply PyException)}
    (unused : screen.Unused initial)
    (run : screen.Runs reader initial events finish) :
    (∃ stored, finish.state.load screen.runner.platform reader screen.runId =
        .ok stored ∧
      ∀ record ∈ stored, ∃ count, screen.Progress count record) ∧
    FileScreeningStore.SameElsewhere screen.runId initial finish.state ∧
    (∀ query topK filter next,
      finish.task = .call (.search query topK filter) next →
      ∃ record question, finish.state.load screen.runner.platform reader
          screen.runId = .ok (some record) ∧
        screen.questions.questions.find? (fun question =>
          question.questionId ∉ record.completedQuestionIds) =
            some question ∧
        query = question.prompt) ∧
    ∀ result, finish.task = .ret result →
      screen.Completed reader finish.state result := by
  obtain ⟨view, holds, follows⟩ := run.holds hashes hex unused
  refine ⟨⟨_, holds.loaded, ?_⟩, holds.elsewhere, ?_, ?_⟩
  · intro record member
    obtain ⟨held, rfl, rfl⟩ := Option.mem_map.mp member
    exact ⟨held.1, holds.progress _ _ rfl⟩
  · intro query topK filter next pending
    rw [pending] at follows
    obtain ⟨allowed, -⟩ := follows
    cases allowed with
    | @search count record question following =>
        have progress := holds.progress count record rfl
        refine ⟨record, question, holds.loaded, ?_, rfl⟩
        exact progress.find?_next following
  · intro result ended
    rw [ended] at follows
    exact holds.completed follows

/-- One that was stopped when it had just begun. -/
theorem sample_screen_stopped : ∃ events finish result,
    sampleScreen.Runs JsonReader.sampleReader {} events finish ∧
      sampleScreen.Completed JsonReader.sampleReader finish.state result := by
  have hashes : sampleScreen.runner.platform.HashesCanonically sampleFloats :=
    fun _ => rfl
  have unused : sampleScreen.Unused {} := ⟨rfl, rfl⟩
  obtain ⟨next, call⟩ := sampleScreen_accepted.first
  obtain ⟨events, finish, result, run, ended⟩ :=
    sampleScreen_accepted.resumes JsonReader.sampleReader hashes
      sampleHexSha256_isHexDigest unused
      (.single (.awaited call (.begin _)))
  exact ⟨events, finish, result, run,
    (stopped_anywhere hashes sampleHexSha256_isHexDigest unused
      run).2.2.2 result ended⟩

/-- However two screens were stopped, and whatever stores they began with,
their results are the same but for the latencies. -/
theorem results_agree
    (hashes : screen.runner.platform.HashesCanonically floats)
    (hex : ∀ bytes,
      isHexDigest (screen.runner.platform.sha256Hex bytes) = true)
    {initial other : FileScreeningStore}
    {finish last : Process ScreeningOp ScreeningOp.Reply PyException
      ScreeningResult FileScreeningStore}
    {events events' :
      List (ProcessEvent ScreeningOp ScreeningOp.Reply PyException)}
    {first second : ScreeningResult}
    (unused : screen.Unused initial) (unused' : screen.Unused other)
    (run : screen.Runs reader initial events finish)
    (run' : screen.Runs reader other events' last)
    (ended : finish.task = .ret first) (ended' : last.task = .ret second) :
    first.runId = second.runId ∧
      first.evaluation.SameButLatency second.evaluation := by
  obtain ⟨view, holds, follows⟩ := run.holds hashes hex unused
  obtain ⟨view', holds', follows'⟩ := run'.holds hashes hex unused'
  rw [ended] at follows
  rw [ended'] at follows'
  obtain ⟨named, record, -, progress, -, evaluated⟩ := holds.completed follows
  obtain ⟨named', record', -, progress', -, evaluated'⟩ :=
    holds'.completed follows'
  exact ⟨named.trans named'.symm,
    progress.sameEvaluation progress' evaluated evaluated'⟩

/-- One was stopped when it had just begun, the other before. -/
theorem sample_results_agree : ∃ events finish events' last first second,
    sampleScreen.Runs JsonReader.sampleReader {} events finish ∧
      sampleScreen.Runs JsonReader.sampleReader {} events' last ∧
      finish.task = .ret first ∧ last.task = .ret second ∧
      first.runId = second.runId ∧
      first.evaluation.SameButLatency second.evaluation := by
  have hashes : sampleScreen.runner.platform.HashesCanonically sampleFloats :=
    fun _ => rfl
  have unused : sampleScreen.Unused {} := ⟨rfl, rfl⟩
  obtain ⟨next, call⟩ := sampleScreen_accepted.first
  obtain ⟨events, finish, first, run, ended⟩ :=
    sampleScreen_accepted.resumes JsonReader.sampleReader hashes
      sampleHexSha256_isHexDigest unused
      (.single (.awaited call (.begin _)))
  obtain ⟨events', last, second, run', ended'⟩ :=
    sampleScreen_accepted.resumes JsonReader.sampleReader hashes
      sampleHexSha256_isHexDigest unused .refl
  exact ⟨events, finish, events', last, first, second, run, run', ended,
    ended', results_agree hashes sampleHexSha256_isHexDigest unused unused
      run run' ended ended'⟩

end Results

end Screen

end RagBench
