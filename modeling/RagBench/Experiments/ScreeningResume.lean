import RagBench.Experiments.ScreeningProgress
import RagBench.Sessions

/-!
# Screens that are stopped and resumed

A screen may be stopped between any two operations, by an exception or by the
end of its process, and be started again any number of times.  Its file is
never rejected, no completed question is searched again, and the evaluation is
that of an uninterrupted screen, but for the latencies.
-/

namespace RagBench

/-! ## The operations of the store -/

namespace FileScreeningStore

variable {platform : Platform} {floats : FloatText}
  {reader : JsonReader.FloatReader floats} {store after : FileScreeningStore}
  {record : ScreeningRunRecord} {runId : String}

/-- The files of other runs are as they were. -/
def SameElsewhere (runId : String) (before after : FileScreeningStore) :
    Prop :=
  ∀ other, other ≠ runId → after.files.get? other = before.files.get? other

theorem SameElsewhere.trans {first second third : FileScreeningStore}
    (early : SameElsewhere runId first second)
    (late : SameElsewhere runId second third) :
    SameElsewhere runId first third :=
  fun other different => (late other different).trans (early other different)

theorem load_congr (same : after.files = store.files) :
    after.load platform reader runId = store.load platform reader runId := by
  rw [load, load, same]

variable (reader) in
/-- A checkpoint is kept, and loaded from then on. -/
theorem keep_checkpoint {α : Type} (hashes : platform.HashesCanonically floats)
    (store : FileScreeningStore) (named : record.runId = runId)
    (path : isHexDigest runId = true) (checkpoint : record.IsCheckpoint)
    (reply : α) :
    ∃ after, store.keep platform floats record reply = (.ok reply, after) ∧
      after.load platform reader runId = .ok (some record.reread) ∧
        SameElsewhere runId store after := by
  subst named
  obtain ⟨text, saved⟩ := (ScreeningRunRecord.fileText_ok_iff hashes).mpr
    ⟨checkpoint.writable, fun value member =>
      (checkpoint.latencies value member).1⟩
  have written : ({ store with
      runs := store.runs.set record.runId record } :
        FileScreeningStore).flush platform floats record = .ok _ :=
    flush_ok_iff.mpr ⟨text, saved, path, rfl⟩
  refine ⟨_, by rw [keep, written], ?_, fun other different => ?_⟩
  · have read :=
      ScreeningRunRecord.readCheckpoint_fileText reader hashes saved
    exact (load_ok_iff (by simp) read).mpr ⟨path, rfl,
      ScreeningRunRecord.isChecked_reread.mpr checkpoint.toIsChecked, rfl⟩
  · exact Dict.get?_set_of_ne _ _ (Ne.symm different)

/-- What cannot be written leaves the files as they are. -/
theorem keep_unwritable {α : Type} (store : FileScreeningStore)
    (unwritable : ¬ ∃ text, record.fileText platform floats = .ok text)
    (reply : α) :
    ∃ error after, store.keep platform floats record reply =
      (.error error, after) ∧ after.files = store.files := by
  rw [keep]
  cases written : ({ store with
      runs := store.runs.set record.runId record } :
        FileScreeningStore).flush platform floats record with
  | error error => exact ⟨error, _, rfl, rfl⟩
  | ok flushed =>
      obtain ⟨text, saved, -⟩ := flush_ok_iff.mp written
      exact absurd ⟨text, saved⟩ unwritable

/-- The record of a file is found. -/
theorem get_of_load
    (loaded : store.load platform reader runId = .ok (some record)) :
    ∃ after, store.get platform reader runId = (.ok record, after) ∧
      after.files = store.files := by
  rw [get, loaded]
  dsimp only [remember]
  rw [Dict.get?_set_self]
  exact ⟨_, rfl, rfl⟩

/-- A change of the record of a file. -/
theorem update_of_load
    (loaded : store.load platform reader runId = .ok (some record))
    (change : ScreeningRunRecord → ScreeningRunRecord) :
    ∃ middle : FileScreeningStore, middle.files = store.files ∧
      store.update platform reader runId change =
        middle.keep platform floats (change record) () := by
  obtain ⟨middle, found, same⟩ := get_of_load loaded
  refine ⟨middle, same, ?_⟩
  rw [update, found]

theorem update_checkpoint (hashes : platform.HashesCanonically floats)
    (path : isHexDigest runId = true)
    (loaded : store.load platform reader runId = .ok (some record))
    (change : ScreeningRunRecord → ScreeningRunRecord)
    (named : (change record).runId = runId)
    (checkpoint : (change record).IsCheckpoint) :
    ∃ after, store.update platform reader runId change = (.ok (), after) ∧
      after.load platform reader runId =
        .ok (some (change record).reread) ∧
        SameElsewhere runId store after := by
  obtain ⟨middle, same, updated⟩ := update_of_load loaded change
  obtain ⟨after, kept, reloaded, elsewhere⟩ := keep_checkpoint
    reader hashes middle named path checkpoint ()
  refine ⟨after, updated.trans kept, reloaded, fun other different => ?_⟩
  rw [elsewhere other different, same]

theorem update_unwritable
    (loaded : store.load platform reader runId = .ok (some record))
    (change : ScreeningRunRecord → ScreeningRunRecord)
    (unwritable : ¬ ∃ text,
      (change record).fileText platform floats = .ok text) :
    ∃ error after, store.update platform reader runId change =
        (.error error, after) ∧ after.files = store.files := by
  obtain ⟨middle, same, updated⟩ := update_of_load loaded change
  obtain ⟨error, after, kept, files⟩ :=
    keep_unwritable middle unwritable ()
  exact ⟨error, after, updated.trans kept, files.trans same⟩

/-- A run that has a file is begun anew with its record. -/
theorem begin_of_load (hashes : platform.HashesCanonically floats)
    (first : ScreeningRunRecord) (path : isHexDigest first.runId = true)
    (loaded : store.load platform reader first.runId = .ok (some record))
    (named : record.runId = first.runId)
    (config : record.configHash = first.configHash)
    (questions : record.questionSnapshotHash = first.questionSnapshotHash)
    (expected : record.expectedQuestionIds = first.expectedQuestionIds)
    (checkpoint : ∀ status, { record with status := status }.IsCheckpoint) :
    ∃ status after, store.begin platform reader first =
        (.ok { record with status := status }, after) ∧
      after.load platform reader first.runId =
        .ok (some { record with status := status }.reread) ∧
        SameElsewhere first.runId store after := by
  have resolved : ∃ status, (if record.status = .complete then record
      else { record with status := .running }) =
        { record with status := status } := by
    split_ifs
    · exact ⟨record.status, rfl⟩
    · exact ⟨.running, rfl⟩
  obtain ⟨status, resolved⟩ := resolved
  have matching : ¬ (record.configHash ≠ first.configHash ∨
      record.questionSnapshotHash ≠ first.questionSnapshotHash ∨
      record.expectedQuestionIds ≠ first.expectedQuestionIds) := by
    simp [config, questions, expected]
  obtain ⟨after, kept, reloaded, elsewhere⟩ := keep_checkpoint
    reader hashes (store.remember first.runId (some record))
    (show { record with status := status }.runId = first.runId from named)
    path (checkpoint status) { record with status := status }
  refine ⟨status, after, ?_, reloaded, elsewhere⟩
  rw [«begin», loaded]
  dsimp only [remember]
  rw [Dict.get?_set_self]
  dsimp only
  rw [if_neg matching, resolved]
  exact kept

/-- A run without a file is begun with the record of the call. -/
theorem begin_of_missing (hashes : platform.HashesCanonically floats)
    (first : ScreeningRunRecord) (path : isHexDigest first.runId = true)
    (loaded : store.load platform reader first.runId = .ok none)
    (absent : store.runs.get? first.runId = none)
    (checkpoint : first.IsCheckpoint) :
    ∃ after, store.begin platform reader first = (.ok first, after) ∧
      after.load platform reader first.runId = .ok (some first.reread) ∧
        SameElsewhere first.runId store after := by
  obtain ⟨after, kept, reloaded, elsewhere⟩ := keep_checkpoint
    reader hashes store rfl path checkpoint first
  refine ⟨after, ?_, reloaded, elsewhere⟩
  rw [«begin», loaded]
  dsimp only [remember]
  rw [absent]
  exact kept

end FileScreeningStore

/-! ## Screens -/

/-- How far the file of a run is, and what it holds. -/
abbrev ScreeningView : Type :=
  Option (ℕ × ScreeningRunRecord)

namespace Screen

variable (screen : Screen)

/-- The program of a process. -/
def program : ScreeningProgram ScreeningResult :=
  screen.runner.run screen.config screen.questions screen.binding

/-- The inputs pass the checks, and the hits of every question can be kept. -/
structure Accepted : Prop where
  inputs : screen.runner.validateInputs screen.config screen.questions = .ok ()
  retriever : screen.binding.name = screen.config.retriever
  rrf : screen.binding.rrf = screen.config.rrf
  rows : ∀ question ∈ screen.questions.questions,
    ∃ rows, screen.rowsOf question = .ok rows

section Environment

variable {floats : FloatText} (reader : JsonReader.FloatReader floats)

/-- What the operations do.  The searches of a calm screen do not raise, and
its latencies are not infinite. -/
inductive Performs (calm : Prop) (before : FileScreeningStore) :
    (op : ScreeningOp) → Except PyException op.Reply → FileScreeningStore →
      Prop where
  | begin (record : ScreeningRunRecord) :
      Performs calm before (.begin record)
        (before.begin screen.runner.platform reader record).1
        (before.begin screen.runner.platform reader record).2
  | found {query : String} {topK : ℤ} {filter : SearchFilter}
      {hits : List SearchHit} {measured : PyFloat} :
      screen.retrieve query topK filter = .ok hits →
      (calm → measured ≠ .infinity) →
      Performs calm before (.search query topK filter) (.ok (hits, measured))
        before
  | raised {query : String} {topK : ℤ} {filter : SearchFilter}
      (error : PyException) :
      ¬ calm → Performs calm before (.search query topK filter)
        (.error error) before
  | persistQuestion (runId questionId : String)
      (hits : List PersistedRankedHit) (latencyMs : PyFloat) :
      Performs calm before
        (.persistQuestion runId questionId hits latencyMs)
        (before.persistQuestion screen.runner.platform reader runId
          questionId hits latencyMs).1
        (before.persistQuestion screen.runner.platform reader runId
          questionId hits latencyMs).2
  | markInterrupted (runId : String) :
      Performs calm before (.markInterrupted runId)
        (before.markInterrupted screen.runner.platform reader runId).1
        (before.markInterrupted screen.runner.platform reader runId).2
  | get (runId : String) :
      Performs calm before (.get runId)
        (before.get screen.runner.platform reader runId).1
        (before.get screen.runner.platform reader runId).2
  | finish (runId : String) (evaluation : RetrievalEvaluation) :
      Performs calm before (.finish runId evaluation)
        (before.finish screen.runner.platform reader runId evaluation).1
        (before.finish screen.runner.platform reader runId evaluation).2

/-- The file of the run holds what the view says, and other files are as they
were. -/
structure Holds (initial store : FileScreeningStore) (view : ScreeningView) :
    Prop where
  loaded : store.load screen.runner.platform reader screen.runId =
    .ok (view.map Prod.snd)
  absent : view = none → store.runs.get? screen.runId = none
  progress : ∀ count record, view = some (count, record) →
    screen.Progress count record
  elsewhere : FileScreeningStore.SameElsewhere screen.runId initial store

end Environment

/-- The operations that a screen awaits, as far as its file is. -/
inductive Allows : ScreeningView → ScreeningOp → Prop where
  | begin (view : ScreeningView) : Allows view (.begin screen.firstRecord)
  | search {count : ℕ} {record : ScreeningRunRecord}
      {question : ScreeningQuestion} :
      screen.questions.questions[count]? = some question →
      Allows (some (count, record)) (.search question.prompt
        screen.config.topK.value screen.filter)
  | persistQuestion {count : ℕ} {record : ScreeningRunRecord}
      {question : ScreeningQuestion} {rows : List PersistedRankedHit}
      {latency : PyFloat} :
      screen.questions.questions[count]? = some question →
      screen.rowsOf question = .ok rows →
      latency.isFinite = true ∧ latency.lt (.finite 0) = false ∨
        latency = .infinity →
      Allows (some (count, record)) (.persistQuestion screen.runId
        question.questionId rows latency)
  | markInterrupted (count : ℕ) (record : ScreeningRunRecord) :
      Allows (some (count, record)) (.markInterrupted screen.runId)
  | get (count : ℕ) (record : ScreeningRunRecord) :
      Allows (some (count, record)) (.get screen.runId)
  | finish (record : ScreeningRunRecord) (evaluation : RetrievalEvaluation) :
      Allows (some (screen.questions.questions.length, record))
        (.finish screen.runId evaluation)

/-- How an outcome moves the file.  The store raises for infinite latencies
only. -/
inductive Moves (calm : Prop) : ScreeningView → (op : ScreeningOp) →
    Except PyException op.Reply → ScreeningView → Prop where
  | begun {view : ScreeningView} {first reply record : ScreeningRunRecord}
      {count : ℕ} :
      screen.Progress count record →
      reply.completedQuestionIds = record.completedQuestionIds →
      Moves calm view (.begin first) (.ok reply) (some (count, record))
  | found {view : ScreeningView} {query : String} {topK : ℤ}
      {filter : SearchFilter} {hits : List SearchHit} {measured : PyFloat} :
      screen.retrieve query topK filter = .ok hits →
      (calm → measured ≠ .infinity) →
      Moves calm view (.search query topK filter) (.ok (hits, measured)) view
  | raised {view : ScreeningView} {query : String} {topK : ℤ}
      {filter : SearchFilter} {error : PyException} :
      ¬ calm → Moves calm view (.search query topK filter) (.error error) view
  | persisted {count : ℕ} {record next : ScreeningRunRecord}
      {questionId : String} {rows : List PersistedRankedHit}
      {latency : PyFloat} :
      screen.Progress (count + 1) next →
      Moves calm (some (count, record)) (.persistQuestion screen.runId
        questionId rows latency) (.ok ()) (some (count + 1, next))
  | refused {view : ScreeningView} {questionId : String}
      {rows : List PersistedRankedHit} {error : PyException} :
      Moves calm view (.persistQuestion screen.runId questionId rows
        .infinity) (.error error) view
  | interrupted {count : ℕ} {record next : ScreeningRunRecord} :
      screen.Progress count next →
      Moves calm (some (count, record)) (.markInterrupted screen.runId)
        (.ok ()) (some (count, next))
  | got {count : ℕ} {record : ScreeningRunRecord} :
      screen.Progress count record →
      Moves calm (some (count, record)) (.get screen.runId) (.ok record)
        (some (count, record))
  | finished {count : ℕ} {record next : ScreeningRunRecord}
      {evaluation : RetrievalEvaluation} :
      screen.Progress count next → next.status = .complete →
      next.hits = record.hits →
      (∀ questionId, next.latenciesMs.get? questionId =
        record.latenciesMs.get? questionId) →
      Moves calm (some (count, record)) (.finish screen.runId evaluation)
        (.ok ()) (some (count, next))

def protocol (calm : Prop) : Program.Protocol ScreeningOp ScreeningOp.Reply
    PyException ScreeningView :=
  { allows := screen.Allows
    moves := screen.Moves calm }

variable {screen}

theorem validate_filter : screen.filter.validate = .ok screen.filter := by
  have valid := screen.config.valid
  simp only [RetrievalFields.isValid, decide_eq_true_eq,
    RetrievalFields.identity, List.all_cons, List.all_nil,
    Bool.and_true, Bool.and_eq_true] at valid
  obtain ⟨-, -, ⟨corpus, parse, -, strategy, embedding, -⟩, -⟩ := valid
  have named : ¬ ([screen.config.corpusSnapshotId,
      screen.config.parseSnapshotId, screen.config.chunkStrategy,
      screen.config.embeddingSnapshotId].any fun value =>
        strip value = "") = true := by
    simp [corpus, parse, strategy, embedding]
  have none : sortBy id ([] : List String) = [] :=
    sortBy_eq_self List.Pairwise.nil
  refine bind_eq_ok.mpr ⟨(), raiseIf_eq_ok.mpr named, ?_⟩
  change Except.ok { screen.filter with documentIds := sortBy id [] } = _
  rw [none]
  rfl

/-! ## What a screen awaits -/

section Following

variable {calm : Prop} {count : ℕ} {record : ScreeningRunRecord}

/-- A latency is not negative. -/
theorem max_zero_measured (measured : PyFloat) :
    (PyFloat.max (.finite 0) measured).isFinite = true ∧
        (PyFloat.max (.finite 0) measured).lt (.finite 0) = false ∨
      PyFloat.max (.finite 0) measured = .infinity := by
  unfold PyFloat.max
  cases measured with
  | finite value =>
      refine .inl ?_
      by_cases positive : 0 < value
      · simp [PyFloat.lt, PyFloat.isFinite, positive, positive.le]
      · simp [PyFloat.lt, PyFloat.isFinite, positive]
  | infinity => exact .inr rfl
  | negativeInfinity => exact .inl ⟨rfl, rfl⟩
  | nan => exact .inl ⟨rfl, rfl⟩

theorem max_zero_infinity {measured : PyFloat}
    (infinite : PyFloat.max (.finite 0) measured = .infinity) :
    measured = .infinity := by
  unfold PyFloat.max at infinite
  split_ifs at infinite
  exact infinite

/-- After a question the file is one question further, or as it was. -/
theorem question_follows {question : ScreeningQuestion}
    (next : screen.questions.questions[count]? = some question)
    (accepted : calm → ∃ rows, screen.rowsOf question = .ok rows) :
    (RetrievalScreenRunner.screenQuestion screen.config screen.runId
      screen.filter question).Follows (screen.protocol calm)
      (fun outcome view =>
        match outcome with
        | .ok () => ∃ record', view = some (count + 1, record') ∧
            screen.Progress (count + 1) record'
        | .error _ => ¬ calm ∧ view = some (count, record))
      (some (count, record)) := by
  refine Program.Follows.await (.search next) ?_ ?_
  · rintro ⟨hits, measured⟩ after moved
    obtain ⟨found, finite⟩ : screen.retrieve question.prompt
        screen.config.topK.value screen.filter = .ok hits ∧
          (calm → measured ≠ .infinity) ∧ after = some (count, record) := by
      cases moved with
      | found found finite => exact ⟨found, finite, rfl⟩
    obtain ⟨finite, rfl⟩ := finite
    refine Program.Follows.check ?_ ?_
    · intro rows persisted
      have kept : screen.rowsOf question = .ok rows :=
        bind_eq_ok.mpr ⟨hits, found, persisted⟩
      refine Program.follows_await.mpr ⟨.persistQuestion next kept
        (max_zero_measured measured), ?_⟩
      intro outcome last moved
      generalize latency : PyFloat.max (.finite 0) measured = elapsed at moved
      cases moved with
      | persisted progress => exact ⟨_, rfl, progress⟩
      | refused =>
          exact ⟨fun calm => finite calm (max_zero_infinity latency), rfl⟩
    · intro error rejected
      refine ⟨fun calm => ?_, rfl⟩
      obtain ⟨rows, kept⟩ := accepted calm
      obtain ⟨others, same, persisted⟩ := bind_eq_ok.mp kept
      obtain rfl := Except.ok.inj (found.symm.trans same)
      rw [persisted] at rejected
      cases rejected
  · intro error after moved
    cases moved with
    | raised disturbed => exact ⟨disturbed, rfl⟩

/-- Completed questions are skipped. -/
theorem screenQuestions_skip {completed : Finset String}
    {first rest : List ScreeningQuestion}
    (done : ∀ question ∈ first, question.questionId ∈ completed) :
    RetrievalScreenRunner.screenQuestions screen.config screen.runId
        screen.filter completed (first ++ rest) =
      RetrievalScreenRunner.screenQuestions screen.config screen.runId
        screen.filter completed rest := by
  induction first with
  | nil => rfl
  | cons question first induction =>
      obtain ⟨here, later⟩ := List.forall_mem_cons.mp done
      rw [List.cons_append, RetrievalScreenRunner.screenQuestions,
        if_pos here, induction later]

/-- After the loop the file holds all questions, or the screen was not
calm. -/
def AfterLoop (screen : Screen) (calm : Prop) :
    Except PyException Unit → ScreeningView → Prop
  | .ok (), view => ∃ record,
      view = some (screen.questions.questions.length, record)
  | .error _, view => ¬ calm ∧ ∃ count record, view = some (count, record)

variable (record) in
theorem loop_follows {completed : Finset String}
    {rest : List ScreeningQuestion}
    (left : screen.questions.questions.drop count = rest)
    (within : count ≤ screen.questions.questions.length)
    (fresh : ∀ question ∈ rest, question.questionId ∉ completed)
    (accepted : calm → ∀ question ∈ rest,
      ∃ rows, screen.rowsOf question = .ok rows) :
    (RetrievalScreenRunner.screenQuestions screen.config screen.runId
      screen.filter completed rest).Follows (screen.protocol calm)
      (screen.AfterLoop calm) (some (count, record)) := by
  induction rest generalizing count record with
  | nil =>
      have all := List.drop_eq_nil_iff.mp left
      exact ⟨record, by rw [le_antisymm within all]⟩
  | cons question rest induction =>
      obtain ⟨here, later⟩ := List.forall_mem_cons.mp fresh
      have next : screen.questions.questions[count]? = some question := by
        rw [← List.head?_drop, left, List.head?_cons]
      have after : screen.questions.questions.drop (count + 1) = rest := by
        rw [← List.tail_drop, left, List.tail_cons]
      rw [RetrievalScreenRunner.screenQuestions, if_neg here]
      refine Program.Follows.bind (question_follows next fun calm =>
        accepted calm question List.mem_cons_self) ?_ ?_
      · rintro ⟨⟩ view ⟨record', rfl, -⟩
        refine induction record' after ?_ later fun calm other member =>
          accepted calm other (List.mem_cons_of_mem _ member)
        exact (List.getElem?_eq_some_iff.mp next).1
      · rintro error view ⟨disturbed, rfl⟩
        exact ⟨disturbed, count, record, rfl⟩

end Following

end Screen

end RagBench
