import RagBench.Experiments.ScreeningCheckpoint

/-!
# How far a screen has come

Whatever has happened, the record of a run holds the rows of the first
questions of its snapshot.  Writing the rows of the next question brings it one
question further; nothing else changes its rows.
-/

namespace RagBench

/-! ## The rows of a question -/

/-- What the screen has checked of the rows. -/
theorem persistableHits_inv {questionId : String} {hits : List SearchHit}
    {topK : ℤ} {name : RetrieverName} {rows : List PersistedRankedHit}
    (persisted : persistableHits questionId hits topK name = .ok rows) :
    rows = hits.map (persistedHit questionId) ∧
      IsRanking hits ∧ (∀ hit ∈ hits, hit.score.isFinite = true) ∧
        ∀ hit ∈ hits, hit.evidence = none ∨ isComponentEvidence hit := by
  obtain ⟨_, -, persisted⟩ := bind_eq_ok.mp persisted
  obtain ⟨_, ranked, persisted⟩ := bind_eq_ok.mp persisted
  obtain ⟨_, finite, persisted⟩ := bind_eq_ok.mp persisted
  obtain ⟨_, -, persisted⟩ := bind_eq_ok.mp persisted
  obtain ⟨ranks, distinct⟩ := not_or.mp (raiseIf_eq_ok.mp ranked)
  have finite := raiseIf_eq_ok.mp finite
  simp only [List.any_eq_true, decide_eq_true_eq, not_exists, not_and,
    not_not] at finite
  have ranking : IsRanking hits := by
    refine ⟨not_not.mp ranks, toFinset_card_eq_length.mp ?_⟩
    rw [not_not.mp distinct, List.length_map]
  split_ifs at persisted with hybrid
  · obtain ⟨_, shown, same⟩ := bind_eq_ok.mp persisted
    have shown := raiseIf_eq_ok.mp shown
    simp only [List.any_eq_true, decide_eq_true_eq, not_exists, not_and,
      not_not] at shown
    exact ⟨(Except.ok.inj same).symm, ranking, finite,
      fun hit member => .inr (shown hit member)⟩
  · obtain ⟨_, bare, same⟩ := bind_eq_ok.mp persisted
    have bare := raiseIf_eq_ok.mp bare
    simp only [List.any_eq_true, decide_eq_true_eq, not_exists, not_and,
      not_not] at bare
    exact ⟨(Except.ok.inj same).symm, ranking, finite,
      fun hit member => .inl (bare hit member)⟩

theorem isWritable_persistedHit (questionId : String) {hit : SearchHit}
    (finite : hit.score.isFinite = true)
    (shown : hit.evidence = none ∨ isComponentEvidence hit) :
    (persistedHit questionId hit).IsWritable := by
  rcases shown with missing | shown
  · simp [persistedHit, missing, finite, PersistedRankedHit.IsWritable]
  · unfold isComponentEvidence at shown
    cases found : hit.evidence with
    | none => simp [found] at shown
    | some evidence =>
        rw [found] at shown
        simp only [decide_eq_true_eq] at shown
        obtain ⟨fused, -, -, -, -, scores⟩ := shown
        simp only [List.all_cons, List.all_nil, Bool.and_true,
          Bool.and_eq_true, Option.all_eq_true] at scores
        refine ⟨finite, ?_, ?_, ?_⟩
        · simpa [persistedHit, found] using fused
        · simpa [persistedHit, found] using scores.1
        · simpa [persistedHit, found] using scores.2

/-- Rows that can be kept for a question. -/
structure IsRowsOf (questionId : String) (rows : List PersistedRankedHit) :
    Prop where
  named : ∀ row ∈ rows, row.questionId = questionId
  ranking : IsHitRanking rows
  writable : ∀ row ∈ rows, row.IsWritable

theorem isRowsOf_persistable {questionId : String} {hits : List SearchHit}
    {topK : ℤ} {name : RetrieverName} {rows : List PersistedRankedHit}
    (persisted : persistableHits questionId hits topK name = .ok rows) :
    IsRowsOf questionId rows := by
  obtain ⟨rfl, ranking, finite, shown⟩ := persistableHits_inv persisted
  constructor
  · rw [List.forall_mem_map]
    exact fun _ _ => rfl
  · refine ⟨?_, ?_⟩
    · rw [List.map_map, List.length_map]
      exact ranking.ranks
    · rw [List.map_map]
      exact ranking.distinct
  · rw [List.forall_mem_map]
    exact fun hit member => isWritable_persistedHit questionId
      (finite hit member) (shown hit member)

theorem mem_flatten_rows {questionIds : List String}
    {groups : List (List PersistedRankedHit)}
    (rows : List.Forall₂ IsRowsOf questionIds groups) :
    ∀ row ∈ groups.flatten, row.questionId ∈ questionIds ∧
      row.IsWritable := by
  induction rows with
  | nil => exact List.forall_mem_nil _
  | cons here later induction =>
      rw [List.flatten_cons, List.forall_mem_append]
      constructor
      · intro row member
        rw [here.named row member]
        exact ⟨List.mem_cons_self, here.writable row member⟩
      · intro row member
        obtain ⟨inside, writable⟩ := induction row member
        exact ⟨List.mem_cons_of_mem _ inside, writable⟩

/-- The rows of one question among those of several. -/
theorem filter_flatten_rows {questionIds : List String}
    {groups : List (List PersistedRankedHit)}
    (rows : List.Forall₂ IsRowsOf questionIds groups)
    (distinct : questionIds.Nodup) (questionId : String) :
    (questionId ∉ questionIds ∧
        groups.flatten.filter (fun row => row.questionId = questionId) = []) ∨
      ∃ group, IsRowsOf questionId group ∧ (questionId, group) ∈
          questionIds.zip groups ∧
        groups.flatten.filter (fun row => row.questionId = questionId) =
          group := by
  induction rows with
  | nil => exact .inl ⟨by simp, rfl⟩
  | @cons first group rest groups here later induction =>
      obtain ⟨fresh, distinct⟩ := List.nodup_cons.mp distinct
      rw [List.flatten_cons, List.filter_append]
      by_cases same : first = questionId
      · subst same
        have others : groups.flatten.filter
            (fun row => row.questionId = first) = [] := by
          rcases induction distinct with ⟨-, none⟩ | ⟨_, -, member, -⟩
          · exact none
          · exact absurd (List.of_mem_zip member).1 fresh
        have all : group.filter (fun row => row.questionId = first) =
            group :=
          List.filter_eq_self.mpr fun row member =>
            decide_eq_true (here.named row member)
        refine .inr ⟨group, here, List.mem_cons_self, ?_⟩
        rw [others, all, List.append_nil]
      · have none : group.filter (fun row => row.questionId = questionId) =
            [] :=
          List.filter_eq_nil_iff.mpr fun row member found =>
            same ((here.named row member).symm.trans
              (of_decide_eq_true found))
        rw [none, List.nil_append]
        rcases induction distinct with ⟨missing, empty⟩ |
          ⟨other, isRows, member, equal⟩
        · refine .inl ⟨?_, empty⟩
          rw [List.mem_cons, not_or]
          exact ⟨Ne.symm same, missing⟩
        · exact .inr ⟨other, isRows, List.mem_cons_of_mem _ member, equal⟩

/-! ## Progress -/

/-- A configuration, a snapshot and a retriever. -/
structure Screen where
  runner : RetrievalScreenRunner
  config : RetrievalExperimentConfig
  questions : ScreeningQuestionSnapshot runner.platform
  binding : BoundRetriever
  retrieve : Search
  configHash : String
  runId : String
  hashed : config.semanticHash runner.platform = .ok configHash
  identified : runner.runIdentity questions configHash = .ok runId

namespace Screen

variable (screen : Screen)

/-- The filter of the searches. -/
def filter : SearchFilter :=
  { corpusSnapshotId := screen.config.corpusSnapshotId
    parseSnapshotId := screen.config.parseSnapshotId
    chunkStrategy := screen.config.chunkStrategy
    embeddingSnapshotId := screen.config.embeddingSnapshotId
    documentIds := [] }

/-- What the retriever finds for a question, as it is kept. -/
def rowsOf (question : ScreeningQuestion) :
    Except PyException (List PersistedRankedHit) := do
  let hits ← screen.retrieve question.prompt screen.config.topK.value
    screen.filter
  persistableHits question.questionId hits screen.config.topK.value
    screen.config.retriever

/-- The record of a run that begins. -/
def firstRecord : ScreeningRunRecord :=
  { runId := screen.runId
    configHash := screen.configHash
    questionSnapshotHash := screen.questions.contentHash
    expectedQuestionIds := screen.questions.sortedIds }

/-- The ids of the first questions. -/
def firstIds (count : ℕ) : List String :=
  (screen.questions.questions.take count).map ScreeningQuestion.questionId

/-- The record holds the rows of so many questions, and their latencies. -/
structure Progress (count : ℕ) (record : ScreeningRunRecord) : Prop where
  runId : record.runId = screen.runId
  configHash : record.configHash = screen.configHash
  questions : record.questionSnapshotHash = screen.questions.contentHash
  expected : record.expectedQuestionIds = screen.questions.sortedIds
  within : count ≤ screen.questions.questions.length
  completed : record.completedQuestionIds = (screen.firstIds count).toFinset
  hits : ∃ groups, (screen.questions.questions.take count).mapM
    screen.rowsOf = .ok groups ∧ record.hits = groups.flatten
  measured : record.latenciesMs.keys.toFinset = record.completedQuestionIds
  latencies : ∀ value ∈ record.latenciesMs.values,
    value.isFinite = true ∧ value.lt (.finite 0) = false

variable {screen}

theorem firstIds_nodup (count : ℕ) : (screen.firstIds count).Nodup :=
  screen.questions.distinct.sublist
    ((List.take_sublist count _).map ScreeningQuestion.questionId)

theorem sortedIds_toFinset : screen.questions.sortedIds.toFinset =
    (screen.questions.questions.map
      ScreeningQuestion.questionId).toFinset :=
  List.toFinset_eq_of_perm _ _ (sortBy_perm id _)

theorem isRowsOf {question : ScreeningQuestion}
    {rows : List PersistedRankedHit}
    (found : screen.rowsOf question = .ok rows) :
    IsRowsOf question.questionId rows := by
  obtain ⟨hits, -, persisted⟩ := bind_eq_ok.mp found
  exact isRowsOf_persistable persisted

theorem isRowsOf_mapM {questions : List ScreeningQuestion}
    {groups : List (List PersistedRankedHit)}
    (found : questions.mapM screen.rowsOf = .ok groups) :
    List.Forall₂ IsRowsOf (questions.map ScreeningQuestion.questionId)
      groups := by
  rw [List.forall₂_map_left_iff]
  exact (mapM_eq_ok.mp found).imp fun _ _ found => isRowsOf found

theorem progress_firstRecord : screen.Progress 0 screen.firstRecord where
  runId := rfl
  configHash := rfl
  questions := rfl
  expected := rfl
  within := Nat.zero_le _
  completed := rfl
  hits := ⟨[], rfl, rfl⟩
  measured := rfl
  latencies := List.forall_mem_nil _

namespace Progress

variable {count : ℕ} {record : ScreeningRunRecord}

/-- What has been written is a checkpoint. -/
theorem isCheckpoint (progress : screen.Progress count record) :
    record.IsCheckpoint := by
  obtain ⟨groups, found, hits⟩ := progress.hits
  have rows := isRowsOf_mapM found
  have named : ∀ hit ∈ record.hits,
      hit.questionId ∈ screen.firstIds count ∧ hit.IsWritable := by
    rw [hits]
    exact mem_flatten_rows rows
  refine
    { expected := ?_
      completed := ?_
      measured := progress.measured
      latencies := progress.latencies
      hits := ?_
      rankings := ?_
      writable := ?_ }
  · rw [progress.expected]
    exact (sortBy_perm id _).nodup_iff.mpr screen.questions.distinct
  · rw [progress.completed, progress.expected, sortedIds_toFinset]
    intro questionId member
    rw [List.mem_toFinset] at member ⊢
    exact ((List.take_sublist count _).map _).subset member
  · intro hit member
    obtain ⟨inside, writable⟩ := named hit member
    rw [progress.completed, List.mem_toFinset]
    exact ⟨inside, writable.1, writable.2.1⟩
  · intro questionId
    rw [hits]
    rcases filter_flatten_rows rows (firstIds_nodup count) questionId with
      ⟨-, none⟩ | ⟨group, isRows, -, same⟩
    · rw [none]
      exact ScreeningRunRecord.isHitRanking_nil
    · rw [same]
      exact isRows.ranking
  · exact fun hit member => (named hit member).2

/-- Reading a record back keeps it where it is. -/
theorem reread (progress : screen.Progress count record) :
    screen.Progress count record.reread :=
  { progress with
    measured := (ScreeningRunRecord.keys_sorted_toFinset _).trans
      progress.measured
    latencies := fun value member => progress.latencies value
      (ScreeningRunRecord.mem_values_sorted.mp member) }

/-- Neither the status nor the evaluation counts. -/
theorem withStatus (progress : screen.Progress count record)
    (status : ScreeningStatus) (evaluation : Option RetrievalEvaluation) :
    screen.Progress count
      { record with status := status, evaluation := evaluation } :=
  { progress with }

theorem firstIds_succ {question : ScreeningQuestion}
    (next : screen.questions.questions[count]? = some question) :
    screen.firstIds (count + 1) =
      screen.firstIds count ++ [question.questionId] := by
  rw [firstIds, List.take_add_one, next, List.map_append]
  rfl

/-- The next question is not completed. -/
theorem fresh (progress : screen.Progress count record)
    {question : ScreeningQuestion}
    (next : screen.questions.questions[count]? = some question) :
    question.questionId ∉ record.completedQuestionIds := by
  have distinct : (screen.firstIds (count + 1)).Nodup :=
    firstIds_nodup (count + 1)
  rw [firstIds_succ next] at distinct
  rw [progress.completed, List.mem_toFinset]
  intro member
  exact (List.nodup_append.mp distinct).2.2 _ member _
    (List.mem_singleton_self _) rfl

/-- The next question is the first that is left. -/
theorem find?_next (progress : screen.Progress count record)
    {question : ScreeningQuestion}
    (next : screen.questions.questions[count]? = some question) :
    screen.questions.questions.find? (fun question =>
      question.questionId ∉ record.completedQuestionIds) = some question := by
  have split : screen.questions.questions =
      screen.questions.questions.take count ++ question ::
        screen.questions.questions.drop (count + 1) := by
    obtain ⟨inside, rfl⟩ := List.getElem?_eq_some_iff.mp next
    rw [← List.drop_eq_getElem_cons inside, List.take_append_drop]
  have done : (screen.questions.questions.take count).find? (fun question =>
      question.questionId ∉ record.completedQuestionIds) = none := by
    rw [List.find?_eq_none]
    intro earlier member
    rw [decide_eq_true_eq, not_not, progress.completed, List.mem_toFinset]
    exact List.mem_map_of_mem member
  rw [split, List.find?_append, done, Option.none_or]
  exact List.find?_cons_of_pos (decide_eq_true (progress.fresh next))

/-- The rows of the next question are added. -/
theorem persisted (progress : screen.Progress count record)
    {question : ScreeningQuestion} {rows : List PersistedRankedHit}
    {latency : PyFloat}
    (next : screen.questions.questions[count]? = some question)
    (found : screen.rowsOf question = .ok rows)
    (measured : latency.isFinite = true ∧ latency.lt (.finite 0) = false) :
    screen.Progress (count + 1)
      { record with
        hits := record.hits ++ rows
        latenciesMs := record.latenciesMs.set question.questionId latency
        completedQuestionIds :=
          insert question.questionId record.completedQuestionIds } := by
  obtain ⟨groups, earlier, hits⟩ := progress.hits
  have inside : count < screen.questions.questions.length :=
    (List.getElem?_eq_some_iff.mp next).1
  refine
    { runId := progress.runId
      configHash := progress.configHash
      questions := progress.questions
      expected := progress.expected
      within := inside
      completed := ?_
      hits := ⟨groups ++ [rows], ?_, ?_⟩
      measured := ?_
      latencies := ?_ }
  · dsimp only
    rw [firstIds_succ next, progress.completed]
    ext questionId
    simp
  · rw [List.take_add_one, next, mapM_eq_ok]
    exact List.rel_append (mapM_eq_ok.mp earlier)
      (.cons found .nil)
  · dsimp only
    rw [hits, List.flatten_append, List.flatten_singleton]
  · dsimp only
    rw [← progress.measured]
    ext questionId
    rw [List.mem_toFinset, Dict.mem_keys_set, Finset.mem_insert,
      List.mem_toFinset]
  · intro value member
    obtain ⟨questionId, listed⟩ := Dict.exists_get?_of_mem_values _ member
    rw [Dict.get?_set] at listed
    split_ifs at listed with same
    · cases listed
      exact measured
    · exact progress.latencies value (Dict.mem_values_of_get? _ listed)

end Progress

end Screen

end RagBench
