import RagBench.Evaluation.RetrievalLatency
import RagBench.Experiments.ScreeningProgress
import RagBench.Related

/-!
# The evaluation of a screen

A record that holds the rows of all questions can be evaluated, and two such
records have the same evaluation but for the latencies.
-/

namespace RagBench

/-- What `RetrievalCase` accepts is what it holds. -/
theorem RetrievalCase.create_ok_iff {questionId questionType : String}
    {ranked evidence : List String} {latency : PyFloat}
    {held : RetrievalCase} :
    RetrievalCase.create questionId questionType ranked evidence latency =
        .ok held ↔
      held.questionId = questionId ∧ held.questionType = questionType ∧
        held.rankedChunkIds = ranked ∧ held.evidenceChunkIds = evidence ∧
        latency = .finite held.latencyMs := by
  constructor
  · intro created
    rw [RetrievalCase.create] at created
    cases latency with
    | infinity | negativeInfinity | nan =>
        dsimp only at created
        split_ifs at created
    | finite value =>
        dsimp only at created
        split_ifs at created
        cases created
        exact ⟨rfl, rfl, rfl, rfl, rfl⟩
  · rintro ⟨rfl, rfl, rfl, rfl, rfl⟩
    rw [RetrievalCase.create, dif_neg (not_or.mpr held.named)]
    dsimp only
    rw [dif_neg (not_lt.mpr held.latency_nonneg),
      dif_neg (not_not.mpr held.ranked_nodup),
      dif_neg (not_not.mpr held.evidence_nodup)]

/-- The chunks of a question, in the order of their ranks. -/
def ScreeningRunRecord.ranking (record : ScreeningRunRecord)
    (questionId : String) : List String :=
  (sortBy PersistedRankedHit.rank
    (record.hits.filter fun hit => hit.questionId = questionId)).map
      PersistedRankedHit.chunkId

open RetrievalScreenRunner in
theorem retrievalCase_ok_iff {record : ScreeningRunRecord}
    {question : ScreeningQuestion} {held : RetrievalCase} :
    retrievalCase record question = .ok held ↔
      held.questionId = question.questionId ∧
        held.questionType = question.questionType ∧
        held.rankedChunkIds = record.ranking question.questionId ∧
        held.evidenceChunkIds = question.evidenceChunkIds ∧
        record.latenciesMs.get? question.questionId =
          some (.finite held.latencyMs) := by
  rw [retrievalCase]
  cases found : record.latenciesMs.get? question.questionId with
  | none => simp
  | some latency =>
      dsimp only
      rw [RetrievalCase.create_ok_iff, Option.some.injEq]
      rfl

/-- Only the hits and the latencies count. -/
theorem evaluateRun_congr (runner : RetrievalScreenRunner)
    (config : RetrievalExperimentConfig)
    (questions : ScreeningQuestionSnapshot runner.platform)
    {first second : ScreeningRunRecord} (hits : first.hits = second.hits)
    (latencies : ∀ questionId, first.latenciesMs.get? questionId =
      second.latenciesMs.get? questionId) :
    runner.evaluateRun config questions first =
      runner.evaluateRun config questions second := by
  have cases : RetrievalScreenRunner.retrievalCase first =
      RetrievalScreenRunner.retrievalCase second := by
    funext question
    simp only [RetrievalScreenRunner.retrievalCase, hits, latencies]
  rw [RetrievalScreenRunner.evaluateRun, RetrievalScreenRunner.evaluateRun,
    hits, cases]

/-- Rows that count up from one are in order. -/
theorem IsHitRanking.sorted {rows : List PersistedRankedHit}
    (ranking : IsHitRanking rows) :
    sortBy PersistedRankedHit.rank rows = rows := by
  refine sortBy_eq_self ?_
  have increasing : (rows.map PersistedRankedHit.rank).Pairwise (· ≤ ·) := by
    rw [ranking.1, List.pairwise_map]
    exact List.pairwise_le_range'.imp Int.ofNat_le.mpr
  exact List.pairwise_map.mp increasing

namespace Screen

variable {screen : Screen} {record : ScreeningRunRecord}

theorem firstIds_length :
    screen.firstIds screen.questions.questions.length =
      screen.questions.questions.map ScreeningQuestion.questionId := by
  rw [firstIds, List.take_length]

namespace Progress

/-- The ranking of a question is that of its rows. -/
theorem ranking_nodup {count : ℕ} (progress : screen.Progress count record)
    (questionId : String) : (record.ranking questionId).Nodup := by
  have ranked := progress.isCheckpoint.rankings questionId
  rw [ScreeningRunRecord.ranking, ranked.sorted]
  exact ranked.2

/-- The latency of a completed question is a number. -/
theorem latency {count : ℕ} (progress : screen.Progress count record)
    {questionId : String} (completed : questionId ∈ screen.firstIds count) :
    ∃ value : ℚ, 0 ≤ value ∧
      record.latenciesMs.get? questionId = some (.finite value) := by
  have listed : questionId ∈ record.latenciesMs.keys := by
    rw [← List.mem_toFinset, progress.measured, progress.completed,
      List.mem_toFinset]
    exact completed
  obtain ⟨⟨_, value⟩, entry, rfl⟩ := List.mem_map.mp listed
  have found := (Dict.get?_eq_some_iff _).mpr entry
  obtain ⟨finite, positive⟩ := progress.latencies value
    (Dict.mem_values_of_get? _ found)
  cases value with
  | infinity | negativeInfinity | nan => cases finite
  | finite value =>
      refine ⟨value, ?_, found⟩
      simpa [PyFloat.lt] using positive

theorem cases_ok (progress :
    screen.Progress screen.questions.questions.length record) :
    ∃ cases, screen.questions.questions.mapM
      (RetrievalScreenRunner.retrievalCase record) = .ok cases := by
  refine exists_mapM_iff.mpr fun question member => ?_
  have completed : question.questionId ∈
      screen.firstIds screen.questions.questions.length := by
    rw [firstIds_length]
    exact List.mem_map_of_mem member
  obtain ⟨latency, positive, measured⟩ := progress.latency completed
  exact ⟨⟨question.questionId, question.questionType,
    record.ranking question.questionId, question.evidenceChunkIds, latency,
    ⟨question.filled.1, question.filled.2.2⟩, positive,
    progress.ranking_nodup _, question.evidence_nodup⟩,
    retrievalCase_ok_iff.mpr ⟨rfl, rfl, rfl, rfl, measured⟩⟩

theorem hits_known {count : ℕ} (progress : screen.Progress count record) :
    record.hits.forM (fun hit => raiseIf (hit.questionId ∉
      screen.questions.questions.map ScreeningQuestion.questionId)
      (.keyError hit.questionId)) = .ok () := by
  refine forM_eq_ok.mpr fun hit member => raiseIf_eq_ok.mpr (not_not.mpr ?_)
  have inside := (progress.isCheckpoint.hits hit member).1
  rw [progress.completed, List.mem_toFinset] at inside
  exact ((List.take_sublist count _).map _).subset inside

theorem caseIds {cases : List RetrievalCase}
    (held : screen.questions.questions.mapM
      (RetrievalScreenRunner.retrievalCase record) = .ok cases) :
    cases.map RetrievalCase.questionId =
      screen.questions.questions.map ScreeningQuestion.questionId := by
  refine map_eq_of_forall₂ ScreeningQuestion.questionId
    RetrievalCase.questionId ?_ (mapM_eq_ok.mp held)
  intro question case here
  exact (retrievalCase_ok_iff.mp here).1

/-- A screen that has all its rows is evaluated. -/
theorem evaluates (progress :
    screen.Progress screen.questions.questions.length record) :
    ∃ evaluation, screen.runner.evaluateRun screen.config screen.questions
      record = .ok evaluation := by
  obtain ⟨cases, held⟩ := progress.cases_ok
  have positive : (0 : ℤ) < screen.config.topK.value := by
    cases screen.config.topK <;> decide
  have distinct : ¬ ¬ (cases.map RetrievalCase.questionId).Nodup := by
    rw [caseIds held, not_not]
    exact screen.questions.distinct
  refine ⟨.of screen.config.topK.value
    (metricsAt screen.config.topK.value cases), ?_⟩
  refine bind_eq_ok.mpr ⟨(), progress.hits_known,
    bind_eq_ok.mpr ⟨cases, held, ?_⟩⟩
  rw [aggregateRetrieval_eq, if_neg distinct, if_pos (.inl positive)]

/-- The rows of a screen do not depend on how it was stopped. -/
theorem hits_eq {other : ScreeningRunRecord} {count : ℕ}
    (progress : screen.Progress count record)
    (progress' : screen.Progress count other) :
    record.hits = other.hits := by
  obtain ⟨groups, found, hits⟩ := progress.hits
  obtain ⟨groups', found', hits'⟩ := progress'.hits
  rw [hits, hits', Except.ok.inj (found.symm.trans found')]

/-- Neither does its evaluation, but for the latencies. -/
theorem sameEvaluation {other : ScreeningRunRecord}
    {first second : RetrievalEvaluation}
    (progress : screen.Progress screen.questions.questions.length record)
    (progress' : screen.Progress screen.questions.questions.length other)
    (evaluated : screen.runner.evaluateRun screen.config screen.questions
      record = .ok first)
    (evaluated' : screen.runner.evaluateRun screen.config screen.questions
      other = .ok second) :
    first.SameButLatency second := by
  obtain ⟨_, -, evaluated⟩ := bind_eq_ok.mp evaluated
  obtain ⟨cases, held, aggregated⟩ := bind_eq_ok.mp evaluated
  obtain ⟨_, -, evaluated'⟩ := bind_eq_ok.mp evaluated'
  obtain ⟨others, held', aggregated'⟩ := bind_eq_ok.mp evaluated'
  refine aggregateRetrieval_sameRanking ?_ aggregated aggregated'
  have rankings : record.ranking = other.ranking := by
    funext questionId
    rw [ScreeningRunRecord.ranking, progress.hits_eq progress']
    rfl
  have related := mapM_eq_ok.mp held
  have related' := mapM_eq_ok.mp held'
  clear held held' aggregated aggregated' evaluated evaluated'
  generalize screen.questions.questions = questions at related related'
  induction related generalizing others with
  | nil =>
      cases related'
      exact .nil
  | cons here _ induction =>
      obtain _ | ⟨here', later'⟩ := related'
      obtain ⟨named, typed, ranked, shown, -⟩ := retrievalCase_ok_iff.mp here
      obtain ⟨named', typed', ranked', shown', -⟩ :=
        retrievalCase_ok_iff.mp here'
      refine .cons ⟨named.trans named'.symm, typed.trans typed'.symm, ?_,
        shown.trans shown'.symm⟩ (induction _ later')
      rw [ranked, ranked', rankings]

end Progress

end Screen

end RagBench
