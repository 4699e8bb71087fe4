import RagBench.Benchmark.AcceptedLimits
import RagBench.Benchmark.Grounding

/-!
# Earlier decisions in later rounds

Each round validates the earlier candidates again, with new ones behind them.
Rules and counters look back only, except for the duplicate groups: a new
question can join two old ones in a group, and the second is then rejected.
-/

namespace RagBench

open Relation (EqvGen)

section Stability

variable {platform : Platform} {threshold : ℚ}

/-- A candidate with this identifier repeats an earlier question. -/
def RepeatedId (platform : Platform) (threshold : ℚ)
    (candidates : List QuestionCandidate) (id : String) : Prop :=
  ∃ index candidate, candidates[index]? = some candidate ∧
    id = candidate.candidateId ∧
      Repeats platform threshold (candidates.map (·.question)) index

/-- More candidates repeat what has been repeated. -/
theorem RepeatedId.append {candidates : List QuestionCandidate} {id : String}
    (repeated : RepeatedId platform threshold candidates id)
    (later : List QuestionCandidate) :
    RepeatedId platform threshold (candidates ++ later) id := by
  obtain ⟨index, candidate, found, rfl, small, earlier, before, linked⟩ :=
    repeated
  have questionAt : ∀ index < candidates.length,
      ((candidates ++ later).map (·.question)).getD index "" =
        (candidates.map (·.question)).getD index "" := by
    intro index small
    rw [List.map_append, List.getD_eq_getElem?_getD,
      List.getElem?_append_left (by rwa [List.length_map]),
      List.getD_eq_getElem?_getD]
  refine ⟨index, candidate, ?_, rfl, ?_, earlier, before, ?_⟩
  · rw [List.length_map] at small
    rwa [List.getElem?_append_left small]
  · rw [List.map_append, List.length_append]
    omega
  · refine EqvGen.mono ?_ _ _ linked
    rintro left right ⟨ordered, inside, alike⟩
    rw [List.length_map] at inside
    refine ⟨ordered, ?_, ?_⟩
    · rw [List.length_map, List.length_append]
      omega
    · rwa [questionAt left (ordered.trans inside), questionAt right inside]

/-! ## Rules -/

variable {corpus : List SourceWindow} {config : ValidationConfig}
  {terms : List String}

/-- The rule for repeated questions is failed by nothing else. -/
theorem duplicate_question_mem_iff {duplicateIds : List String}
    {state : ValidationState} {candidate : QuestionCandidate} :
    "duplicate_question" ∈ failedRules platform corpus config terms
        duplicateIds state candidate ↔
      candidate.candidateId ∈ duplicateIds := by
  have evidence : "duplicate_question" ∉ evidenceRules platform corpus config
      candidate := by
    intro member
    obtain ⟨span, -, failed⟩ := List.mem_flatMap.mp member
    unfold spanRules at failed
    dsimp only at failed
    split_ifs at failed <;> simp at failed
  have answer : "duplicate_question" ∉ answerRules platform candidate := by
    unfold answerRules
    dsimp only
    split
    · split_ifs <;> simp
    · simp
  have transformed : "duplicate_question" ∉ unanswerableRules platform corpus
      candidate := by
    unfold unanswerableRules
    dsimp only
    split_ifs
    · simp
    · split
      · simp
      · split
        · simp
        · split_ifs <;> simp
  have contaminated : "duplicate_question" ∉ contaminationRules platform terms
      candidate := by
    unfold contaminationRules
    dsimp only
    split_ifs <;> simp
  have capacity : "duplicate_question" ∉ capacityRules config state
      candidate := by
    unfold capacityRules
    split_ifs <;> simp
  have own : "duplicate_question" ∈ candidateRules platform corpus config
      terms duplicateIds state candidate ↔
        candidate.candidateId ∈ duplicateIds := by
    simp only [candidateRules, List.mem_append, evidence, answer, transformed,
      contaminated, or_false]
    split_ifs with seen repeated repeated <;> simp [repeated]
  unfold failedRules
  dsimp only
  rw [mem_distinct]
  split_ifs with none
  · simp only [none, List.not_mem_nil, false_iff] at own
    exact ⟨fun failed => absurd failed capacity,
      fun repeated => absurd repeated own⟩
  · exact own

/-- Rounds agree where the repeated identifiers do. -/
theorem foldl_validateNext_congr {duplicateIds duplicateIds' : List String}
    {candidates : List QuestionCandidate}
    (agree : ∀ candidate ∈ candidates,
      candidate.candidateId ∈ duplicateIds ↔
        candidate.candidateId ∈ duplicateIds')
    (state : ValidationState) :
    candidates.foldl (validateNext platform corpus config terms duplicateIds)
        state =
      candidates.foldl (validateNext platform corpus config terms
        duplicateIds') state := by
  induction candidates generalizing state with
  | nil => rfl
  | cons candidate candidates induction =>
      obtain ⟨here, later⟩ := List.forall_mem_cons.mp agree
      have own : candidateRules platform corpus config terms duplicateIds
          state candidate = candidateRules platform corpus config terms
            duplicateIds' state candidate := by
        unfold candidateRules
        by_cases repeated : candidate.candidateId ∈ duplicateIds'
        · rw [if_pos (here.mpr repeated), if_pos repeated]
        · rw [if_neg (mt here.mp repeated), if_neg repeated]
      have failed : failedRules platform corpus config terms duplicateIds
          state candidate = failedRules platform corpus config terms
            duplicateIds' state candidate := by
        unfold failedRules
        rw [own]
      have same : validateNext platform corpus config terms duplicateIds state
          candidate = validateNext platform corpus config terms duplicateIds'
            state candidate := by
        unfold validateNext
        rw [failed]
      rw [List.foldl_cons, List.foldl_cons, same, induction later]

/-- Judged items stay in front. -/
theorem validated_prefix {duplicateIds : List String}
    (candidates : List QuestionCandidate) (state : ValidationState) :
    state.validated <+: (candidates.foldl (validateNext platform corpus config
      terms duplicateIds) state).validated := by
  induction candidates generalizing state with
  | nil => exact List.prefix_rfl
  | cons candidate candidates induction =>
      refine List.IsPrefix.trans ?_ (induction _)
      rw [validateNext_validated]
      exact List.prefix_append _ _

/-- The rules of an item tell whether its identifier is repeated. -/
theorem repeatedId_iff_of_items {candidates : List QuestionCandidate}
    {index : ℕ} {candidate : QuestionCandidate} {status : ValidationStatus}
    (found : candidates[index]? = some candidate)
    (status_at : ((validateCandidates platform candidates corpus config
      terms).items.map (·.validation))[index]? = some status) :
    RepeatedId platform config.duplicateSimilarityThreshold candidates
        candidate.candidateId ↔ "duplicate_question" ∈ status.ruleCodes := by
  have judged : List.Forall₂ (fun candidate item => ∃ state,
      item = candidate.judged (failedRules platform corpus config
        (config.contaminationTerms ++ terms) (duplicateGroups platform
          candidates config.duplicateSimilarityThreshold).2 state candidate))
      candidates (validateCandidates platform candidates corpus config
        terms).items := validated_run candidates
  obtain ⟨small, rfl⟩ := List.getElem?_eq_some_iff.mp found
  have inside : index < (validateCandidates platform candidates corpus config
      terms).items.length := judged.length_eq ▸ small
  obtain ⟨state, same⟩ := judged.get small inside
  rw [List.getElem?_map, List.getElem?_eq_getElem inside] at status_at
  obtain rfl := Option.some.inj status_at
  have codes : (validateCandidates platform candidates corpus config
      terms).items[index].validation.ruleCodes = failedRules platform corpus
        config (config.contaminationTerms ++ terms) (duplicateGroups platform
          candidates config.duplicateSimilarityThreshold).2 state
          candidates[index] := congrArg (·.validation.ruleCodes) same
  rw [codes, duplicate_question_mem_iff, mem_duplicateIds]
  exact Iff.rfl

/-- Earlier decisions and rules stay exactly when no earlier candidate comes
to repeat a question through the appended ones. -/
theorem earlier_decisions_stable_iff (candidates later :
      List QuestionCandidate) :
    ((validateCandidates platform (candidates ++ later) corpus config
        terms).items.map (·.validation)).take candidates.length =
      (validateCandidates platform candidates corpus config
        terms).items.map (·.validation) ↔
    ∀ candidate ∈ candidates,
      RepeatedId platform config.duplicateSimilarityThreshold
          (candidates ++ later) candidate.candidateId →
        RepeatedId platform config.duplicateSimilarityThreshold candidates
          candidate.candidateId := by
  have size : (validateCandidates platform candidates corpus config
      terms).items.length = candidates.length :=
    (report_judged platform config candidates corpus terms).length_eq.symm
  constructor
  · intro stable candidate member repeated
    obtain ⟨index, small, rfl⟩ := List.getElem_of_mem member
    have found := List.getElem?_eq_getElem small
    obtain ⟨status, status_at⟩ : ∃ status, ((validateCandidates platform
        candidates corpus config terms).items.map
          (·.validation))[index]? = some status :=
      ⟨_, List.getElem?_eq_getElem (by rwa [List.length_map, size])⟩
    have status_at' := status_at
    rw [← stable, List.getElem?_take_of_lt small] at status_at'
    refine (repeatedId_iff_of_items found status_at).mpr ?_
    refine (repeatedId_iff_of_items ?_ status_at').mp repeated
    rwa [List.getElem?_append_left small]
  · intro apart
    have agree : ∀ candidate ∈ candidates,
        candidate.candidateId ∈ (duplicateGroups platform (candidates ++ later)
            config.duplicateSimilarityThreshold).2 ↔
          candidate.candidateId ∈ (duplicateGroups platform candidates
            config.duplicateSimilarityThreshold).2 := by
      intro candidate member
      rw [mem_duplicateIds, mem_duplicateIds]
      exact ⟨apart candidate member,
        fun repeated => RepeatedId.append repeated later⟩
    let round := validateNext platform corpus config
      (config.contaminationTerms ++ terms) (duplicateGroups platform
        (candidates ++ later) config.duplicateSimilarityThreshold).2
    have same : candidates.foldl round {} = _ :=
      foldl_validateNext_congr agree {}
    have front : (candidates.foldl round {}).validated <+:
        (later.foldl round (candidates.foldl round {})).validated :=
      validated_prefix later _
    rw [same, ← same, ← List.foldl_append, same] at front
    have front' : (validateCandidates platform candidates corpus config
        terms).items <+: (validateCandidates platform (candidates ++ later)
          corpus config terms).items := front
    rw [← List.map_take, ← size, ← List.prefix_iff_eq_take.mp front']

end Stability

/-! ## A bridge between two questions -/

/-- `SequenceMatcher` on texts of one length that differ in single places. -/
def placeRatio (first second : String) : ℚ :=
  2 * ((first.toList.zip second.toList).countP fun pair =>
    pair.1 = pair.2 : ℕ) / (first.length + second.length : ℕ)

def placePlatform : Platform :=
  { samplePlatform with similarity := placeRatio }

def askedCandidate (id question : String) : QuestionCandidate :=
  { candidateId := id
    question := question
    goldAnswer := some "15 percent"
    evidenceSpans := [⟨"grew by 15 percent", "document", 1, "chunk"⟩]
    questionType := .fact
    difficulty := .easy
    answerable := true
    answerable_shape := by simp
    unanswerable_shape := by simp }

def firstRound : List QuestionCandidate :=
  [askedCandidate "first" "abcdefghijklmnopqrst",
    askedCandidate "second" "abcd1fghi0klmnopqrst"]

/-- Similar to both candidates of the first round. -/
def bridge : QuestionCandidate :=
  askedCandidate "bridge" "abcdefghi0klmnopqrst"

/-- The second candidate was accepted, and is rejected a round later. -/
theorem bridge_revokes_acceptance :
    ((validateCandidates placePlatform firstRound [sampleWindow] {}
        []).items.map (·.isAccepted)) = [true, true] ∧
      ((validateCandidates placePlatform (firstRound ++ [bridge])
        [sampleWindow] {} []).items.map (·.isAccepted)) =
          [true, false, false] ∧
      ((validateCandidates placePlatform (firstRound ++ [bridge])
        [sampleWindow] {} []).items.map (·.validation)).take 2 ≠
        (validateCandidates placePlatform firstRound [sampleWindow] {}
          []).items.map (·.validation) := by
  refine ⟨by decide +kernel, by decide +kernel, by decide +kernel⟩

end RagBench
