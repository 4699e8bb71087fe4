import RagBench.Benchmark.Splits
import RagBench.Evaluation.Bootstrap
import RagBench.Related
import RagBench.TwoRaters

/-!
# Agreement of the reviewers

Every question is reviewed by two reviewers.  Raw agreement and kappa are
defined for all reviews that are accepted, and within their bounds.
-/

namespace RagBench

inductive ReviewDecision where
  | accept
  | correct
  | reject
  deriving DecidableEq

/-- `for decision in ReviewDecision`. -/
def reviewDecisions : List ReviewDecision :=
  [.accept, .correct, .reject]

instance : Fintype ReviewDecision where
  elems := reviewDecisions.toFinset
  complete decision := by cases decision <;> decide

/-- The fields of a validated `ReviewRecord` that agreement reads. -/
structure ReviewRecord where
  naturalQuestion : String
  reviewerDecision : ReviewDecision
  reviewerId : String
  normalized : isNormalized [naturalQuestion, reviewerId] = true

structure ReviewAgreement where
  itemCount : ℕ
  rawAgreement : ℚ
  cohensKappa : ℚ

/-- The field constraints of `ReviewAgreement`. -/
def ReviewAgreement.validate (agreement : ReviewAgreement) :
    Except PyException ReviewAgreement :=
  if 50 ≤ agreement.itemCount ∧
      (0 ≤ agreement.rawAgreement ∧ agreement.rawAgreement ≤ 1) ∧
      -1 ≤ agreement.cohensKappa ∧ agreement.cohensKappa ≤ 1 then
    .ok agreement
  else .error (validationError "ReviewAgreement")

/-- The decisions on a question, in the order of the reviewers. -/
def decisionPair (entry : String × List ReviewRecord) :
    Except PyException (ReviewDecision × ReviewDecision) :=
  match entry.2 with
  | [first, second] =>
      if first.reviewerId = second.reviewerId then .error (.valueError
        ("each item requires exactly two distinct reviewers: " ++ entry.1))
      else if first.reviewerId ≤ second.reviewerId then
        .ok (first.reviewerDecision, second.reviewerDecision)
      else .ok (second.reviewerDecision, first.reviewerDecision)
  | _ => .error (.valueError
      ("each item requires exactly two distinct reviewers: " ++ entry.1))

/-- `left_counts[decision] / len(pairs) * right_counts[decision] /
len(pairs)`. -/
def expectedShare (pairs : List (ReviewDecision × ReviewDecision))
    (decision : ReviewDecision) : Except PyException ℚ := do
  let left ← divide (TwoRaters.leftCount pairs decision) pairs.length
  divide (left * TwoRaters.rightCount pairs decision) pairs.length

def cohensKappa (observed expected : ℚ) : Except PyException ℚ :=
  if expected = 1 ∧ observed = 1 then .ok 1
  else divide (observed - expected) (1 - expected)

def calculateReviewAgreement (reviews : List ReviewRecord) :
    Except PyException ReviewAgreement := do
  let grouped := groupInto ReviewRecord.naturalQuestion .empty reviews
  raiseIf (grouped.keys.length < 50)
    (.valueError "double review requires at least 50 items")
  let pairs ← (sortBy Prod.fst grouped.entries).mapM decisionPair
  let observed ← divide (TwoRaters.agreed pairs) pairs.length
  let shares ← reviewDecisions.mapM (expectedShare pairs)
  let kappa ← cohensKappa observed shares.sum
  ReviewAgreement.validate
    { itemCount := pairs.length
      rawAgreement := observed
      cohensKappa := kappa }

/-! ## The reviews of a question -/

/-- The reviews of a question. -/
def reviewsOf (reviews : List ReviewRecord) (question : String) :
    List ReviewRecord :=
  reviews.filter fun review => review.naturalQuestion = question

/-- At least fifty questions, each reviewed by two reviewers. -/
structure AcceptsReviews (reviews : List ReviewRecord) : Prop where
  questions : 50 ≤ (reviews.map ReviewRecord.naturalQuestion).dedup.length
  reviewers : ∀ review ∈ reviews, ∃ first second,
    reviewsOf reviews review.naturalQuestion = [first, second] ∧
      first.reviewerId ≠ second.reviewerId

/-- Reviews of the same question have the same decision. -/
def AllAgree (reviews : List ReviewRecord) : Prop :=
  ∀ first ∈ reviews, ∀ second ∈ reviews,
    first.naturalQuestion = second.naturalQuestion →
      first.reviewerDecision = second.reviewerDecision

theorem decisionPair_ok_iff {entry : String × List ReviewRecord}
    {pair : ReviewDecision × ReviewDecision} :
    decisionPair entry = .ok pair ↔
      ∃ first second, entry.2 = [first, second] ∧
        first.reviewerId ≠ second.reviewerId ∧
        pair = if first.reviewerId ≤ second.reviewerId then
            (first.reviewerDecision, second.reviewerDecision)
          else (second.reviewerDecision, first.reviewerDecision) := by
  rw [decisionPair]
  split
  · rename_i first second rows
    rw [rows]
    constructor
    · intro paired
      split_ifs at paired with same before
      · refine ⟨first, second, rfl, same, ?_⟩
        rw [if_pos before]
        cases paired
        rfl
      · refine ⟨first, second, rfl, same, ?_⟩
        rw [if_neg before]
        cases paired
        rfl
    · rintro ⟨left, right, listed, different, rfl⟩
      cases listed
      rw [if_neg different]
      split_ifs
      · rfl
      · rfl
  · rename_i other
    constructor
    · intro paired
      cases paired
    · rintro ⟨first, second, rows, -⟩
      exact absurd rows (other first second)

theorem expectedShares_ok {pairs : List (ReviewDecision × ReviewDecision)}
    (some : pairs ≠ []) : ∃ shares,
      reviewDecisions.mapM (expectedShare pairs) = .ok shares ∧
        shares.sum = TwoRaters.expected pairs := by
  have nonzero : (pairs.length : ℚ) ≠ 0 := by
    exact_mod_cast (List.length_pos_iff.mpr some).ne'
  refine ⟨reviewDecisions.map fun decision =>
    (TwoRaters.leftCount pairs decision : ℚ) / pairs.length *
      TwoRaters.rightCount pairs decision / pairs.length, ?_, ?_⟩
  · rw [mapM_eq_ok, List.forall₂_map_right_iff]
    apply List.forall₂_same.mpr
    intro decision _
    rw [expectedShare, divide_ok nonzero]
    exact divide_ok nonzero
  · have distinct : reviewDecisions.Nodup := by decide
    exact (List.sum_toFinset _ distinct).symm

theorem cohensKappa_ok {observed expected : ℚ} (most : observed ≤ 1)
    (half : 2 * expected ≤ 1 + observed) :
    cohensKappa observed expected =
      .ok (TwoRaters.kappaOf observed expected) := by
  rw [cohensKappa, TwoRaters.kappaOf]
  by_cases certain : expected = 1
  · have same := TwoRaters.observed_of_expected most half certain
    rw [if_pos ⟨certain, same⟩, if_pos ⟨certain, same⟩]
  · rw [if_neg fun both => certain both.1, if_neg fun both => certain both.1]
    exact divide_ok (sub_ne_zero.mpr (Ne.symm certain))

/-- The agreement of paired decisions is within its bounds. -/
theorem agreement_ok {pairs : List (ReviewDecision × ReviewDecision)}
    (enough : 50 ≤ pairs.length) :
    (do
      let observed ← divide (TwoRaters.agreed pairs) pairs.length
      let shares ← reviewDecisions.mapM (expectedShare pairs)
      let kappa ← cohensKappa observed shares.sum
      ReviewAgreement.validate
        { itemCount := pairs.length
          rawAgreement := observed
          cohensKappa := kappa }) =
      .ok
        { itemCount := pairs.length
          rawAgreement := TwoRaters.observed pairs
          cohensKappa := TwoRaters.kappaOf (TwoRaters.observed pairs)
            (TwoRaters.expected pairs) } := by
  have some : pairs ≠ [] := by
    rintro rfl
    exact absurd enough (by decide)
  have nonzero : (pairs.length : ℚ) ≠ 0 := by
    exact_mod_cast (List.length_pos_iff.mpr some).ne'
  have bounds := TwoRaters.observed_bounds some
  have half := TwoRaters.two_mul_expected_le some
  obtain ⟨shares, shared, total⟩ := expectedShares_ok some
  rw [divide_ok nonzero]
  change (reviewDecisions.mapM (expectedShare pairs) >>= fun shares =>
    cohensKappa (TwoRaters.observed pairs) shares.sum >>= fun kappa => _) = _
  rw [shared]
  change (cohensKappa (TwoRaters.observed pairs) shares.sum >>=
    fun kappa => _) = _
  rw [total, cohensKappa_ok bounds.2 half]
  exact if_pos ⟨enough, bounds, TwoRaters.kappaOf_bounds bounds.2 half⟩

/-! ## All reviews -/

theorem mem_entries_iff {reviews : List ReviewRecord}
    {entry : String × List ReviewRecord} :
    entry ∈ (groupInto ReviewRecord.naturalQuestion .empty reviews).entries ↔
      (∃ review ∈ reviews, review.naturalQuestion = entry.1) ∧
        entry.2 = reviewsOf reviews entry.1 := by
  have listed := mem_keys_groupInto ReviewRecord.naturalQuestion .empty reviews
    entry.1
  have group := getD_groupInto ReviewRecord.naturalQuestion .empty reviews
    entry.1
  constructor
  · intro member
    rw [Dict.getD_eq_of_mem _ member] at group
    have key : entry.1 ∈ (groupInto ReviewRecord.naturalQuestion .empty
        reviews).keys := List.mem_map.mpr ⟨entry, member, rfl⟩
    refine ⟨?_, group⟩
    simpa [Dict.keys, Dict.empty] using listed.mp key
  · rintro ⟨known, rows⟩
    obtain ⟨other, member, same⟩ := List.mem_map.mp (listed.mpr (.inr known))
    rw [← same, Dict.getD_eq_of_mem _ member] at group
    have equal : other = entry := by
      refine Prod.ext same (group.trans ?_)
      rw [rows, ← same]
      rfl
    exact equal ▸ member

theorem length_grouped (reviews : List ReviewRecord) :
    (groupInto ReviewRecord.naturalQuestion .empty reviews).keys.length =
      (reviews.map ReviewRecord.naturalQuestion).dedup.length := by
  apply List.Perm.length_eq
  have distinct : (groupInto ReviewRecord.naturalQuestion .empty
      reviews).keys.Nodup := Dict.nodup _
  rw [List.perm_ext_iff_of_nodup distinct (List.nodup_dedup _)]
  intro question
  rw [mem_keys_groupInto, List.mem_dedup, List.mem_map]
  simp [Dict.keys, Dict.empty]

/-- The questions with their reviews, in order. -/
def orderedQuestions (reviews : List ReviewRecord) :
    List (String × List ReviewRecord) :=
  sortBy Prod.fst
    (groupInto ReviewRecord.naturalQuestion .empty reviews).entries

theorem mem_orderedQuestions {reviews : List ReviewRecord}
    {entry : String × List ReviewRecord} :
    entry ∈ orderedQuestions reviews ↔
      (∃ review ∈ reviews, review.naturalQuestion = entry.1) ∧
        entry.2 = reviewsOf reviews entry.1 := by
  rw [orderedQuestions, (sortBy_perm _ _).mem_iff, mem_entries_iff]

theorem length_orderedQuestions (reviews : List ReviewRecord) :
    (orderedQuestions reviews).length =
      (reviews.map ReviewRecord.naturalQuestion).dedup.length := by
  rw [orderedQuestions, (sortBy_perm _ _).length_eq, ← length_grouped,
    Dict.keys, List.length_map]

theorem pairs_ok_iff {reviews : List ReviewRecord} :
    (∃ pairs, (orderedQuestions reviews).mapM decisionPair = .ok pairs) ↔
      ∀ review ∈ reviews, ∃ first second,
        reviewsOf reviews review.naturalQuestion = [first, second] ∧
          first.reviewerId ≠ second.reviewerId := by
  rw [exists_mapM_iff]
  constructor
  · intro paired review member
    obtain ⟨pair, decided⟩ := paired
      (review.naturalQuestion, reviewsOf reviews review.naturalQuestion)
      (mem_orderedQuestions.mpr ⟨⟨review, member, rfl⟩, rfl⟩)
    obtain ⟨first, second, rows, different, -⟩ := decisionPair_ok_iff.mp decided
    exact ⟨first, second, rows, different⟩
  · intro reviewed entry member
    obtain ⟨⟨review, listed, same⟩, rows⟩ := mem_orderedQuestions.mp member
    obtain ⟨first, second, two, different⟩ := reviewed review listed
    refine ⟨_, decisionPair_ok_iff.mpr ⟨first, second, ?_, different, rfl⟩⟩
    rw [rows, ← same, two]

/-- The decisions of all pairs are the same where all reviews agree. -/
theorem pairs_agree_iff {reviews : List ReviewRecord}
    {pairs : List (ReviewDecision × ReviewDecision)}
    (paired : (orderedQuestions reviews).mapM decisionPair = .ok pairs) :
    (∀ pair ∈ pairs, pair.1 = pair.2) ↔ AllAgree reviews := by
  have related := mapM_eq_ok.mp paired
  constructor
  · intro same first member second member' question
    have listed : (first.naturalQuestion,
        reviewsOf reviews first.naturalQuestion) ∈ orderedQuestions reviews :=
      mem_orderedQuestions.mpr ⟨⟨first, member, rfl⟩, rfl⟩
    obtain ⟨pair, inside, decided⟩ := exists_right_of_forall₂ related listed
    obtain ⟨left, right, rows, -, decisions⟩ := decisionPair_ok_iff.mp decided
    have equal : left.reviewerDecision = right.reviewerDecision := by
      have agreed := same pair inside
      rw [decisions] at agreed
      split_ifs at agreed
      · exact agreed
      · exact agreed.symm
    have decision : ∀ review ∈ reviews,
        review.naturalQuestion = first.naturalQuestion →
          review.reviewerDecision = left.reviewerDecision := by
      intro review known question
      have own : review ∈ [left, right] :=
        rows ▸ List.mem_filter.mpr ⟨known, decide_eq_true question⟩
      rcases List.mem_pair.mp own with rfl | rfl
      · rfl
      · exact equal.symm
    rw [decision first member rfl, decision second member' question.symm]
  · intro agree pair member
    obtain ⟨entry, listed, decided⟩ := exists_left_of_forall₂ related member
    obtain ⟨left, right, rows, -, decisions⟩ := decisionPair_ok_iff.mp decided
    obtain ⟨-, own⟩ := mem_orderedQuestions.mp listed
    rw [own] at rows
    have known : ∀ review ∈ [left, right], review ∈ reviews ∧
        review.naturalQuestion = entry.1 := by
      intro review inside
      rw [← rows] at inside
      obtain ⟨known, question⟩ := List.mem_filter.mp inside
      exact ⟨known, of_decide_eq_true question⟩
    obtain ⟨first, question⟩ := known left (by simp)
    obtain ⟨second, question'⟩ := known right (by simp)
    have equal := agree left first right second
      (question.trans question'.symm)
    rw [decisions]
    split_ifs
    · exact equal
    · exact equal.symm

theorem decisionPairs_error (entries : List (String × List ReviewRecord)) :
    (∃ pairs, entries.mapM decisionPair = .ok pairs) ∨
      ∃ message, entries.mapM decisionPair = .error (.valueError message) := by
  have single (entry : String × List ReviewRecord) :
      (∃ pair, decisionPair entry = .ok pair) ∨
        ∃ message, decisionPair entry = .error (.valueError message) := by
    rw [decisionPair]
    split
    · split_ifs
      · exact .inr ⟨_, rfl⟩
      · exact .inl ⟨_, rfl⟩
      · exact .inl ⟨_, rfl⟩
    · exact .inr ⟨_, rfl⟩
  induction entries with
  | nil => exact .inl ⟨[], rfl⟩
  | cons entry entries induction =>
      rw [List.mapM_cons]
      rcases single entry with ⟨pair, first⟩ | ⟨message, first⟩
      · rw [first]
        rcases induction with ⟨pairs, later⟩ | ⟨message, later⟩
        · rw [later]
          exact .inl ⟨_, rfl⟩
        · rw [later]
          exact .inr ⟨_, rfl⟩
      · rw [first]
        exact .inr ⟨_, rfl⟩

/-- The agreement that accepted reviews get. -/
theorem calculateReviewAgreement_ok {reviews : List ReviewRecord}
    {pairs : List (ReviewDecision × ReviewDecision)}
    (enough : 50 ≤ (reviews.map ReviewRecord.naturalQuestion).dedup.length)
    (paired : (orderedQuestions reviews).mapM decisionPair = .ok pairs) :
    50 ≤ pairs.length ∧ calculateReviewAgreement reviews =
      .ok
        { itemCount := pairs.length
          rawAgreement := TwoRaters.observed pairs
          cohensKappa := TwoRaters.kappaOf (TwoRaters.observed pairs)
            (TwoRaters.expected pairs) } := by
  have many : 50 ≤ pairs.length := by
    rwa [← (mapM_eq_ok.mp paired).length_eq, length_orderedQuestions]
  refine ⟨many, ?_⟩
  rw [calculateReviewAgreement, raiseIf_bind (by
    rw [length_grouped]
    exact not_lt.mpr enough)]
  change ((orderedQuestions reviews).mapM decisionPair >>= fun pairs => _) = _
  rw [paired]
  exact agreement_ok many

theorem calculateReviewAgreement_error {reviews : List ReviewRecord}
    (refused : ¬ AcceptsReviews reviews) : ∃ message,
      calculateReviewAgreement reviews = .error (.valueError message) := by
  by_cases enough :
      50 ≤ (reviews.map ReviewRecord.naturalQuestion).dedup.length
  · rcases decisionPairs_error (orderedQuestions reviews) with
      paired | ⟨message, failed⟩
    · exact absurd ⟨enough, pairs_ok_iff.mp paired⟩ refused
    · refine ⟨message, ?_⟩
      rw [calculateReviewAgreement, raiseIf_bind (by
        rw [length_grouped]
        exact not_lt.mpr enough)]
      change ((orderedQuestions reviews).mapM decisionPair >>= fun _ => _) = _
      rw [failed]
      rfl
  · refine ⟨"double review requires at least 50 items", ?_⟩
    rw [calculateReviewAgreement]
    apply raiseIf_bind_error
    rw [length_grouped]
    exact not_le.mp enough

/-- Agreement is defined for exactly the accepted reviews, within its bounds,
and kappa is one where all reviews agree. -/
theorem review_agreement_defined (reviews : List ReviewRecord) :
    ((∃ agreement, calculateReviewAgreement reviews = .ok agreement) ↔
        AcceptsReviews reviews) ∧
      (¬ AcceptsReviews reviews → ∃ message,
        calculateReviewAgreement reviews = .error (.valueError message)) ∧
      ∀ agreement, calculateReviewAgreement reviews = .ok agreement →
        50 ≤ agreement.itemCount ∧
        (0 ≤ agreement.rawAgreement ∧ agreement.rawAgreement ≤ 1) ∧
        (-1 ≤ agreement.cohensKappa ∧ agreement.cohensKappa ≤ 1) ∧
        (agreement.cohensKappa = 1 ↔ AllAgree reviews) := by
  have accepted {agreement : ReviewAgreement}
      (returned : calculateReviewAgreement reviews = .ok agreement) :
      AcceptsReviews reviews := by
    by_contra refused
    obtain ⟨message, failed⟩ := calculateReviewAgreement_error refused
    rw [failed] at returned
    cases returned
  refine ⟨⟨?_, ?_⟩, calculateReviewAgreement_error, ?_⟩
  · rintro ⟨agreement, returned⟩
    exact accepted returned
  · intro accepts
    obtain ⟨pairs, paired⟩ := pairs_ok_iff.mpr accepts.reviewers
    exact ⟨_, (calculateReviewAgreement_ok accepts.questions paired).2⟩
  · intro agreement returned
    have accepts := accepted returned
    obtain ⟨pairs, paired⟩ := pairs_ok_iff.mpr accepts.reviewers
    obtain ⟨many, same⟩ := calculateReviewAgreement_ok accepts.questions paired
    rw [same] at returned
    cases returned
    have some : pairs ≠ [] := by
      rintro rfl
      exact absurd many (by decide)
    have bounds := TwoRaters.observed_bounds some
    have half := TwoRaters.two_mul_expected_le some
    refine ⟨many, bounds, TwoRaters.kappaOf_bounds bounds.2 half, ?_⟩
    rw [TwoRaters.kappaOf_eq_one_iff bounds.2 half,
      TwoRaters.observed_eq_one_iff some]
    exact pairs_agree_iff paired

end RagBench
