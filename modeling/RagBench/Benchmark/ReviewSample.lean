import RagBench.Benchmark.Splits
import RagBench.Grouping
import RagBench.StratifiedDraw

/-!
# The review queue

Human reviewers see a sample of the candidates in which every stratum of type,
difficulty, documents, parsing and answerability has nearly the same share.
What reviewers do not see has no influence on the queue.
-/

namespace RagBench

open StratifiedDraw

/-- A validated `ReviewCandidate`. -/
structure ReviewCandidate where
  candidateId : String
  naturalQuestion : String
  questionType : String
  difficulty : String
  documentIds : List String
  parseSensitive : Bool
  answerable : Bool
  generatorConfidence : Option ℚ
  normalized : isNormalized (candidateId :: naturalQuestion :: questionType ::
    difficulty :: documentIds) = true
  documents : documentIds ≠ [] ∧ documentIds.Nodup
  confidence : ∀ value ∈ generatorConfidence, 0 ≤ value ∧ value ≤ 1

/-- What reviewers see of a candidate. -/
structure ReviewQueueItem where
  candidateId : String
  naturalQuestion : String
  questionType : String
  difficulty : String
  documentIds : List String
  parseSensitive : Bool
  answerable : Bool
  deriving DecidableEq

/-- The key of a stratum, a tuple. -/
structure ReviewStratum where
  questionType : String
  difficulty : String
  documentIds : List String
  parseSensitive : Bool
  answerable : Bool
  deriving DecidableEq

def ReviewCandidate.queueItem (item : ReviewCandidate) : ReviewQueueItem :=
  { candidateId := item.candidateId
    naturalQuestion := item.naturalQuestion
    questionType := item.questionType
    difficulty := item.difficulty
    documentIds := item.documentIds
    parseSensitive := item.parseSensitive
    answerable := item.answerable }

def ReviewCandidate.stratum (item : ReviewCandidate) : ReviewStratum :=
  { questionType := item.questionType
    difficulty := item.difficulty
    documentIds := item.documentIds
    parseSensitive := item.parseSensitive
    answerable := item.answerable }

def ReviewQueueItem.stratum (item : ReviewQueueItem) : ReviewStratum :=
  { questionType := item.questionType
    difficulty := item.difficulty
    documentIds := item.documentIds
    parseSensitive := item.parseSensitive
    answerable := item.answerable }

/-- `repr` of a tuple. -/
def tupleRepr (parts : List String) : String :=
  "(" ++ ", ".intercalate parts ++ (if parts.length = 1 then ",)" else ")")

section Plan

/- `str.__repr__` and what the generator draws. -/
variable {ρ : Type} (strRepr : String → String) (random : RandomSource ρ)

def ReviewStratum.repr (key : ReviewStratum) : String :=
  tupleRepr [strRepr key.questionType, strRepr key.difficulty,
    tupleRepr (key.documentIds.map strRepr),
    if key.parseSensitive then "True" else "False",
    if key.answerable then "True" else "False"]

/-- The rows that are selected from sorted ones. -/
def selectRows {α : Type} (stratum : α → ReviewStratum) (sampleSize : ℕ)
    (seed : ℤ) (ordered : List α) : Option (List α) :=
  let grouped := groupInto stratum .empty ordered
  let strata := arrange random.shuffle grouped.keys (random.seeded seed)
    fun key => grouped.getD key []
  let keys := random.shuffle strata.2
    (sortBy (ReviewStratum.repr strRepr) grouped.keys)
  match drawAll popLast sampleSize keys.1 sampleSize strata.1 [] with
  | none => none
  | some selected => some (random.shuffle keys.2 selected).1

def planReviewSample (candidates : List ReviewCandidate) (sampleSize : ℤ)
    (seed : ℤ) : Except PyException (List ReviewQueueItem) := do
  raiseIf (sampleSize < 300)
    (.valueError "human validation requires at least 300 candidates")
  raiseIf (candidates.length < sampleSize) (.valueError
    "candidate pool is smaller than the requested review sample")
  raiseIf (¬ (candidates.map ReviewCandidate.candidateId).Nodup)
    (.valueError "candidate IDs must be unique")
  match selectRows strRepr random ReviewCandidate.stratum sampleSize.toNat seed
      (sortBy ReviewCandidate.candidateId candidates) with
  | none => .error (.valueError
      "stratified sample could not satisfy requested size")
  | some selected => return selected.map ReviewCandidate.queueItem

end Plan

/-! ## The selected rows -/

section Rows

variable {ρ α β : Type} (strRepr : String → String) (random : RandomSource ρ)
  (stratum : α → ReviewStratum) (seed : ℤ) (ordered : List α)

/-- The shuffled strata, and the state of the generator after them. -/
def shuffledStrata : (ReviewStratum → List α) × ρ :=
  arrange random.shuffle (groupInto stratum .empty ordered).keys
    (random.seeded seed) fun key => ordered.filter (stratum · = key)

/-- The shuffled keys, and the state of the generator after them. -/
def shuffledKeys : List ReviewStratum × ρ :=
  random.shuffle (shuffledStrata random stratum seed ordered).2
    (sortBy (ReviewStratum.repr strRepr)
      (groupInto stratum .empty ordered).keys)

/-- The rows of all rounds, up to a limit. -/
def drawnRows (limit : ℕ) : List α :=
  (RoundRobin.rounds (shuffledKeys strRepr random stratum seed ordered).1
    limit fun key =>
      ((shuffledStrata random stratum seed ordered).1 key).reverse).take limit

theorem getD_grouped (key : ReviewStratum) :
    (groupInto stratum .empty ordered).getD key [] =
      ordered.filter (stratum · = key) :=
  getD_groupInto stratum .empty ordered key

theorem shuffledStrata_perm (key : ReviewStratum) :
    ((shuffledStrata random stratum seed ordered).1 key).Perm
      (ordered.filter (stratum · = key)) :=
  arrange_perm random.shuffle_perm _ _ _ key

theorem shuffledKeys_perm :
    (shuffledKeys strRepr random stratum seed ordered).1.Perm
      (groupInto stratum .empty ordered).keys :=
  (random.shuffle_perm _ _).trans (sortBy_perm _ _)

theorem shuffledKeys_nodup :
    (shuffledKeys strRepr random stratum seed ordered).1.Nodup :=
  (shuffledKeys_perm strRepr random stratum seed ordered).nodup_iff.mpr
    (groupInto _ _ ordered).nodup

theorem mem_shuffledKeys {key : ReviewStratum} :
    key ∈ (shuffledKeys strRepr random stratum seed ordered).1 ↔
      ∃ row ∈ ordered, stratum row = key := by
  rw [(shuffledKeys_perm strRepr random stratum seed ordered).mem_iff,
    mem_keys_groupInto]
  simp [Dict.keys, Dict.empty]

/-- The strata have all rows. -/
theorem queues_perm :
    ((shuffledKeys strRepr random stratum seed ordered).1.flatMap fun key =>
      ((shuffledStrata random stratum seed ordered).1 key).reverse).Perm
        ordered := by
  refine List.Perm.trans (List.Perm.flatMap_left _ fun key _ => ?_)
    (flatMap_filter_perm stratum
      (shuffledKeys_nodup strRepr random stratum seed ordered)
      fun row member => (mem_shuffledKeys strRepr random stratum seed
        ordered).mpr ⟨row, member, rfl⟩)
  exact (List.reverse_perm _).trans
    (shuffledStrata_perm random stratum seed ordered key)

theorem drawnRows_length {limit : ℕ} (enough : limit ≤ ordered.length) :
    (drawnRows strRepr random stratum seed ordered limit).length = limit := by
  rw [drawnRows, List.length_take, min_eq_left]
  apply RoundRobin.le_length_rounds
  rw [← List.length_flatMap]
  rwa [(queues_perm strRepr random stratum seed ordered).length_eq]

theorem drawnRows_subperm (limit : ℕ) :
    (drawnRows strRepr random stratum seed ordered limit).Subperm ordered :=
  (List.take_sublist _ _).subperm.trans
    ((RoundRobin.rounds_subperm _ _ _).trans
      (queues_perm strRepr random stratum seed ordered).subperm)

theorem selectRows_eq {limit : ℕ} (enough : limit ≤ ordered.length) :
    selectRows strRepr random stratum limit seed ordered =
      some (random.shuffle
        (shuffledKeys strRepr random stratum seed ordered).2
        (drawnRows strRepr random stratum seed ordered limit)).1 := by
  have total : limit ≤
      ((shuffledKeys strRepr random stratum seed ordered).1.map fun key =>
        ((shuffledStrata random stratum seed ordered).1 key).reverse.length
      ).sum := by
    rw [← List.length_flatMap]
    rwa [(queues_perm strRepr random stratum seed ordered).length_eq]
  have drawn := drawAll_eq popLast_pops
    (shuffledKeys_nodup strRepr random stratum seed ordered) total
  rw [selectRows]
  simp only [getD_grouped]
  rw [shuffledKeys, shuffledStrata] at drawn
  rw [drawn]
  rfl

end Rows

/-! ## What is read of the rows -/

section Read

variable {ρ α β : Type} (strRepr : String → String) (random : RandomSource ρ)
  {stratum : α → ReviewStratum} {stratum' : β → ReviewStratum} {read : α → β}
  (seed : ℤ) (ordered : List α)

theorem keys_grouped_map (same : ∀ row, stratum' (read row) = stratum row) :
    (groupInto stratum' .empty (ordered.map read)).keys =
      (groupInto stratum .empty ordered).keys := by
  have keys : (ordered.map read).map stratum' = ordered.map stratum := by
    rw [List.map_map]
    exact List.map_congr_left fun row _ => same row
  rw [keys_groupInto, keys_groupInto, keys]
  rfl

theorem shuffledStrata_map
    (same : ∀ row, stratum' (read row) = stratum row) :
    shuffledStrata random stratum' seed (ordered.map read) =
      (fun key =>
          ((shuffledStrata random stratum seed ordered).1 key).map read,
        (shuffledStrata random stratum seed ordered).2) := by
  have parts : (fun key => (ordered.map read).filter (stratum' · = key)) =
      fun key => (ordered.filter (stratum · = key)).map read := by
    funext key
    rw [List.filter_map]
    simp only [Function.comp_def, same]
  rw [shuffledStrata, shuffledStrata, parts, keys_grouped_map ordered same]
  exact arrange_map read (random.shuffle_map read) _ _ _

theorem shuffledKeys_map (same : ∀ row, stratum' (read row) = stratum row) :
    shuffledKeys strRepr random stratum' seed (ordered.map read) =
      shuffledKeys strRepr random stratum seed ordered := by
  rw [shuffledKeys, shuffledKeys, shuffledStrata_map random seed ordered same,
    keys_grouped_map ordered same]

theorem drawnRows_map (same : ∀ row, stratum' (read row) = stratum row)
    (limit : ℕ) :
    drawnRows strRepr random stratum' seed (ordered.map read) limit =
      (drawnRows strRepr random stratum seed ordered limit).map read := by
  rw [drawnRows, drawnRows, List.map_take, RoundRobin.map_rounds,
    shuffledKeys_map strRepr random seed ordered same,
    shuffledStrata_map random seed ordered same]
  simp only [List.map_reverse]

/-- The selection sees of the rows what is read of them. -/
theorem selectRows_map (same : ∀ row, stratum' (read row) = stratum row)
    {limit : ℕ} (enough : limit ≤ ordered.length) :
    selectRows strRepr random stratum' limit seed (ordered.map read) =
      (selectRows strRepr random stratum limit seed ordered).map
        (List.map read) := by
  rw [selectRows_eq _ _ _ _ _ enough,
    selectRows_eq _ _ _ _ _ (by rwa [List.length_map]),
    drawnRows_map strRepr random seed ordered same,
    shuffledKeys_map strRepr random seed ordered same, random.shuffle_map]
  rfl

end Read

/-! ## The queue -/

section Queue

variable {ρ : Type} (strRepr : String → String) (random : RandomSource ρ)

/-- What the function accepts. -/
structure AcceptsReview (candidates : List ReviewCandidate) (sampleSize : ℤ) :
    Prop where
  large : 300 ≤ sampleSize
  fits : sampleSize ≤ candidates.length
  unique : (candidates.map ReviewCandidate.candidateId).Nodup

/-- Distinct candidates, with nearly the same share of every stratum. -/
structure IsStratifiedQueue (candidates : List ReviewCandidate)
    (sampleSize : ℤ) (queue : List ReviewQueueItem) : Prop where
  size : queue.length = sampleSize
  distinct : (queue.map ReviewQueueItem.candidateId).Nodup
  drawn : ∀ item ∈ queue, ∃ candidate ∈ candidates, candidate.queueItem = item
  balanced : ∀ first second : ReviewStratum,
    (queue.countP fun item => item.stratum = first) ≤
        (queue.countP fun item => item.stratum = second) + 1 ∨
      (queue.countP fun item => item.stratum = second) =
        candidates.countP fun candidate => candidate.stratum = second

/-- The view that the selection has of the candidates. -/
def orderedItems (candidates : List ReviewCandidate) : List ReviewQueueItem :=
  sortBy ReviewQueueItem.candidateId
    (candidates.map ReviewCandidate.queueItem)

theorem orderedItems_perm (candidates : List ReviewCandidate) :
    (orderedItems candidates).Perm
      (candidates.map ReviewCandidate.queueItem) :=
  sortBy_perm _ _

/-- The queue that the candidates get. -/
def queueOf (candidates : List ReviewCandidate) (sampleSize : ℤ) (seed : ℤ) :
    List ReviewQueueItem :=
  (random.shuffle
    (shuffledKeys strRepr random ReviewQueueItem.stratum seed
      (orderedItems candidates)).2
    (drawnRows strRepr random ReviewQueueItem.stratum seed
      (orderedItems candidates) sampleSize.toNat)).1

theorem selectRows_queueItem {candidates : List ReviewCandidate}
    {limit : ℕ} (enough : limit ≤ candidates.length) (seed : ℤ) :
    (selectRows strRepr random ReviewCandidate.stratum limit seed
      (sortBy ReviewCandidate.candidateId candidates)).map
        (List.map ReviewCandidate.queueItem) =
      some (random.shuffle
        (shuffledKeys strRepr random ReviewQueueItem.stratum seed
          (orderedItems candidates)).2
        (drawnRows strRepr random ReviewQueueItem.stratum seed
          (orderedItems candidates) limit)).1 := by
  have view : (sortBy ReviewCandidate.candidateId candidates).map
      ReviewCandidate.queueItem = orderedItems candidates :=
    (sortBy_map ReviewQueueItem.candidateId ReviewCandidate.queueItem
      candidates).symm
  have enough' : limit ≤
      (sortBy ReviewCandidate.candidateId candidates).length := by
    rwa [(sortBy_perm _ _).length_eq]
  have selected := @selectRows_map ρ ReviewCandidate ReviewQueueItem strRepr
    random ReviewCandidate.stratum ReviewQueueItem.stratum
    ReviewCandidate.queueItem seed _ (fun _ => rfl) _ enough'
  rw [← selected, view, selectRows_eq]
  rwa [← view, List.length_map]

theorem planReviewSample_eq (candidates : List ReviewCandidate)
    (sampleSize seed : ℤ) :
    planReviewSample strRepr random candidates sampleSize seed =
      if sampleSize < 300 then .error
        (.valueError "human validation requires at least 300 candidates")
      else if candidates.length < sampleSize then .error (.valueError
        "candidate pool is smaller than the requested review sample")
      else if ¬ (candidates.map ReviewCandidate.candidateId).Nodup then
        .error (.valueError "candidate IDs must be unique")
      else .ok (queueOf strRepr random candidates sampleSize seed) := by
  rw [planReviewSample, raiseIf, raiseIf, raiseIf]
  by_cases small : sampleSize < 300
  · rw [if_pos small, if_pos small]
    rfl
  rw [if_neg small, if_neg small]
  by_cases few : candidates.length < sampleSize
  · rw [if_pos few, if_pos few]
    rfl
  rw [if_neg few, if_neg few]
  by_cases unique : (candidates.map ReviewCandidate.candidateId).Nodup
  · have selected := @selectRows_queueItem ρ strRepr random candidates
      sampleSize.toNat (by omega) seed
    obtain ⟨rows, found, same⟩ := Option.map_eq_some_iff.mp selected
    rw [if_neg (not_not.mpr unique), if_neg (not_not.mpr unique), found]
    exact congrArg Except.ok same
  · rw [if_pos unique, if_pos unique]
    rfl

theorem planReviewSample_ok {candidates : List ReviewCandidate}
    {sampleSize : ℤ} (accepts : AcceptsReview candidates sampleSize)
    (seed : ℤ) :
    planReviewSample strRepr random candidates sampleSize seed =
      .ok (queueOf strRepr random candidates sampleSize seed) := by
  rw [planReviewSample_eq, if_neg (not_lt.mpr accepts.large),
    if_neg (not_lt.mpr accepts.fits), if_neg (not_not.mpr accepts.unique)]

theorem accepts_of_ok {candidates : List ReviewCandidate} {sampleSize : ℤ}
    {seed : ℤ} {queue : List ReviewQueueItem}
    (planned : planReviewSample strRepr random candidates sampleSize seed =
      .ok queue) : AcceptsReview candidates sampleSize := by
  rw [planReviewSample_eq] at planned
  split_ifs at planned with small few unique
  exact ⟨not_lt.mp small, not_lt.mp few, unique⟩

theorem queueOf_stratified {candidates : List ReviewCandidate}
    {sampleSize : ℤ} (accepts : AcceptsReview candidates sampleSize)
    (seed : ℤ) :
    IsStratifiedQueue candidates sampleSize
      (queueOf strRepr random candidates sampleSize seed) := by
  have enough : sampleSize.toNat ≤ (orderedItems candidates).length := by
    have fits := accepts.fits
    rw [(orderedItems_perm candidates).length_eq, List.length_map]
    omega
  have shuffled : (queueOf strRepr random candidates sampleSize seed).Perm
      (drawnRows strRepr random ReviewQueueItem.stratum seed
        (orderedItems candidates) sampleSize.toNat) :=
    random.shuffle_perm _ _
  have inside : (queueOf strRepr random candidates sampleSize seed).Subperm
      (candidates.map ReviewCandidate.queueItem) :=
    (shuffled.subperm.trans (drawnRows_subperm _ _ _ _ _ _)).trans
      (orderedItems_perm candidates).subperm
  constructor
  · rw [shuffled.length_eq, drawnRows_length _ _ _ _ _ enough,
      Int.toNat_of_nonneg (by have := accepts.large; omega)]
  · obtain ⟨part, same, sub⟩ := inside
    rw [← (same.map _).nodup_iff]
    refine (sub.map ReviewQueueItem.candidateId).nodup ?_
    rw [List.map_map]
    exact accepts.unique
  · intro item member
    exact List.mem_map.mp (inside.subset member)
  · intro first second
    have tagged : ∀ key, ∀ row ∈ ((shuffledStrata random
        ReviewQueueItem.stratum seed (orderedItems candidates)).1 key).reverse,
        row.stratum = key := by
      intro key row member
      have listed := (shuffledStrata_perm random ReviewQueueItem.stratum seed
        (orderedItems candidates) key).mem_iff.mp (List.mem_reverse.mp member)
      exact of_decide_eq_true (List.mem_filter.mp listed).2
    have counted (key : ReviewStratum) :
        (queueOf strRepr random candidates sampleSize seed).countP
            (fun item => item.stratum = key) =
          ((drawnRows strRepr random ReviewQueueItem.stratum seed
            (orderedItems candidates) sampleSize.toNat).filter
              fun item => item.stratum = key).length := by
      rw [shuffled.countP_eq, List.countP_eq_length_filter]
    have available (key : ReviewStratum) :
        (candidates.countP fun candidate => candidate.stratum = key) =
          (((shuffledStrata random ReviewQueueItem.stratum seed
            (orderedItems candidates)).1 key).reverse).length := by
      rw [List.length_reverse, (shuffledStrata_perm random
        ReviewQueueItem.stratum seed (orderedItems candidates) key).length_eq,
        ← List.countP_eq_length_filter,
        (orderedItems_perm candidates).countP_eq, List.countP_map]
      rfl
    -- Strata without candidates have no share, and are exhausted.
    have absent (key : ReviewStratum) (none : key ∉ (shuffledKeys strRepr random
        ReviewQueueItem.stratum seed (orderedItems candidates)).1) :
        ((queueOf strRepr random candidates sampleSize seed).countP
          fun item => item.stratum = key) = 0 ∧
        (candidates.countP fun candidate => candidate.stratum = key) = 0 := by
      rw [mem_shuffledKeys] at none
      have nobody : ∀ candidate ∈ candidates, candidate.stratum ≠ key := by
        intro candidate member same
        exact none ⟨candidate.queueItem, (orderedItems_perm _).mem_iff.mpr
          (List.mem_map.mpr ⟨candidate, member, rfl⟩), same⟩
      constructor
      · rw [List.countP_eq_zero]
        intro item member same
        obtain ⟨candidate, listed, rfl⟩ :=
          List.mem_map.mp (inside.subset member)
        exact nobody candidate listed (of_decide_eq_true same)
      · rw [List.countP_eq_zero]
        intro candidate member same
        exact nobody candidate member (of_decide_eq_true same)
    by_cases listed : first ∈ (shuffledKeys strRepr random
        ReviewQueueItem.stratum seed (orderedItems candidates)).1
    · by_cases listed' : second ∈ (shuffledKeys strRepr random
          ReviewQueueItem.stratum seed (orderedItems candidates)).1
      · have fair := RoundRobin.taken_le_succ_of_nodup
          (shuffledKeys_nodup strRepr random ReviewQueueItem.stratum seed
            (orderedItems candidates)) listed listed'
          (le_refl sampleSize.toNat) tagged
        rw [counted, counted, available]
        exact fair
      · right
        rw [(absent second listed').1, (absent second listed').2]
    · left
      rw [(absent first listed).1]
      exact Nat.zero_le _

/-- The queue has nearly the same share of every stratum, and depends on
nothing but what reviewers see of the candidates. -/
theorem review_sample_stratified_and_blind (candidates : List ReviewCandidate)
    (sampleSize seed : ℤ) :
    ((∃ queue, planReviewSample strRepr random candidates sampleSize seed =
        .ok queue) ↔ AcceptsReview candidates sampleSize) ∧
      (∀ queue, planReviewSample strRepr random candidates sampleSize seed =
        .ok queue → IsStratifiedQueue candidates sampleSize queue) ∧
      ∀ others : List ReviewCandidate,
        (others.map ReviewCandidate.queueItem).Perm
          (candidates.map ReviewCandidate.queueItem) →
        planReviewSample strRepr random others sampleSize seed =
          planReviewSample strRepr random candidates sampleSize seed := by
  refine ⟨⟨?_, ?_⟩, ?_, ?_⟩
  · rintro ⟨queue, planned⟩
    exact accepts_of_ok strRepr random planned
  · intro accepts
    exact ⟨_, planReviewSample_ok strRepr random accepts seed⟩
  · intro queue planned
    have accepts := accepts_of_ok strRepr random planned
    rw [planReviewSample_ok strRepr random accepts] at planned
    cases planned
    exact queueOf_stratified strRepr random accepts seed
  · intro others same
    have ids : (others.map ReviewCandidate.candidateId).Perm
        (candidates.map ReviewCandidate.candidateId) := by
      have listed := same.map ReviewQueueItem.candidateId
      rwa [List.map_map, List.map_map] at listed
    have length : others.length = candidates.length := by
      simpa using same.length_eq
    rw [planReviewSample_eq, planReviewSample_eq, length]
    by_cases unique : (candidates.map ReviewCandidate.candidateId).Nodup
    · have items : orderedItems others = orderedItems candidates := by
        refine sortBy_eq_of_perm ?_ same
        rw [List.map_map]
        exact ids.nodup_iff.mpr unique
      simp only [ids.nodup_iff, queueOf, items]
    · simp only [ids.nodup_iff, unique, not_false_eq_true, if_true]

end Queue

end RagBench
