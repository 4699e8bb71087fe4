import RagBench.Analysis.CostRows
import RagBench.Core.MarkedHash
import RagBench.RoundRobin

/-!
# The failure sample

The failures of each experiment and question type are put in the order of
their hashes.  The sample takes them in turns.
-/

namespace RagBench

/-- `INSPECTION_ORDER`. -/
def inspectionOrder : List String :=
  ["original_pdf", "standard_parse", "enhanced_parse", "chunks", "rankings",
    "answer", "citations"]

structure FailureSampleItem where
  publicFailureId : String
  publicConfigId : String
  questionType : String
  primary : FailureCategory
  secondary : Option FailureCategory
  inspectionOrder : List String
  deriving DecidableEq

/-- The field constraints of `FailureSampleItem`. -/
def FailureSampleItem.validate (item : FailureSampleItem) :
    Except PyException FailureSampleItem :=
  if isHexDigest item.publicFailureId ∧ isHexDigest item.publicConfigId then
    .ok item
  else .error (validationError "FailureSampleItem")

/-- `(failure.experiment_id, failure.question_type)`. -/
def AnalysisFailure.stratum (failure : AnalysisFailure) : String ×ₗ String :=
  toLex (failure.experimentId, failure.questionType)

/-- What the public id of a failure is the hash of. -/
def failurePayload (salt : String) (failure : AnalysisFailure) : Json :=
  .object [("salt", .str salt), ("experiment", .str failure.experimentId),
    ("question", .str failure.questionId)]

/-- `sorted(strata)`. -/
def orderedStrata (failures : List AnalysisFailure) :
    List (String ×ₗ String) :=
  sortBy id (groupInto AnalysisFailure.stratum .empty failures).keys

/-- One pass of the loop over the strata. -/
def drawRound (sampleSize : ℕ) :
    List (List AnalysisFailure) → List AnalysisFailure →
      List (List AnalysisFailure) × List AnalysisFailure
  | [], selected => ([], selected)
  | [] :: queues, selected =>
      let round := drawRound sampleSize queues selected
      ([] :: round.1, round.2)
  | (row :: rows) :: queues, selected =>
      if selected.length < sampleSize then
        let round := drawRound sampleSize queues (selected ++ [row])
        (rows :: round.1, round.2)
      else
        let round := drawRound sampleSize queues selected
        ((row :: rows) :: round.1, round.2)

def notEnoughFailures : PyException :=
  .valueError "not enough failures for the requested stratified sample"

/-- `while len(selected) < sample_size`; a round that goes on has drawn a row,
so there are no more rounds than rows. -/
def drawRounds (sampleSize : ℕ) :
    ℕ → List (List AnalysisFailure) → List AnalysisFailure →
      Except PyException (List AnalysisFailure)
  | rounds, queues, selected =>
      if sampleSize ≤ selected.length then .ok selected
      else match rounds with
        | 0 => .error notEnoughFailures
        | rounds + 1 =>
            let round := drawRound sampleSize queues selected
            if round.2.length = selected.length then .error notEnoughFailures
            else drawRounds sampleSize rounds round.1 round.2

section Plan

variable (platform : Platform) (salt : String)

def failureHash (failure : AnalysisFailure) : Except PyException String :=
  platform.canonicalJsonHash (failurePayload salt failure)

/-- `rows.sort(key=...)`. -/
def sortFailures (rows : List AnalysisFailure) :
    Except PyException (List AnalysisFailure) := do
  let keys ← rows.mapM (failureHash platform salt)
  return (sortBy Prod.fst (keys.zip rows)).map Prod.snd

variable (bundle : AnalysisBundle) (sampleSize : ℤ)

/-- `selected`. -/
def selectFailures : Except PyException (List AnalysisFailure) := do
  raiseIf (¬(50 ≤ sampleSize ∧ sampleSize ≤ 100))
    (.valueError "failure sample size must be 50 through 100")
  raiseIf (bundle.failures.length < sampleSize) notEnoughFailures
  let strata := groupInto AnalysisFailure.stratum .empty bundle.failures
  let queues ← (orderedStrata bundle.failures).mapM fun stratum =>
    sortFailures platform salt (strata.getD stratum [])
  drawRounds sampleSize.toNat sampleSize.toNat queues []

def sampleItemOf (failure : AnalysisFailure) :
    Except PyException FailureSampleItem := do
  let publicFailureId ← failureHash platform salt failure
  let configHash ← configHashOf bundle failure.experimentId
  let publicId ← publicConfigId platform salt configHash
  FailureSampleItem.validate
    { publicFailureId := publicFailureId
      publicConfigId := publicId
      questionType := failure.questionType
      primary := failure.primary
      secondary := failure.secondary
      inspectionOrder := inspectionOrder }

def planFailureSample : Except PyException (List FailureSampleItem) := do
  let selected ← selectFailures platform salt bundle sampleSize
  selected.mapM (sampleItemOf platform salt bundle)

end Plan

/-! ## The rounds -/

theorem drawRound_spec {limit : ℕ} (queues : List (List AnalysisFailure))
    {selected : List AnalysisFailure} (few : selected.length ≤ limit) :
    (drawRound limit queues selected).2 =
        (selected ++ queues.filterMap List.head?).take limit ∧
      ((selected ++ queues.filterMap List.head?).length ≤ limit →
        (drawRound limit queues selected).1 = queues.map List.tail) := by
  induction queues generalizing selected with
  | nil =>
      rw [List.filterMap_nil, List.append_nil, List.take_of_length_le few]
      exact ⟨rfl, fun _ => rfl⟩
  | cons queue queues induction =>
      cases queue with
      | nil =>
          obtain ⟨drawn, rest⟩ := induction few
          exact ⟨drawn, fun room => congrArg ([] :: ·) (rest room)⟩
      | cons row rows =>
          have parts : selected ++
              ((row :: rows) :: queues).filterMap List.head? =
                selected ++ [row] ++ queues.filterMap List.head? := by
            rw [List.append_assoc]
            rfl
          rw [drawRound, parts]
          split_ifs with less
          · have few' : (selected ++ [row]).length ≤ limit := by
              rw [List.length_append]
              exact less
            obtain ⟨drawn, rest⟩ := induction few'
            exact ⟨drawn, fun room => congrArg (rows :: ·) (rest room)⟩
          · have full : selected.length = limit := by omega
            obtain ⟨drawn, -⟩ := induction few
            refine ⟨?_, fun room => ?_⟩
            · rw [List.take_left' full] at drawn
              rw [drawn, List.append_assoc, List.take_left' full]
            · rw [List.length_append, List.length_append,
                List.length_singleton] at room
              omega

theorem drawRounds_of_le {limit : ℕ} (rounds : ℕ)
    (queues : List (List AnalysisFailure)) {selected : List AnalysisFailure}
    (full : limit ≤ selected.length) :
    drawRounds limit rounds queues selected = .ok selected := by
  cases rounds with
  | zero => exact if_pos full
  | succ rounds => exact if_pos full

/-- The loop takes the first rows of the rounds. -/
theorem drawRounds_ok {σ : Type} {strata : List σ} {limit : ℕ} (count : ℕ)
    {queue : σ → List AnalysisFailure} {selected : List AnalysisFailure}
    (few : selected.length ≤ limit)
    (enough : limit ≤
      (selected ++ RoundRobin.rounds strata count queue).length) :
    drawRounds limit count (strata.map queue) selected =
      .ok ((selected ++ RoundRobin.rounds strata count queue).take limit) := by
  induction count generalizing queue selected with
  | zero =>
      rw [RoundRobin.rounds, List.append_nil] at enough ⊢
      rw [drawRounds_of_le 0 _ enough, List.take_of_length_le few]
  | succ count induction =>
      by_cases full : limit ≤ selected.length
      · rw [drawRounds_of_le _ _ full, List.take_left' (by omega)]
      · have heads : (strata.map queue).filterMap List.head? =
            RoundRobin.heads strata queue := by
          rw [List.filterMap_map]
          rfl
        obtain ⟨drawn, rest⟩ := drawRound_spec (strata.map queue) few
        rw [heads] at drawn rest
        rw [RoundRobin.rounds, ← List.append_assoc] at enough ⊢
        have some : RoundRobin.heads strata queue ≠ [] := by
          intro none
          have nothing : RoundRobin.rounds strata count
              (fun stratum => (queue stratum).tail) = [] := by
            have all := RoundRobin.rounds_eq_nil none (count + 1)
            rw [RoundRobin.rounds, none] at all
            exact all
          rw [none, nothing, List.append_nil, List.append_nil] at enough
          exact full enough
        have progressed :
            (drawRound limit (strata.map queue) selected).2.length ≠
              selected.length := by
          have more := List.length_pos_of_ne_nil some
          rw [drawn, List.length_take, List.length_append]
          omega
        rw [drawRounds, if_neg full]
        simp only [if_neg progressed]
        by_cases room : (selected ++ RoundRobin.heads strata queue).length ≤
            limit
        · rw [rest room, drawn, List.take_of_length_le room, List.map_map]
          exact induction room enough
        · have reached : limit ≤
              (drawRound limit (strata.map queue) selected).2.length := by
            rw [drawn, List.length_take]
            omega
          rw [drawRounds_of_le _ _ reached, drawn]
          exact congrArg Except.ok
            (List.take_append_of_le_length (not_le.mp room).le).symm

/-! ## The selected failures -/

/-- The hash that a failure is sorted by. -/
def failureId (platform : Platform) (salt : String)
    (failure : AnalysisFailure) : String :=
  (failureHash platform salt failure).toOption.getD ""

/-- The failures of a stratum, in the order of their hashes. -/
def stratumQueue (platform : Platform) (salt : String)
    (failures : List AnalysisFailure) (stratum : String ×ₗ String) :
    List AnalysisFailure :=
  sortBy (failureId platform salt)
    (failures.filter fun failure => failure.stratum = stratum)

section Selected

variable {platform : Platform} {floats : FloatText} {salt : String}

theorem failureHash_ok (hashes : platform.HashesCanonically floats)
    (hex : ∀ bytes, isHexDigest (platform.sha256Hex bytes) = true)
    (failure : AnalysisFailure) :
    failureHash platform salt failure =
        .ok (failureId platform salt failure) ∧
      isHexDigest (failureId platform salt failure) = true := by
  obtain ⟨digest, hashed, isDigest⟩ := hashed_object hashes hex
    [("salt", salt), ("experiment", failure.experimentId),
      ("question", failure.questionId)]
  have same : failureHash platform salt failure = .ok digest := hashed
  rw [failureId, same]
  exact ⟨rfl, isDigest⟩

theorem sortFailures_ok (hashes : platform.HashesCanonically floats)
    (hex : ∀ bytes, isHexDigest (platform.sha256Hex bytes) = true)
    (rows : List AnalysisFailure) :
    sortFailures platform salt rows =
      .ok (sortBy (failureId platform salt) rows) := by
  have keys : rows.mapM (failureHash platform salt) =
      .ok (rows.map (failureId platform salt)) := by
    rw [mapM_eq_ok, List.forall₂_map_right_iff, List.forall₂_same]
    exact fun failure _ => (failureHash_ok hashes hex failure).1
  have zipped : (rows.map (failureId platform salt)).zip rows =
      rows.map fun row => (failureId platform salt row, row) := by
    have pairs := List.zip_map' (f := failureId platform salt) (g := id)
      (l := rows)
    rwa [List.map_id] at pairs
  rw [sortFailures, keys]
  change Except.ok ((sortBy Prod.fst ((rows.map _).zip rows)).map Prod.snd) = _
  rw [zipped, sortBy_map, List.map_map]
  exact congrArg Except.ok (List.map_id _)

theorem mem_orderedStrata {failures : List AnalysisFailure}
    {stratum : String ×ₗ String} :
    stratum ∈ orderedStrata failures ↔
      ∃ failure ∈ failures, failure.stratum = stratum := by
  rw [orderedStrata, (sortBy_perm id _).mem_iff, mem_keys_groupInto]
  exact or_iff_right List.not_mem_nil

theorem orderedStrata_pairwise (failures : List AnalysisFailure) :
    (orderedStrata failures).Pairwise (· < ·) := by
  have apart := (sortBy_perm id
    (groupInto AnalysisFailure.stratum .empty failures).keys).nodup_iff.mpr
      (Dict.nodup _)
  exact ((sortBy_pairwise id _).and apart).imp fun both =>
    lt_of_le_of_ne both.1 both.2

/-- The strata do not depend on the order of the failures. -/
theorem orderedStrata_perm {failures failures' : List AnalysisFailure}
    (permuted : failures.Perm failures') :
    orderedStrata failures = orderedStrata failures' := by
  refine sortBy_eq_of_perm ?_ ?_
  · rw [List.map_id]
    exact Dict.nodup _
  · refine (List.perm_ext_iff_of_nodup (Dict.nodup _) (Dict.nodup _)).mpr ?_
    intro stratum
    change _ ∈ (groupInto _ _ _).keys ↔ _ ∈ (groupInto _ _ _).keys
    rw [mem_keys_groupInto, mem_keys_groupInto]
    simp only [permuted.mem_iff]

theorem length_stratumQueue (failures : List AnalysisFailure)
    (stratum : String ×ₗ String) :
    (stratumQueue platform salt failures stratum).length =
      failures.countP fun failure => failure.stratum = stratum := by
  rw [stratumQueue, (sortBy_perm _ _).length_eq, List.countP_eq_length_filter]

theorem stratum_of_mem_queue {failures : List AnalysisFailure}
    (stratum : String ×ₗ String) :
    ∀ row ∈ stratumQueue platform salt failures stratum,
      row.stratum = stratum := by
  intro row member
  rw [stratumQueue, (sortBy_perm _ _).mem_iff] at member
  exact of_decide_eq_true (List.mem_filter.mp member).2

/-- The first rows of the rounds. -/
def selectedFailures (platform : Platform) (salt : String)
    (failures : List AnalysisFailure) (limit : ℕ) : List AnalysisFailure :=
  (RoundRobin.rounds (orderedStrata failures) limit
    (stratumQueue platform salt failures)).take limit

theorem sum_stratumQueue (failures : List AnalysisFailure) :
    ((orderedStrata failures).map fun stratum =>
      (stratumQueue platform salt failures stratum).length).sum =
        failures.length := by
  have parts := flatMap_filter_perm AnalysisFailure.stratum
    ((orderedStrata_pairwise failures).imp ne_of_lt)
    fun failure member => mem_orderedStrata.mpr ⟨failure, member, rfl⟩
  rw [← parts.length_eq, List.length_flatMap]
  simp only [length_stratumQueue, List.countP_eq_length_filter]

theorem length_selectedFailures {failures : List AnalysisFailure} {limit : ℕ}
    (enough : limit ≤ failures.length) :
    (selectedFailures platform salt failures limit).length = limit := by
  rw [← @sum_stratumQueue platform salt failures] at enough
  rw [selectedFailures, List.length_take]
  exact min_eq_left (RoundRobin.le_length_rounds enough)

theorem mem_of_mem_selectedFailures {failures : List AnalysisFailure}
    {limit : ℕ} {row : AnalysisFailure}
    (member : row ∈ selectedFailures platform salt failures limit) :
    row ∈ failures := by
  obtain ⟨stratum, -, inside⟩ :=
    RoundRobin.exists_of_mem_rounds (List.mem_of_mem_take member)
  rw [stratumQueue, (sortBy_perm _ _).mem_iff] at inside
  exact (List.mem_filter.mp inside).1

/-- The sample can be selected where there are enough failures. -/
theorem selectFailures_ok (hashes : platform.HashesCanonically floats)
    (hex : ∀ bytes, isHexDigest (platform.sha256Hex bytes) = true)
    {bundle : AnalysisBundle} {sampleSize : ℤ}
    (range : 50 ≤ sampleSize ∧ sampleSize ≤ 100)
    (enough : sampleSize ≤ bundle.failures.length) :
    selectFailures platform salt bundle sampleSize =
      .ok (selectedFailures platform salt bundle.failures
        sampleSize.toNat) := by
  have queues : ((orderedStrata bundle.failures).mapM fun stratum =>
      sortFailures platform salt ((groupInto AnalysisFailure.stratum .empty
        bundle.failures).getD stratum [])) =
      .ok ((orderedStrata bundle.failures).map
        (stratumQueue platform salt bundle.failures)) := by
    rw [mapM_eq_ok, List.forall₂_map_right_iff, List.forall₂_same]
    intro stratum _
    rw [sortFailures_ok hashes hex, getD_groupInto]
    rfl
  have reached : sampleSize.toNat ≤ bundle.failures.length := by omega
  rw [selectFailures, raiseIf_bind (not_not.mpr range),
    raiseIf_bind (not_lt.mpr enough)]
  change ((orderedStrata bundle.failures).mapM _ >>= fun queues =>
    drawRounds _ _ queues []) = _
  rw [queues]
  refine drawRounds_ok _ (Nat.zero_le _) ?_
  rw [← @sum_stratumQueue platform salt bundle.failures] at reached
  exact RoundRobin.le_length_rounds reached

end Selected

/-! ## Repeated failures -/

/-- Both failures are of one question in one experiment. -/
def SameQuestion (first second : AnalysisFailure) : Prop :=
  first.experimentId = second.experimentId ∧
    first.questionId = second.questionId

instance (first second : AnalysisFailure) :
    Decidable (SameQuestion first second) :=
  inferInstanceAs (Decidable (_ ∧ _))

/-- How many failures of its stratum come before a failure. -/
def placeOf (platform : Platform) (salt : String)
    (failures : List AnalysisFailure) (failure : AnalysisFailure) : ℕ :=
  failures.countP fun other => other.stratum = failure.stratum ∧
    failureId platform salt other < failureId platform salt failure

/-- How many failures are drawn before the one at a place of a stratum. -/
def failureTurn (failures : List AnalysisFailure)
    (stratum : String ×ₗ String) (place : ℕ) : ℕ :=
  RoundRobin.turn (orderedStrata failures)
    (fun other => failures.countP fun failure => failure.stratum = other)
    stratum place

/-- The hashes tell the questions of the failures apart. -/
structure Identified (platform : Platform) (salt : String)
    (failures : List AnalysisFailure) : Prop where
  typed : ∀ first ∈ failures, ∀ second ∈ failures,
    SameQuestion first second → first.stratum = second.stratum
  apart : ∀ first ∈ failures, ∀ second ∈ failures,
    failureId platform salt first = failureId platform salt second →
      SameQuestion first second

section Repeats

variable {platform : Platform} {floats : FloatText} {salt : String}
  {failures : List AnalysisFailure}

theorem failureId_congr {first second : AnalysisFailure}
    (same : SameQuestion first second) :
    failureId platform salt first = failureId platform salt second := by
  rw [failureId, failureId, failureHash, failureHash, failurePayload,
    failurePayload, same.1, same.2]

private theorem text_of_same {left right : String}
    (same : Option.Rel Json.Same (some (.str left)) (some (.str right))) :
    left = right := by
  cases same with
  | some same =>
      cases same
      rfl

/-- The relations of the bundle fix the type of a question. -/
theorem identified (hashes : platform.HashesCanonically floats)
    (hex : ∀ bytes, isHexDigest (platform.sha256Hex bytes) = true)
    {bundle : AnalysisBundle}
    (separates : platform.Separates
      {payload | ∃ failure ∈ bundle.failures,
        payload = failurePayload salt failure}) :
    Identified platform salt bundle.failures := by
  refine ⟨fun first member second member' same => ?_,
    fun first member second member' same => ?_⟩
  · obtain ⟨result, listed, -, question, type⟩ :=
      bundle.failures_bound first member
    obtain ⟨result', listed', -, question', type'⟩ :=
      bundle.failures_bound second member'
    have equal := bundle.types_fixed result listed result' listed'
      (question.trans (same.2.trans question'.symm))
    rw [AnalysisFailure.stratum, AnalysisFailure.stratum, same.1, ← type,
      ← type', equal]
  · have hashed := (@failureHash_ok platform floats salt hashes hex first).1
    have hashed' := (@failureHash_ok platform floats salt hashes hex second).1
    rw [← same] at hashed'
    have payloads := separates _ ⟨first, member, rfl⟩ _
      ⟨second, member', rfl⟩ _ hashed hashed'
    have lookup := Json.Same.lookup (by simp) (by simp) payloads
    exact ⟨text_of_same (lookup "experiment"), text_of_same (lookup "question")⟩

theorem Identified.perm (of : Identified platform salt failures)
    {failures' : List AnalysisFailure} (permuted : failures.Perm failures') :
    Identified platform salt failures' where
  typed first member second member' :=
    of.typed first (permuted.mem_iff.mpr member) second
      (permuted.mem_iff.mpr member')
  apart first member second member' :=
    of.apart first (permuted.mem_iff.mpr member) second
      (permuted.mem_iff.mpr member')

private theorem countP_add_countP_le {α : Type} {items : List α}
    {first second whole : α → Bool}
    (inside : ∀ item ∈ items, first item = true → whole item = true)
    (inside' : ∀ item ∈ items, second item = true → whole item = true)
    (disjoint : ∀ item ∈ items, first item = true → second item = false) :
    items.countP first + items.countP second ≤ items.countP whole := by
  induction items with
  | nil => exact le_rfl
  | cons item items induction =>
      obtain ⟨here, later⟩ := List.forall_mem_cons.mp inside
      obtain ⟨here', later'⟩ := List.forall_mem_cons.mp inside'
      obtain ⟨apart, rest⟩ := List.forall_mem_cons.mp disjoint
      have less := induction later later' rest
      rw [List.countP_cons, List.countP_cons, List.countP_cons]
      cases left : first item with
      | true =>
          rw [if_pos (here left), apart left]
          simp only [if_true, Bool.false_eq_true, if_false]
          omega
      | false =>
          cases right : second item with
          | true =>
              rw [if_pos (here' right)]
              simp only [if_true, Bool.false_eq_true, if_false]
              omega
          | false =>
              simp only [Bool.false_eq_true, if_false]
              split_ifs <;> omega

/-- A question has its places in the stratum. -/
theorem placeOf_add_le (of : Identified platform salt failures)
    {failure : AnalysisFailure} (member : failure ∈ failures) :
    placeOf platform salt failures failure +
        (failures.countP fun other => SameQuestion other failure) ≤
      failures.countP fun other => other.stratum = failure.stratum := by
  refine countP_add_countP_le (fun other _ before => ?_)
    (fun other listed same => ?_) fun other _ before => ?_
  · exact decide_eq_true (of_decide_eq_true before).1
  · exact decide_eq_true (of.typed other listed failure member
      (of_decide_eq_true same))
  · refine decide_eq_false fun same => ?_
    exact (of_decide_eq_true before).2.ne (failureId_congr same)

/-- Of a question, the sample has the first failures whose turn comes. -/
theorem filter_selectedFailures (of : Identified platform salt failures)
    {failure : AnalysisFailure} (member : failure ∈ failures) (limit : ℕ) :
    ∃ drawn,
      (∀ place < failures.countP fun other => other.stratum = failure.stratum,
        (place < drawn ↔ failureTurn failures failure.stratum place < limit)) ∧
      (selectedFailures platform salt failures limit).filter
          (fun other => SameQuestion other failure) =
        (failures.filter fun other => SameQuestion other failure).take
          (drawn - placeOf platform salt failures failure) := by
  obtain ⟨drawn, same, turns⟩ := RoundRobin.filter_take_rounds_of_le
    (orderedStrata_pairwise failures)
    (mem_orderedStrata.mpr ⟨failure, member, rfl⟩) (le_refl limit)
    (@stratum_of_mem_queue platform salt failures)
  simp only [length_stratumQueue] at turns
  refine ⟨drawn, turns, ?_⟩
  have hash {other : AnalysisFailure} (listed : other ∈ failures) :
      decide (SameQuestion other failure) = decide
        (failureId platform salt other = failureId platform salt failure) :=
    decide_eq_decide.mpr ⟨failureId_congr, of.apart other listed failure member⟩
  have inside : (selectedFailures platform salt failures limit).filter
      (fun other => SameQuestion other failure) =
      (((selectedFailures platform salt failures limit).filter
        fun other => other.stratum = failure.stratum).filter
          fun other => failureId platform salt other =
            failureId platform salt failure) := by
    rw [List.filter_filter]
    refine List.filter_congr fun other listed => ?_
    have known := mem_of_mem_selectedFailures listed
    rw [hash known, Bool.eq_iff_iff, Bool.and_eq_true]
    simp only [decide_eq_true_eq]
    exact ⟨fun equal => ⟨equal, of.typed other known failure member
      (of.apart other known failure member equal)⟩, And.left⟩
  have before : ((failures.filter fun other =>
      other.stratum = failure.stratum).countP fun other =>
        failureId platform salt other < failureId platform salt failure) =
      placeOf platform salt failures failure := by
    rw [placeOf, List.countP_filter]
    refine List.countP_congr fun other _ => ?_
    simp only [Bool.and_eq_true, decide_eq_true_eq, and_comm]
  rw [inside, selectedFailures, same, stratumQueue,
    filter_take_of_sorted (sortBy_pairwise _ _), filter_sortBy,
    (sortBy_perm _ _).countP_eq, before, List.filter_filter]
  congr 1
  refine List.filter_congr fun other listed => ?_
  rw [hash listed, Bool.eq_iff_iff, Bool.and_eq_true]
  simp only [decide_eq_true_eq]
  exact ⟨And.left, fun equal => ⟨equal, of.typed other listed failure member
    (of.apart other listed failure member equal)⟩⟩

end Repeats

end RagBench
