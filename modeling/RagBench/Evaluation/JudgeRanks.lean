import Mathlib.Data.List.FinRange
import Mathlib.Data.List.GetD
import RagBench.AverageRank
import RagBench.Python
import RagBench.Sorting
import RagBench.WhileLoop

/-!
# Ranks of judge scores

`_ranks` sorts the indices by value and walks over the groups of equal values,
writing the average rank of a group through the sorted indices.
-/

namespace RagBench

/-! ## The loops -/

/-- `items[index] = value`. -/
def assignItem {α : Type} (items : List α) (index : ℕ) (value : α) :
    Except PyException (List α) :=
  if index < items.length then .ok (items.set index value)
  else .error (.indexError "list assignment index out of range")

section Ranks

variable (values : List ℚ)

/-- `sorted(range(len(values)), key=lambda index: values[index])`. -/
def orderedIndices : Except PyException (List ℕ) := do
  let keys ← (List.range values.length).mapM fun (index : ℕ) =>
    pyIndex values index
  return (sortBy Prod.fst (keys.zip (List.range values.length))).map Prod.snd

/-- `values[ordered[position]]`. -/
def valueAtPosition (ordered : List ℕ) (position : ℕ) :
    Except PyException ℚ := do
  let index ← pyIndex ordered position
  pyIndex values index

/-- The test of the inner loop. -/
def stillTied (ordered : List ℕ) (start stop : ℕ) :
    Except PyException Bool := do
  if stop < ordered.length then
    let other ← valueAtPosition values ordered stop
    let first ← valueAtPosition values ordered start
    return other = first
  else return false

/-- The end of the group that begins at `start`. -/
def tieEnd (rounds : ℕ) (ordered : List ℕ) (start : ℕ) :
    Bounded PyException ℕ :=
  whileLoop (fun stop => .ofExcept (stillTied values ordered start stop))
    (fun stop => return stop + 1) rounds (start + 1)

/-- The assignments of a group. -/
def writeRanks (ordered : List ℕ) (averageRank : ℚ) (start stop : ℕ)
    (ranks : List ℚ) : Except PyException (List ℚ) :=
  (List.range' start (stop - start)).foldlM (fun ranks (position : ℕ) => do
    let index ← pyIndex ordered position
    assignItem ranks index averageRank) ranks

/-- A round of the outer loop. -/
def rankTie (rounds : ℕ) (ordered : List ℕ) (state : ℕ × List ℚ) :
    Bounded PyException (ℕ × List ℚ) := do
  let stop ← tieEnd values rounds ordered state.1
  let averageRank : ℚ := (state.1 + 1 + stop) / 2
  let ranks ← .ofExcept
    (writeRanks ordered averageRank state.1 stop state.2)
  return (stop, ranks)

/-- `_ranks`, with a bound on the rounds of each loop. -/
def ranks (rounds : ℕ) : Bounded PyException (List ℚ) := do
  let ordered ← .ofExcept (orderedIndices values)
  let last ← whileLoop
    (fun state => return decide (state.1 < ordered.length))
    (rankTie values rounds ordered) rounds
    (0, List.replicate values.length 0)
  return last.2

end Ranks

/-! ## The order -/

/-- The values in order, and the indices where they stand. -/
structure SortsIndices (values items : List ℚ) (ordered : List ℕ) : Prop where
  sorted : items.Pairwise (· ≤ ·)
  permuted : items.Perm values
  indices : ordered.Perm (List.range values.length)
  located : ∀ {position index : ℕ}, ordered[position]? = some index →
    ∃ item : ℚ, items[position]? = some item ∧ values[index]? = some item

theorem orderedIndices_eq (values : List ℚ) :
    ∃ items ordered, orderedIndices values = .ok ordered ∧
      SortsIndices values items ordered := by
  have keys : ((List.range values.length).mapM fun (index : ℕ) =>
      pyIndex values index) = .ok values := by
    refine mapM_eq_ok.mpr (List.forall₂_iff_get.mpr
      ⟨List.length_range, fun position _ inside => ?_⟩)
    rw [List.get_eq_getElem, List.getElem_range]
    exact pyIndex_natCast (List.getElem?_eq_getElem inside)
  let pairs := sortBy Prod.fst (values.zip (List.range values.length))
  have same : pairs.Perm (values.zip (List.range values.length)) :=
    sortBy_perm _ _
  have lengths : values.length = (List.range values.length).length :=
    List.length_range.symm
  refine ⟨pairs.map Prod.fst, pairs.map Prod.snd, ?_, ?_, ?_, ?_, ?_⟩
  · rw [orderedIndices, keys]
    rfl
  · exact List.pairwise_map.mpr (sortBy_pairwise _ _)
  · have firsts := same.map Prod.fst
    rwa [List.map_fst_zip lengths.le] at firsts
  · have seconds := same.map Prod.snd
    rwa [List.map_snd_zip lengths.ge] at seconds
  · intro position _ found
    rw [List.getElem?_map, Option.map_eq_some_iff] at found
    obtain ⟨⟨item, index⟩, found, rfl⟩ := found
    refine ⟨item, by rw [List.getElem?_map, found]; rfl, ?_⟩
    have member := same.mem_iff.mp (List.mem_of_getElem? found)
    obtain ⟨place, there⟩ := List.getElem?_of_mem member
    obtain ⟨here, number⟩ := List.getElem?_zip_eq_some.mp there
    rw [List.getElem?_range (by
      have := (List.getElem?_eq_some_iff.mp number).1
      rwa [List.length_range] at this), Option.some_inj] at number
    exact number ▸ here

section Ranking

variable {values items : List ℚ} {ordered : List ℕ}

theorem SortsIndices.lengths (ranking : SortsIndices values items ordered) :
    items.length = values.length ∧ ordered.length = values.length :=
  ⟨ranking.permuted.length_eq,
    ranking.indices.length_eq.trans List.length_range⟩

theorem SortsIndices.valueAtPosition (ranking : SortsIndices values items ordered)
    {position : ℕ} {item : ℚ} (found : items[position]? = some item) :
    valueAtPosition values ordered position = .ok item := by
  obtain ⟨inside, -⟩ := List.getElem?_eq_some_iff.mp found
  have bounded : position < ordered.length := by
    rw [ranking.lengths.2, ← ranking.lengths.1]
    exact inside
  have index := List.getElem?_eq_getElem bounded
  obtain ⟨other, same, there⟩ := ranking.located index
  rw [found, Option.some_inj] at same
  subst same
  rw [RagBench.valueAtPosition, pyIndex_natCast index]
  exact pyIndex_natCast there

/-! ## The end of a group -/

theorem SortsIndices.stillTied (ranking : SortsIndices values items ordered)
    {start stop : ℕ} {value other : ℚ}
    (first : items[start]? = some value) (found : items[stop]? = some other) :
    stillTied values ordered start stop = .ok (decide (other = value)) := by
  obtain ⟨inside, -⟩ := List.getElem?_eq_some_iff.mp found
  have bounded : stop < ordered.length := by
    rw [ranking.lengths.2, ← ranking.lengths.1]
    exact inside
  rw [RagBench.stillTied, if_pos bounded, ranking.valueAtPosition found,
    ranking.valueAtPosition first]
  rfl

/-- The inner loop finds the end of the group. -/
theorem SortsIndices.tieEnd (ranking : SortsIndices values items ordered)
    {start rounds : ℕ} {value : ℚ} (first : items[start]? = some value)
    (before : ∀ item ∈ items.take start, item < value)
    (enough : values.length < rounds) :
    ∃ stop, tieEnd values rounds ordered start = pure stop ∧ start < stop ∧
      IsTie items value start stop := by
  obtain ⟨itemsLength, orderedLength⟩ := ranking.lengths
  obtain ⟨inside, atStart⟩ := List.getElem?_eq_some_iff.mp first
  let invariant := fun stop : ℕ => start < stop ∧ stop ≤ items.length ∧
    ∀ item ∈ (items.take stop).drop start, item = value
  have step : ∀ stop, invariant stop → Progress
      (fun stop => .ofExcept (RagBench.stillTied values ordered start stop))
      (fun stop => return stop + 1) invariant
      (fun stop => items.length - stop) stop := by
    intro stop ⟨later, bounded, tied⟩
    by_cases last : stop = items.length
    · refine Progress.ends ?_
      rw [RagBench.stillTied, if_neg (by omega)]
      rfl
    · have within : stop < items.length := by omega
      have found := List.getElem?_eq_getElem within
      by_cases same : items[stop] = value
      · refine Progress.continues ?_ rfl ⟨by omega, by omega, ?_⟩ (by omega)
        · rw [ranking.stillTied first found, same, decide_eq_true rfl]
          rfl
        · intro item member
          rw [List.take_add_one, found, List.drop_append_of_le_length (by
            rw [List.length_take]; omega)] at member
          rcases List.mem_append.mp member with earlier | new
          · exact tied item earlier
          · exact (List.mem_singleton.mp new).trans same
      · refine Progress.ends ?_
        rw [ranking.stillTied first found, decide_eq_false same]
        rfl
  have holds : invariant (start + 1) := by
    refine ⟨by omega, by omega, fun item member => ?_⟩
    rw [List.take_add_one, first, List.drop_append_of_le_length (by
      rw [List.length_take]; omega), List.drop_take, Nat.sub_self] at member
    exact List.mem_singleton.mp member
  obtain ⟨stop, ends, ⟨later, bounded, tied⟩, exit⟩ :=
    whileLoop_ends step holds (show _ < rounds by omega)
  refine ⟨stop, ends, later, before, tied, ?_, later.le, bounded⟩
  -- the items are in order, so the first other one is larger
  by_cases last : stop = items.length
  · rw [last, List.drop_length]
    exact fun item member => absurd member List.not_mem_nil
  · have within : stop < items.length := by omega
    have found := List.getElem?_eq_getElem within
    rw [ranking.stillTied first found] at exit
    have other : ¬items[stop] = value := by
      intro same
      rw [decide_eq_true same] at exit
      cases exit
    have above : value < items[stop] := by
      refine lt_of_le_of_ne ?_ (Ne.symm other)
      rw [← atStart]
      exact List.pairwise_iff_getElem.mp ranking.sorted _ _ _ _ later
    intro item member
    rw [List.drop_eq_getElem_cons within] at member
    rcases List.mem_cons.mp member with rfl | rest
    · exact above
    · have sorted := ranking.sorted.drop (i := stop)
      rw [List.drop_eq_getElem_cons within] at sorted
      exact above.trans_le ((List.pairwise_cons.mp sorted).1 item rest)

/-! ## The ranks written -/

/-- The list of ranks when the first positions are done. -/
def ranksUpTo (values : List ℚ) (ordered : List ℕ) (count : ℕ) : List ℚ :=
  (List.range values.length).map fun index =>
    if index ∈ ordered.take count then
      averageRank values (values.getD index 0)
    else 0

theorem ranksUpTo_zero (values : List ℚ) (ordered : List ℕ) :
    ranksUpTo values ordered 0 = List.replicate values.length 0 := by
  simp [ranksUpTo]

theorem SortsIndices.ranksUpTo_length
    (ranking : SortsIndices values items ordered) :
    ranksUpTo values ordered values.length =
      values.map (averageRank values) := by
  refine List.ext_getElem (by simp [ranksUpTo]) fun index _ inside => ?_
  rw [List.length_map] at inside
  have member : index ∈ ordered :=
    ranking.indices.mem_iff.mpr (List.mem_range.mpr inside)
  have all : ordered.take values.length = ordered :=
    List.take_of_length_le ranking.lengths.2.le
  simp only [ranksUpTo, all, List.getElem_map, List.getElem_range]
  rw [if_pos member, List.getD_eq_getElem _ _ inside]

theorem assign_ranksUpTo {position index : ℕ} {value : ℚ}
    (located : ordered[position]? = some index)
    (found : values[index]? = some value) :
    assignItem (ranksUpTo values ordered position) index
        (averageRank values value) =
      .ok (ranksUpTo values ordered (position + 1)) := by
  obtain ⟨inside, rfl⟩ := List.getElem?_eq_some_iff.mp found
  rw [assignItem, if_pos (by simpa [ranksUpTo] using inside)]
  refine congrArg Except.ok (List.ext_getElem (by simp [ranksUpTo]) ?_)
  intro other _ bounded
  have within : other < values.length := by
    simpa [ranksUpTo] using bounded
  rw [List.getElem_set]
  simp only [ranksUpTo, List.getElem_map, List.getElem_range,
    List.take_add_one, located, Option.toList_some, List.mem_append,
    List.mem_singleton, List.getD_eq_getElem _ _ within]
  by_cases same : index = other
  · subst same
    rw [if_pos rfl, if_pos (Or.inr rfl)]
  · rw [if_neg same]
    simp only [Ne.symm same, or_false]

/-- The assignments of a group, by induction on their number. -/
theorem SortsIndices.writeRanks (ranking : SortsIndices values items ordered)
    {value : ℚ} {start count : ℕ}
    (tied : ∀ position, start ≤ position → position < start + count →
      items[position]? = some value) :
    (List.range' start count).foldlM (fun ranks (position : ℕ) => do
        let index ← pyIndex ordered position
        assignItem ranks index (averageRank values value))
        (ranksUpTo values ordered start) =
      .ok (ranksUpTo values ordered (start + count)) := by
  induction count generalizing start with
  | zero => rfl
  | succ count induction =>
      have first := tied start le_rfl (by omega)
      obtain ⟨inside, -⟩ := List.getElem?_eq_some_iff.mp first
      have bounded : start < ordered.length := by
        rw [ranking.lengths.2, ← ranking.lengths.1]
        exact inside
      have index := List.getElem?_eq_getElem bounded
      obtain ⟨other, same, found⟩ := ranking.located index
      rw [first, Option.some_inj] at same
      subst same
      have rest := induction
        fun position (low : start + 1 ≤ position) high =>
          tied position (by omega) (by omega)
      rw [List.range'_succ, List.foldlM_cons, pyIndex_natCast index]
      change ((assignItem _ _ _).bind _) = _
      rw [assign_ranksUpTo index found, show start + (count + 1) =
        start + 1 + count by omega]
      exact rest

/-- The positions of a group have its value. -/
theorem IsTie.getElem? {value : ℚ} {start stop position : ℕ}
    (tie : IsTie items value start stop) (low : start ≤ position)
    (high : position < stop) : items[position]? = some value := by
  have inside : position < items.length := high.trans_le tie.inside.2
  have found := List.getElem?_eq_getElem inside
  rw [found, tie.tied items[position]]
  refine List.mem_of_getElem? (i := position - start) ?_
  rw [List.getElem?_drop, Nat.add_sub_cancel' low,
    List.getElem?_take_of_lt high, found]

/-- The first positions have smaller values than the others. -/
def IsBoundary (items : List ℚ) (position : ℕ) : Prop :=
  ∀ item ∈ items.take position, ∀ other ∈ items.drop position, item < other

theorem IsTie.isBoundary {value : ℚ} {start stop : ℕ}
    (tie : IsTie items value start stop) : IsBoundary items stop := by
  intro item member other later
  have above := tie.after other later
  rw [← List.take_append_drop start (items.take stop), List.take_take,
    Nat.min_eq_left tie.inside.1] at member
  rcases List.mem_append.mp member with earlier | group
  · exact (tie.before item earlier).trans above
  · rw [tie.tied item group]
    exact above

/-- A round ranks the group that begins at `start`. -/
theorem SortsIndices.rankTie (ranking : SortsIndices values items ordered)
    {start rounds : ℕ} {value : ℚ} (first : items[start]? = some value)
    (before : ∀ item ∈ items.take start, item < value)
    (enough : values.length < rounds) :
    ∃ stop, start < stop ∧ IsTie items value start stop ∧
      rankTie values rounds ordered
          (start, ranksUpTo values ordered start) =
        pure (stop, ranksUpTo values ordered stop) := by
  obtain ⟨stop, ends, later, tie⟩ := ranking.tieEnd first before enough
  refine ⟨stop, later, tie, ?_⟩
  have writes := ranking.writeRanks
    fun position low (high : position < start + (stop - start)) =>
      tie.getElem? low (by omega)
  have rank : averageRank values value = (start + 1 + stop) / 2 := by
    rw [← averageRank_perm ranking.permuted]
    exact tie.averageRank
  rw [Nat.add_sub_cancel' later.le, rank] at writes
  rw [RagBench.rankTie, ends, pure_bind]
  change (do
    let ranks ← Bounded.ofExcept (RagBench.writeRanks ordered _ _ _ _)
    return (stop, ranks)) = _
  rw [RagBench.writeRanks, writes]
  rfl

/-- Every group is ranked when the outer loop ends. -/
theorem ranks_eq (values : List ℚ) {rounds : ℕ}
    (enough : values.length < rounds) :
    ranks values rounds = pure (values.map (averageRank values)) := by
  obtain ⟨items, ordered, sorts, ranking⟩ := orderedIndices_eq values
  obtain ⟨itemsLength, orderedLength⟩ := ranking.lengths
  let invariant := fun state : ℕ × List ℚ => ∃ start ≤ values.length,
    state = (start, ranksUpTo values ordered start) ∧ IsBoundary items start
  have step : ∀ state, invariant state → Progress
      (fun state => return decide (state.1 < ordered.length))
      (rankTie values rounds ordered) invariant
      (fun state => values.length - state.1) state := by
    rintro _ ⟨start, bounded, rfl, boundary⟩
    by_cases inside : start < items.length
    · have first := List.getElem?_eq_getElem inside
      have before : ∀ item ∈ items.take start, item < items[start] := by
        intro item member
        refine boundary item member _ ?_
        rw [List.drop_eq_getElem_cons inside]
        exact List.mem_cons_self
      obtain ⟨stop, later, tie, ranks⟩ :=
        ranking.rankTie first before enough
      have within : stop ≤ items.length := tie.inside.2
      refine Progress.continues ?_ ranks
        ⟨stop, within.trans itemsLength.le, rfl, tie.isBoundary⟩ ?_
      · exact congrArg pure (decide_eq_true (by omega))
      · change values.length - stop < values.length - start
        omega
    · exact Progress.ends (congrArg pure (decide_eq_false (by omega)))
  have holds : invariant (0, List.replicate values.length 0) := by
    refine ⟨0, Nat.zero_le _, ?_, fun item member => ?_⟩
    · rw [ranksUpTo_zero]
    · exact absurd member List.not_mem_nil
  obtain ⟨_, ends, ⟨stop, bounded, rfl, -⟩, exit⟩ :=
    whileLoop_ends step holds (show values.length - 0 < rounds by omega)
  have all : stop = values.length := by
    by_contra short
    rw [decide_eq_true (by omega)] at exit
    cases exit
  rw [ranks, sorts, Bounded.ofExcept_ok, pure_bind, ends, pure_bind, all,
    ranking.ranksUpTo_length]

end Ranking

/-! ## What the ranks are -/

/-- The ranks of a list of values. -/
structure AreRanks (values ranks : List ℚ) : Prop where
  length : ranks.length = values.length
  rank : ∀ {index : ℕ} {value : ℚ}, values[index]? = some value →
    ranks[index]? = some
      ((values.countP fun other => other < value : ℕ) +
        values.count value / 2 + 1 / 2 : ℚ)
  equal : ∀ {first second : ℕ} {value : ℚ}, values[first]? = some value →
    values[second]? = some value → ranks[first]? = ranks[second]?
  larger : ∀ {low high : ℕ} {value other rank rank' : ℚ},
    values[low]? = some value → values[high]? = some other → value < other →
    ranks[low]? = some rank → ranks[high]? = some rank' → rank < rank'
  sum : ranks.sum = values.length * (values.length + 1) / 2

theorem areRanks (values : List ℚ) :
    AreRanks values (values.map (averageRank values)) where
  length := List.length_map _
  rank found := by rw [List.getElem?_map, found]; rfl
  equal first second := by rw [List.getElem?_map, List.getElem?_map, first,
    second]
  larger low high less first second := by
    rw [List.getElem?_map, low] at first
    rw [List.getElem?_map, high] at second
    cases first
    cases second
    exact averageRank_lt (List.mem_of_getElem? low) less
  sum := sum_averageRank values

/-- The loops end, and write the average ranks, also of a permuted list. -/
theorem ranks_correct (values : List ℚ) :
    ∃ result : List ℚ, ∃ same : result.length = values.length,
      (∀ extra, ranks values (values.length + 1 + extra) = pure result) ∧
      AreRanks values result ∧
      ∀ (σ : Equiv.Perm (Fin values.length)) (extra : ℕ),
        ranks (List.ofFn fun index => values.get (σ index))
            (values.length + 1 + extra) =
          pure (List.ofFn fun index =>
            result.get ((σ index).cast same.symm)) := by
  refine ⟨values.map (averageRank values), List.length_map _,
    fun extra => ranks_eq values (by omega), areRanks values,
    fun σ extra => ?_⟩
  have permuted : (List.ofFn fun index => values.get (σ index)).Perm
      values := by
    have moved := σ.ofFn_comp_perm values.get
    rwa [List.ofFn_get] at moved
  rw [ranks_eq _ (by rw [List.length_ofFn]; omega),
    averageRank_perm permuted, List.map_ofFn]
  refine congrArg pure (congrArg List.ofFn (funext fun index => ?_))
  rw [List.get_eq_getElem, List.getElem_map]
  rfl

end RagBench
