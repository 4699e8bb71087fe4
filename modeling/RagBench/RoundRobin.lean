import Mathlib.Algebra.BigOperators.Group.List.Basic
import Mathlib.Algebra.GroupWithZero.Nat
import Mathlib.Algebra.Order.BigOperators.Group.List
import Mathlib.Algebra.Order.Group.Nat
import Mathlib.Data.List.Basic
import Mathlib.Order.Basic

/-!
# Round robin

Each round takes the first row of every queue that has one, in the order of
the strata.  Of the first rows, a stratum has a prefix of its queue, and the
turn of a place says whether the prefix reaches it.
-/

namespace RagBench

namespace RoundRobin

variable {σ α : Type}

/-- The first rows of the queues. -/
def heads (strata : List σ) (queue : σ → List α) : List α :=
  strata.filterMap fun stratum => (queue stratum).head?

/-- The rows of some rounds. -/
def rounds (strata : List σ) : ℕ → (σ → List α) → List α
  | 0, _ => []
  | count + 1, queue =>
      heads strata queue ++
        rounds strata count fun stratum => (queue stratum).tail

theorem map_rounds {β : Type} (read : α → β) (strata : List σ) (count : ℕ)
    (queue : σ → List α) :
    (rounds strata count queue).map read =
      rounds strata count fun stratum => (queue stratum).map read := by
  induction count generalizing queue with
  | zero => rfl
  | succ count induction =>
      rw [rounds, rounds, List.map_append, induction, heads, heads,
        List.map_filterMap]
      simp only [List.head?_map, List.map_tail]

/-- The rounds depend on the queues of the strata alone. -/
theorem rounds_congr {strata : List σ} {queue other : σ → List α}
    (same : ∀ stratum ∈ strata, queue stratum = other stratum) (count : ℕ) :
    rounds strata count queue = rounds strata count other := by
  induction count generalizing queue other with
  | zero => rfl
  | succ count induction =>
      have first : heads strata queue = heads strata other :=
        List.filterMap_congr fun stratum member => by rw [same stratum member]
      rw [rounds, rounds, first]
      congr 1
      exact induction fun stratum member => by rw [same stratum member]

/-- Strata that are read from others. -/
theorem rounds_map {τ : Type} (name : τ → σ) (strata : List τ) (count : ℕ)
    (queue : σ → List α) :
    rounds (strata.map name) count queue =
      rounds strata count fun stratum => queue (name stratum) := by
  induction count generalizing queue with
  | zero => rfl
  | succ count induction =>
      rw [rounds, rounds, induction, heads, heads, List.filterMap_map]
      rfl

/-- A row of the rounds is from one of the queues. -/
theorem exists_of_mem_rounds {strata : List σ} {count : ℕ}
    {queue : σ → List α} {row : α} (member : row ∈ rounds strata count queue) :
    ∃ stratum ∈ strata, row ∈ queue stratum := by
  induction count generalizing queue with
  | zero => cases member
  | succ count induction =>
      rcases List.mem_append.mp member with first | later
      · obtain ⟨stratum, listed, head⟩ := List.mem_filterMap.mp first
        exact ⟨stratum, listed, List.mem_of_mem_head? head⟩
      · obtain ⟨stratum, listed, inside⟩ := induction later
        exact ⟨stratum, listed, List.mem_of_mem_tail inside⟩

theorem length_heads (strata : List σ) (queue : σ → List α) :
    (heads strata queue).length =
      strata.countP fun stratum => 0 < (queue stratum).length := by
  rw [heads, List.length_filterMap_eq_countP]
  refine List.countP_congr fun stratum _ => ?_
  cases queue stratum <;> simp

theorem length_rounds (strata : List σ) (count : ℕ) (queue : σ → List α) :
    (rounds strata count queue).length =
      (strata.map fun stratum => min (queue stratum).length count).sum := by
  induction count generalizing queue with
  | zero => simp [rounds]
  | succ count induction =>
      rw [rounds, List.length_append, induction, length_heads]
      clear induction
      induction strata with
      | nil => rfl
      | cons stratum strata induction =>
          rw [List.countP_cons, List.map_cons, List.map_cons, List.sum_cons,
            List.sum_cons, ← induction, List.length_tail]
          by_cases some : 0 < (queue stratum).length
          · rw [if_pos (decide_eq_true some)]
            omega
          · rw [if_neg (by simpa using some)]
            omega

/-- Empty queues have no rounds. -/
theorem rounds_eq_nil {strata : List σ} {queue : σ → List α}
    (none : heads strata queue = []) (count : ℕ) :
    rounds strata count queue = [] := by
  have short := length_heads strata queue
  rw [none, List.length_nil, eq_comm, List.countP_eq_zero] at short
  rw [← List.length_eq_zero_iff, length_rounds, List.sum_eq_zero_iff]
  intro size member
  obtain ⟨stratum, listed, rfl⟩ := List.mem_map.mp member
  have empty := short stratum listed
  simp only [decide_eq_true_eq, not_lt] at empty
  omega

/-- A limit that the queues reach is reached in as many rounds. -/
theorem le_length_rounds {strata : List σ} {queue : σ → List α} {limit : ℕ}
    (enough : limit ≤ (strata.map fun stratum => (queue stratum).length).sum) :
    limit ≤ (rounds strata limit queue).length := by
  rw [length_rounds]
  have least : min (strata.map fun stratum => (queue stratum).length).sum
      limit ≤ (strata.map fun stratum =>
        min (queue stratum).length limit).sum := by
    clear enough
    induction strata with
    | nil => simp
    | cons stratum strata induction =>
        rw [List.map_cons, List.map_cons, List.sum_cons, List.sum_cons]
        omega
  omega

/-- The rounds repeat no row of the queues. -/
theorem rounds_subperm (strata : List σ) (count : ℕ) (queue : σ → List α) :
    (rounds strata count queue).Subperm (strata.flatMap queue) := by
  induction count generalizing queue with
  | zero => exact List.nil_subperm
  | succ count induction =>
      have parts : (heads strata queue ++
          strata.flatMap fun stratum => (queue stratum).tail).Perm
            (strata.flatMap queue) := by
        clear induction
        induction strata with
        | nil => exact .refl _
        | cons stratum strata induction =>
            rw [heads, List.filterMap_cons, List.flatMap_cons,
              List.flatMap_cons]
            cases queue stratum with
            | nil => exact induction
            | cons row rows =>
                refine List.Perm.cons row ?_
                refine List.perm_append_comm_assoc _ _ _ |>.trans ?_
                exact induction.append_left rows
      refine List.Subperm.trans ?_ parts.subperm
      exact (List.subperm_append_left _).mpr (induction _)

/-- The first row of a stratum is reached where few strata come before. -/
theorem mem_take_rounds {before after : List σ} {stratum : σ}
    {queue : σ → List α} {row : α} (first : (queue stratum).head? = some row)
    {limit : ℕ} (few : before.length < limit) (count : ℕ) :
    row ∈ (rounds (before ++ stratum :: after) (count + 1) queue).take
      limit := by
  have parts : heads (before ++ stratum :: after) queue =
      heads before queue ++ row :: heads after queue := by
    rw [heads, List.filterMap_append, List.filterMap_cons, first]
    rfl
  have short : (heads before queue).length < limit :=
    (List.length_filterMap_le _ before).trans_lt few
  rw [rounds, parts, List.append_assoc, List.take_append]
  apply List.mem_append_right
  obtain ⟨more, size⟩ := Nat.exists_eq_add_of_lt short
  have left : limit - (heads before queue).length = more + 1 := by omega
  rw [left, List.cons_append, List.take_succ_cons]
  exact List.mem_cons_self

/-- The second row is reached after one row of every stratum. -/
theorem mem_take_rounds_tail {strata : List σ} {queue : σ → List α} {row : α}
    {limit count : ℕ} (later : row ∈ (rounds strata count
      fun stratum => (queue stratum).tail).take (limit - strata.length)) :
    row ∈ (rounds strata (count + 1) queue).take limit := by
  have short : (heads strata queue).length ≤ strata.length :=
    List.length_filterMap_le _ strata
  rw [rounds, List.take_append]
  apply List.mem_append_right
  have fewer : limit - strata.length ≤ limit - (heads strata queue).length := by
    omega
  exact (List.take_prefix_take_left fewer).subset later

/-! ## Level counts -/

/-- The counts of the strata differ by at most one. -/
def IsLevel (strata : List σ) (count : σ → ℕ) : Prop :=
  ∀ first ∈ strata, ∀ second ∈ strata, count first ≤ count second + 1

instance [DecidableEq σ] (strata : List σ) (count : σ → ℕ) :
    Decidable (IsLevel strata count) :=
  inferInstanceAs (Decidable (∀ first ∈ strata, ∀ second ∈ strata, _))

/-- Fair counts are level where any counts of the same sum are. -/
theorem isLevel_of_exists {strata : List σ} {taken other size : σ → ℕ}
    (fair : ∀ first ∈ strata, ∀ second ∈ strata,
      taken first ≤ taken second + 1 ∨ taken second = size second)
    (fits : ∀ stratum ∈ strata, other stratum ≤ size stratum)
    (total : (strata.map other).sum = (strata.map taken).sum)
    (level : IsLevel strata other) : IsLevel strata taken := by
  intro first listed second listed'
  by_contra ahead
  have exhausted := (fair first listed second listed').resolve_left ahead
  have room := fits second listed'
  have close := level first listed second listed'
  have fewer : other first < taken first := by omega
  -- Some stratum makes up for the rows that the first one lacks.
  obtain ⟨third, listed'', more⟩ : ∃ third ∈ strata,
      taken third < other third := by
    by_contra none
    have most : ∀ stratum ∈ strata, other stratum ≤ taken stratum :=
      fun stratum member => not_lt.mp fun more => none ⟨stratum, member, more⟩
    exact total.not_lt (List.sum_lt_sum _ _ most ⟨first, listed, fewer⟩)
  have fits'' := fits third listed''
  have fair'' := fair first listed third listed''
  have close'' := level third listed'' second listed'
  omega

/-! ## Turns -/

section Turns

variable [LinearOrder σ]

/-- How many rows come before the row at a place of a queue. -/
def turn (strata : List σ) (size : σ → ℕ) (stratum : σ) (place : ℕ) : ℕ :=
  (strata.map fun other => min (size other) place).sum +
    strata.countP fun other => other < stratum ∧ place < size other

theorem turn_zero (strata : List σ) (size : σ → ℕ) (stratum : σ) :
    turn strata size stratum 0 =
      strata.countP fun other => other < stratum ∧ 0 < size other := by
  simp [turn]

/-- A later place waits for one more row of every queue that has one. -/
theorem turn_succ (strata : List σ) (size : σ → ℕ) (stratum : σ)
    (place : ℕ) :
    turn strata size stratum (place + 1) =
      (strata.countP fun other => 0 < size other) +
        turn strata (fun other => size other - 1) stratum place := by
  have before : (strata.map fun other => min (size other) (place + 1)).sum =
      (strata.countP fun other => 0 < size other) +
        (strata.map fun other => min (size other - 1) place).sum := by
    induction strata with
    | nil => rfl
    | cons other strata induction =>
        rw [List.countP_cons, List.map_cons, List.map_cons, List.sum_cons,
          List.sum_cons, induction]
        by_cases some : 0 < size other
        · rw [if_pos (decide_eq_true some)]
          omega
        · rw [if_neg (by simpa using some)]
          omega
  rw [turn, turn, before, Nat.add_assoc]
  congr 2
  refine List.countP_congr fun other _ => ?_
  simp only [decide_eq_true_eq]
  exact and_congr_right fun _ => Nat.lt_sub_iff_add_lt.symm

theorem turn_le_sum (strata : List σ) (size : σ → ℕ) (stratum : σ)
    (place : ℕ) :
    turn strata size stratum place ≤
      (strata.map fun other => min (size other) (place + 1)).sum := by
  rw [turn]
  induction strata with
  | nil => exact le_rfl
  | cons other strata induction =>
      rw [List.map_cons, List.map_cons, List.sum_cons, List.sum_cons,
        List.countP_cons]
      split_ifs with early
      · have room := (of_decide_eq_true early).2
        omega
      · omega

/-- An earlier place of any queue has no later turn. -/
theorem turn_le_turn (strata : List σ) (size : σ → ℕ) (first second : σ)
    {early late : ℕ} (less : early < late) :
    turn strata size first early ≤ turn strata size second late := by
  refine (turn_le_sum strata size first early).trans
    (le_trans ?_ (Nat.le_add_right _ _))
  refine List.sum_le_sum fun other _ => ?_
  exact min_le_min_left _ less

/-- A place waits at least for the earlier places of its queue. -/
theorem le_turn {strata : List σ} {stratum : σ} (listed : stratum ∈ strata)
    (size : σ → ℕ) {place : ℕ} (inside : place < size stratum) :
    place ≤ turn strata size stratum place := by
  refine le_trans ?_ (Nat.le_add_right _ _)
  have member : min (size stratum) place ∈
      strata.map fun other => min (size other) place :=
    List.mem_map.mpr ⟨stratum, listed, rfl⟩
  rw [min_eq_right inside.le] at member
  exact List.le_sum_of_mem member

/-! ## What a stratum has among the first rows -/

variable {strata : List σ} {queue : σ → List α} {tag : α → σ}

omit [LinearOrder σ] in
private theorem tag_of_mem_heads (tagged : ∀ stratum, ∀ row ∈ queue stratum,
      tag row = stratum) {row : α} (member : row ∈ heads strata queue) :
    tag row ∈ strata := by
  obtain ⟨stratum, listed, first⟩ := List.mem_filterMap.mp member
  rwa [tagged stratum row (List.mem_of_mem_head? first)]

private theorem filter_take_others (tagged : ∀ stratum, ∀ row ∈ queue stratum,
      tag row = stratum) {part : List σ} {stratum : σ}
    (different : stratum ∉ part) (count : ℕ) :
    ((heads part queue).take count).filter
      (fun row => tag row = stratum) = [] := by
  rw [List.filter_eq_nil_iff]
  intro row member same
  have inside := tag_of_mem_heads tagged (List.mem_of_mem_take member)
  exact different (of_decide_eq_true same ▸ inside)

/-- The first row of a stratum is among the first ones by its turn. -/
private theorem filter_take_heads (ordered : strata.Pairwise (· < ·))
    (tagged : ∀ stratum, ∀ row ∈ queue stratum, tag row = stratum)
    {stratum : σ} (listed : stratum ∈ strata) (limit : ℕ) :
    ((heads strata queue).take limit).filter (fun row => tag row = stratum) =
      if turn strata (fun other => (queue other).length) stratum 0 < limit
      then (queue stratum).take 1 else [] := by
  obtain ⟨before, after, rfl⟩ := List.append_of_mem listed
  obtain ⟨-, rest, below⟩ := List.pairwise_append.mp ordered
  have above := (List.pairwise_cons.mp rest).1
  have smaller : ∀ other ∈ before, other < stratum := fun other member =>
    below other member stratum List.mem_cons_self
  have place : turn (before ++ stratum :: after)
      (fun other => (queue other).length) stratum 0 =
        (heads before queue).length := by
    have none : (stratum :: after).countP (fun other =>
        other < stratum ∧ 0 < (queue other).length) = 0 := by
      rw [List.countP_eq_zero]
      intro other member early
      have less := (of_decide_eq_true early).1
      rcases List.mem_cons.mp member with rfl | later
      · exact lt_irrefl _ less
      · exact lt_asymm less (above other later)
    rw [turn_zero, length_heads, List.countP_append, none, Nat.add_zero]
    refine List.countP_congr fun other member => ?_
    simp only [smaller other member, true_and]
  have notBefore : stratum ∉ before := fun member =>
    lt_irrefl _ (smaller stratum member)
  have notAfter : stratum ∉ after := fun member =>
    lt_irrefl _ (above stratum member)
  rw [place]
  cases rows : queue stratum with
  | nil =>
      have parts : heads (before ++ stratum :: after) queue =
          heads before queue ++ heads after queue := by
        rw [heads, List.filterMap_append, List.filterMap_cons, rows]
        rfl
      rw [parts, List.take_append, List.filter_append,
        filter_take_others tagged notBefore,
        filter_take_others tagged notAfter, List.take_nil, ite_self]
      rfl
  | cons row rows' =>
      have parts : heads (before ++ stratum :: after) queue =
          heads before queue ++ row :: heads after queue := by
        rw [heads, List.filterMap_append, List.filterMap_cons, rows]
        rfl
      have same : tag row = stratum :=
        tagged stratum row (rows ▸ List.mem_cons_self)
      rw [parts, List.take_append, List.filter_append,
        filter_take_others tagged notBefore, List.nil_append]
      split_ifs with early
      · obtain ⟨more, size⟩ := Nat.exists_eq_add_of_lt early
        have left : limit - (heads before queue).length = more + 1 := by omega
        rw [left, List.take_succ_cons, List.filter_cons_of_pos (by simpa),
          filter_take_others tagged notAfter]
        rfl
      · rw [Nat.sub_eq_zero_of_le (not_lt.mp early)]
        rfl

/-- Among the first rows of the rounds, a stratum has the rows of its queue
whose turn comes. -/
theorem filter_take_rounds (ordered : strata.Pairwise (· < ·)) {stratum : σ}
    (listed : stratum ∈ strata) (count limit : ℕ) {queue : σ → List α}
    (tagged : ∀ stratum, ∀ row ∈ queue stratum, tag row = stratum) :
    ∃ drawn ≤ count,
      ((rounds strata count queue).take limit).filter
          (fun row => tag row = stratum) = (queue stratum).take drawn ∧
        ∀ place < count, place < (queue stratum).length →
          (place < drawn ↔ turn strata (fun other => (queue other).length)
            stratum place < limit) := by
  induction count generalizing limit queue with
  | zero =>
      refine ⟨0, le_rfl, ?_, fun place few => absurd few (Nat.not_lt_zero _)⟩
      rw [rounds, List.take_nil, List.take_zero]
      rfl
  | succ count induction =>
      have tagged' : ∀ stratum, ∀ row ∈ (queue stratum).tail,
          tag row = stratum := fun stratum row member =>
        tagged stratum row (List.mem_of_mem_tail member)
      obtain ⟨drawn, few, later, turns⟩ :=
        induction (limit - (heads strata queue).length) tagged'
      rw [rounds, List.take_append, List.filter_append,
        filter_take_heads ordered tagged listed, later]
      have next (place : ℕ) := turn_succ strata
        (fun other => (queue other).length) stratum place
      simp only [List.length_tail] at turns
      cases rows : queue stratum with
      | nil =>
          refine ⟨0, Nat.zero_le _, ?_, fun place _ some => ?_⟩
          · rw [List.tail_nil, List.take_nil, List.take_nil, ite_self]
            rfl
          · exact absurd some (Nat.not_lt_zero _)
      | cons row rows' =>
          rw [rows] at turns
          split_ifs with early
          · refine ⟨drawn + 1, Nat.succ_le_succ few, rfl, ?_⟩
            intro place inside some
            cases place with
            | zero => exact iff_of_true (Nat.succ_pos _) early
            | succ place =>
                have reached := turns place (Nat.lt_of_succ_lt_succ inside)
                  (Nat.lt_of_succ_lt_succ some)
                rw [next, ← length_heads, Nat.succ_lt_succ_iff, reached]
                omega
          · have round : limit ≤ (heads strata queue).length := by
              refine (not_lt.mp early).trans ?_
              rw [turn_zero, length_heads]
              refine List.countP_mono_left fun other _ first => ?_
              exact decide_eq_true (of_decide_eq_true first).2
            rw [Nat.sub_eq_zero_of_le round, rows] at later
            refine ⟨0, Nat.zero_le _, later.symm, fun place _ _ => ?_⟩
            refine iff_of_false (Nat.not_lt_zero _) (not_lt.mpr ?_)
            cases place with
            | zero => exact not_lt.mp early
            | succ place =>
                rw [next, ← length_heads]
                exact round.trans (Nat.le_add_right _ _)

/-- With enough rounds the turns of all places are told. -/
theorem filter_take_rounds_of_le (ordered : strata.Pairwise (· < ·))
    {stratum : σ} (listed : stratum ∈ strata) {count limit : ℕ}
    (enough : limit ≤ count) {queue : σ → List α}
    (tagged : ∀ stratum, ∀ row ∈ queue stratum, tag row = stratum) :
    ∃ drawn,
      ((rounds strata count queue).take limit).filter
          (fun row => tag row = stratum) = (queue stratum).take drawn ∧
        ∀ place < (queue stratum).length,
          (place < drawn ↔ turn strata (fun other => (queue other).length)
            stratum place < limit) := by
  obtain ⟨drawn, few, same, turns⟩ :=
    filter_take_rounds ordered listed count limit tagged
  refine ⟨drawn, same, fun place inside => ?_⟩
  rcases lt_or_ge place count with early | late
  · exact turns place early inside
  · have waits := @le_turn σ _ strata stratum listed
      (fun other => (queue other).length) place inside
    exact iff_of_false (not_lt.mpr (few.trans late))
      (not_lt.mpr (enough.trans (late.trans waits)))

private theorem countP_range_lt (limit size : ℕ) :
    (List.range size).countP (· < limit) = min limit size := by
  induction size with
  | zero => simp
  | succ size induction =>
      rw [List.range_succ, List.countP_append, induction,
        List.countP_singleton]
      by_cases less : size < limit
      · rw [if_pos (decide_eq_true less)]
        omega
      · rw [if_neg (by simpa using less)]
        omega

/-- How many rows of a stratum are among the first ones. -/
def share (strata : List σ) (size : σ → ℕ) (limit : ℕ) (stratum : σ) : ℕ :=
  (List.range (size stratum)).countP fun place =>
    turn strata size stratum place < limit

/-- Among the first rows of the rounds, a stratum has its share. -/
theorem filter_take_rounds_eq (ordered : strata.Pairwise (· < ·))
    {stratum : σ} (listed : stratum ∈ strata) {count limit : ℕ}
    (enough : limit ≤ count) {queue : σ → List α}
    (tagged : ∀ stratum, ∀ row ∈ queue stratum, tag row = stratum) :
    ((rounds strata count queue).take limit).filter
        (fun row => tag row = stratum) =
      (queue stratum).take
        (share strata (fun other => (queue other).length) limit stratum) := by
  obtain ⟨drawn, same, turns⟩ :=
    filter_take_rounds_of_le ordered listed enough tagged
  have counted : share strata (fun other => (queue other).length) limit
      stratum = min drawn (queue stratum).length := by
    have reached : ∀ place ∈ List.range (queue stratum).length,
        decide (turn strata (fun other => (queue other).length) stratum place <
          limit) = decide (place < drawn) := by
      intro place member
      rw [decide_eq_decide]
      exact (turns place (List.mem_range.mp member)).symm
    rw [share, List.countP_eq_length_filter, List.filter_congr reached,
      ← List.countP_eq_length_filter]
    exact countP_range_lt drawn (queue stratum).length
  rw [same, counted, List.take_eq_take_min]

theorem share_le (strata : List σ) (size : σ → ℕ) (limit : ℕ) (stratum : σ) :
    share strata size limit stratum ≤ size stratum :=
  List.countP_le_length.trans List.length_range.le

/-- No stratum is more than one row ahead of a stratum that has rows left. -/
theorem taken_le_succ (ordered : strata.Pairwise (· < ·)) {first second : σ}
    (listed : first ∈ strata) (listed' : second ∈ strata) {count limit : ℕ}
    (enough : limit ≤ count)
    (tagged : ∀ stratum, ∀ row ∈ queue stratum, tag row = stratum) :
    (((rounds strata count queue).take limit).filter
        (fun row => tag row = first)).length ≤
      (((rounds strata count queue).take limit).filter
        (fun row => tag row = second)).length + 1 ∨
    (((rounds strata count queue).take limit).filter
        (fun row => tag row = second)).length = (queue second).length := by
  obtain ⟨drawn, same, turns⟩ :=
    filter_take_rounds_of_le ordered listed enough tagged
  obtain ⟨drawn', same', turns'⟩ :=
    filter_take_rounds_of_le ordered listed' enough tagged
  rw [same, same', List.length_take, List.length_take]
  by_contra unfair
  obtain ⟨ahead, left⟩ := not_or.mp unfair
  -- The last row of the first stratum comes after the next one of the second.
  have reached := (turns (drawn' + 1) (by omega)).mp (by omega)
  have waiting := (turns' drawn' (by omega)).not.mp (by omega)
  exact waiting ((turn_le_turn strata _ second first (Nat.lt_succ_self _)).trans_lt
    reached)

end Turns

/-- The order of the strata is any one without repetition. -/
theorem taken_le_succ_of_nodup [DecidableEq σ] {strata : List σ}
    {queue : σ → List α} {tag : α → σ} (distinct : strata.Nodup)
    {first second : σ} (listed : first ∈ strata) (listed' : second ∈ strata)
    {count limit : ℕ} (enough : limit ≤ count)
    (tagged : ∀ stratum, ∀ row ∈ queue stratum, tag row = stratum) :
    (((rounds strata count queue).take limit).filter
        (fun row => tag row = first)).length ≤
      (((rounds strata count queue).take limit).filter
        (fun row => tag row = second)).length + 1 ∨
    (((rounds strata count queue).take limit).filter
        (fun row => tag row = second)).length = (queue second).length := by
  -- The strata are numbered by their places.
  let numbered : ℕ → List α := fun place =>
    (strata[place]?.map queue).getD []
  have at_idxOf {stratum : σ} (member : stratum ∈ strata) :
      strata[strata.idxOf stratum]? = some stratum := by
    rw [List.getElem?_eq_getElem (List.idxOf_lt_length_of_mem member),
      List.getElem_idxOf]
  have same : rounds strata count queue =
      rounds (List.range strata.length) count numbered := by
    have names : strata =
        (List.range strata.length).map fun place =>
          (strata[place]?).getD first := by
      refine List.ext_getElem (by simp) fun place inside _ => ?_
      simp [inside]
    calc rounds strata count queue
        = rounds ((List.range strata.length).map fun place =>
            (strata[place]?).getD first) count queue := by rw [← names]
      _ = rounds (List.range strata.length) count numbered := by
        rw [rounds_map]
        refine rounds_congr (fun place member => ?_) count
        have inside := List.mem_range.mp member
        simp [numbered, inside]
  have filtered {stratum : σ} (member : stratum ∈ strata) :
      ((rounds strata count queue).take limit).filter
          (fun row => tag row = stratum) =
        ((rounds strata count queue).take limit).filter
          (fun row => strata.idxOf (tag row) = strata.idxOf stratum) := by
    refine List.filter_congr fun row _ => ?_
    rw [decide_eq_decide]
    exact ⟨fun same => by rw [same], fun same =>
      ((List.idxOf_inj member).mp same.symm).symm⟩
  have tagged' : ∀ place, ∀ row ∈ numbered place,
      strata.idxOf (tag row) = place := by
    intro place row member
    by_cases inside : place < strata.length
    · simp only [numbered, List.getElem?_eq_getElem inside, Option.map_some,
        Option.getD_some] at member
      rw [tagged _ row member]
      exact distinct.idxOf_getElem place inside
    · simp [numbered, inside] at member
  have fair := @taken_le_succ ℕ α _ (List.range strata.length) numbered
    (fun row => strata.idxOf (tag row)) List.pairwise_lt_range
    (strata.idxOf first) (strata.idxOf second)
    (List.mem_range.mpr (List.idxOf_lt_length_of_mem listed))
    (List.mem_range.mpr (List.idxOf_lt_length_of_mem listed'))
    count limit enough tagged'
  rw [← same, ← filtered listed, ← filtered listed'] at fair
  have size : numbered (strata.idxOf second) = queue second := by
    simp only [numbered, at_idxOf listed', Option.map_some, Option.getD_some]
  rwa [size] at fair

end RoundRobin

end RagBench
