import RagBench.RoundRobin
import RagBench.Shuffle
import Mathlib.Logic.Function.Basic

/-!
# Stratified draws

Every stratum has a list of rows.  The lists are arranged one after the other
with what a generator draws, and then each pass over the strata pops one row of
every list that has one, until enough rows are selected.
-/

namespace RagBench

namespace StratifiedDraw

variable {ρ κ α β : Type} [DecidableEq κ]

/-- `rows.pop(0)`, where there is a row. -/
def popFirst : List α → Option (α × List α)
  | [] => none
  | row :: rows => some (row, rows)

/-- `rows.pop()`, where there is a row. -/
def popLast (rows : List α) : Option (α × List α) :=
  rows.getLast?.map fun row => (row, rows.dropLast)

/-- Arrange the rows of the strata, one stratum after the other. -/
def arrange (step : ρ → List α → List α × ρ) :
    List κ → ρ → (κ → List α) → (κ → List α) × ρ
  | [], state, strata => (strata, state)
  | key :: keys, state, strata =>
      let arranged := step state (strata key)
      arrange step keys arranged.2
        (Function.update strata key arranged.1)

/-- One pass over the strata. -/
def drawPass (pop : List α → Option (α × List α)) (limit : ℕ) :
    List κ → (κ → List α) → List α → (κ → List α) × List α
  | [], strata, selected => (strata, selected)
  | key :: keys, strata, selected =>
      match pop (strata key) with
      | none => drawPass pop limit keys strata selected
      | some (row, rest) =>
          let strata := Function.update strata key rest
          let selected := selected ++ [row]
          if selected.length = limit then (strata, selected)
          else drawPass pop limit keys strata selected

/-- `while len(selected) < limit`; nothing is returned where a pass finds no
row.  A pass that goes on has found one, so there are no more passes than
rows. -/
def drawAll (pop : List α → Option (α × List α)) (limit : ℕ)
    (keys : List κ) : ℕ → (κ → List α) → List α → Option (List α)
  | passes, strata, selected =>
      if limit ≤ selected.length then some selected
      else match passes with
        | 0 => none
        | passes + 1 =>
            let pass := drawPass pop limit keys strata selected
            if pass.2.length = selected.length then none
            else drawAll pop limit keys passes pass.1 pass.2

/-! ## Arranging -/

theorem map_update (read : α → β) (strata : κ → List α) (key : κ)
    (rows : List α) :
    (fun other => (Function.update strata key rows other).map read) =
      Function.update (fun other => (strata other).map read) key
        (rows.map read) := by
  funext other
  by_cases same : other = key
  · rw [same, Function.update_self, Function.update_self]
  · rw [Function.update_of_ne same, Function.update_of_ne same]

/-- Arranging what is read of the rows. -/
theorem arrange_map (read : α → β) {step : ρ → List α → List α × ρ}
    {step' : ρ → List β → List β × ρ}
    (same : ∀ state rows, step' state (rows.map read) =
      ((step state rows).1.map read, (step state rows).2))
    (keys : List κ) (state : ρ) (strata : κ → List α) :
    arrange step' keys state (fun key => (strata key).map read) =
      (fun key => ((arrange step keys state strata).1 key).map read,
        (arrange step keys state strata).2) := by
  induction keys generalizing state strata with
  | nil => rfl
  | cons key keys induction =>
      rw [arrange, arrange, same, ← map_update]
      exact induction _ _

/-- What a step keeps of the rows is kept. -/
theorem arrange_related {step : ρ → List α → List α × ρ}
    (Kept : List α → List α → Prop) (same : ∀ rows, Kept rows rows)
    (trans : ∀ first second third, Kept first second → Kept second third →
      Kept first third)
    (kept : ∀ state rows, Kept (step state rows).1 rows)
    (keys : List κ) (state : ρ) (strata : κ → List α) (key : κ) :
    Kept ((arrange step keys state strata).1 key) (strata key) := by
  induction keys generalizing state strata with
  | nil => exact same _
  | cons first keys induction =>
      refine trans _ _ _ (induction _ _) ?_
      by_cases found : key = first
      · rw [found, Function.update_self]
        exact kept state _
      · rw [Function.update_of_ne found]
        exact same _

theorem arrange_perm {step : ρ → List α → List α × ρ}
    (kept : ∀ state rows, (step state rows).1.Perm rows)
    (keys : List κ) (state : ρ) (strata : κ → List α) (key : κ) :
    ((arrange step keys state strata).1 key).Perm (strata key) :=
  arrange_related List.Perm .refl (fun _ _ _ => .trans) kept keys state
    strata key

/-- The rows of a listed stratum come out of a step. -/
theorem exists_arranged {step : ρ → List α → List α × ρ} {keys : List κ}
    {key : κ} (listed : key ∈ keys) (state : ρ) (strata : κ → List α) :
    ∃ before rows,
      (arrange step keys state strata).1 key = (step before rows).1 := by
  induction keys generalizing state strata with
  | nil => cases listed
  | cons first keys induction =>
      by_cases later : key ∈ keys
      · exact induction later _ _
      · obtain rfl : key = first :=
          (List.mem_cons.mp listed).resolve_right later
        refine ⟨state, strata key, ?_⟩
        have untouched (keys : List κ) (absent : key ∉ keys) (state : ρ)
            (strata : κ → List α) :
            (arrange step keys state strata).1 key = strata key := by
          induction keys generalizing state strata with
          | nil => rfl
          | cons other keys induction =>
              obtain ⟨different, absent⟩ :=
                not_or.mp (List.mem_cons.not.mp absent)
              rw [arrange, induction absent]
              exact Function.update_of_ne different _ _
        rw [arrange, untouched keys later, Function.update_self]

/-- Shuffle the rows, and then order them. -/
def shuffleThen (random : RandomSource ρ) (order : List α → List α)
    (state : ρ) (rows : List α) : List α × ρ :=
  let shuffled := random.shuffle state rows
  (order shuffled.1, shuffled.2)

/-- Every order of the rows of each stratum is that of some draws. -/
theorem exists_arrange (order : List α → List α) {keys : List κ}
    (distinct : keys.Nodup) {strata target : κ → List α}
    (permuted : ∀ key ∈ keys, (target key).Perm (strata key)) :
    ∃ script, ∀ start rest,
      arrange (shuffleThen (RandomSource.scripted start) order) keys
          (script ++ rest) strata =
        (fun key => if key ∈ keys then order (target key) else strata key,
          rest) := by
  induction keys generalizing strata with
  | nil => exact ⟨[], fun start rest => by simp [arrange]⟩
  | cons first keys induction =>
      obtain ⟨fresh, distinct⟩ := List.nodup_cons.mp distinct
      obtain ⟨here, later⟩ := List.forall_mem_cons.mp permuted
      obtain ⟨draws, drawn⟩ := RandomSource.exists_shuffle here
      have untouched : ∀ key ∈ keys, Function.update strata first
          (order (target first)) key = strata key := by
        intro key member
        refine Function.update_of_ne ?_ _ _
        rintro rfl
        exact fresh member
      have permuted' : ∀ key ∈ keys, (target key).Perm
          (Function.update strata first (order (target first)) key) := by
        intro key member
        rw [untouched key member]
        exact later key member
      obtain ⟨script, arranged⟩ := induction distinct permuted'
      refine ⟨draws ++ script, fun start rest => ?_⟩
      rw [arrange, shuffleThen, List.append_assoc, drawn]
      dsimp only
      rw [arranged]
      refine Prod.ext (funext fun key => ?_) rfl
      by_cases same : key = first
      · subst same
        simp [fresh]
      · simp [same]

/-! ## Drawing -/

/-- Rows are popped in some order. -/
structure Pops (pop : List α → Option (α × List α))
    (order : List α → List α) : Prop where
  none : ∀ rows, pop rows = none → order rows = []
  some : ∀ rows row rest, pop rows = some (row, rest) →
    order rows = row :: order rest

theorem popFirst_pops : Pops (popFirst : List α → _) id := by
  constructor
  · intro rows nothing
    cases rows with
    | nil => rfl
    | cons row rest => cases nothing
  · intro rows row rest popped
    cases rows with
    | nil => cases popped
    | cons first rows =>
        cases popped
        rfl

theorem popLast_pops : Pops (popLast : List α → _) List.reverse := by
  constructor
  · intro rows nothing
    rw [popLast, Option.map_eq_none_iff, List.getLast?_eq_none_iff] at nothing
    rw [nothing, List.reverse_nil]
  · intro rows row rest popped
    obtain ⟨last, found, same⟩ := Option.map_eq_some_iff.mp popped
    obtain ⟨before, rfl⟩ := List.getLast?_eq_some_iff.mp found
    cases same
    rw [List.dropLast_concat, List.reverse_concat]

section Draw

variable {pop : List α → Option (α × List α)} {order : List α → List α}
  {limit : ℕ}

/-- A pass does not touch other strata. -/
theorem drawPass_of_not_mem {keys : List κ} {key : κ} (absent : key ∉ keys)
    (strata : κ → List α) (selected : List α) :
    (drawPass pop limit keys strata selected).1 key = strata key := by
  induction keys generalizing strata selected with
  | nil => rfl
  | cons first keys induction =>
      obtain ⟨different, later⟩ := not_or.mp (List.mem_cons.not.mp absent)
      rw [drawPass]
      split
      · exact induction later _ _
      · dsimp only
        split_ifs
        · exact Function.update_of_ne different _ _
        · rw [induction later]
          exact Function.update_of_ne different _ _

/-- A pass selects the first rows of the strata up to the limit, and where it
does not reach the limit, the other rows are left. -/
theorem drawPass_spec (pops : Pops pop order) {keys : List κ}
    (distinct : keys.Nodup) (strata : κ → List α) {selected : List α}
    (few : selected.length < limit) :
    (drawPass pop limit keys strata selected).2 =
        (selected ++ RoundRobin.heads keys fun key => order (strata key)).take
          limit ∧
      ((selected ++ RoundRobin.heads keys fun key =>
          order (strata key)).length < limit →
        ∀ key ∈ keys,
          order ((drawPass pop limit keys strata selected).1 key) =
            (order (strata key)).tail) := by
  induction keys generalizing strata selected with
  | nil =>
      rw [RoundRobin.heads, List.filterMap_nil, List.append_nil,
        List.take_of_length_le few.le]
      exact ⟨rfl, fun _ _ absent => absurd absent List.not_mem_nil⟩
  | cons first keys induction =>
      obtain ⟨fresh, distinct⟩ := List.nodup_cons.mp distinct
      rw [drawPass]
      cases popped : pop (strata first) with
      | none =>
          have empty := pops.none _ popped
          have parts : RoundRobin.heads (first :: keys)
              (fun key => order (strata key)) =
              RoundRobin.heads keys fun key => order (strata key) := by
            rw [RoundRobin.heads, List.filterMap_cons, empty]
            rfl
          obtain ⟨drawn, rest⟩ := induction distinct strata few
          rw [parts]
          refine ⟨drawn, fun room key member => ?_⟩
          rcases List.mem_cons.mp member with rfl | later
          · rw [drawPass_of_not_mem fresh, empty]
            rfl
          · exact rest room key later
      | some entry =>
          obtain ⟨row, rows⟩ := entry
          have some := pops.some _ _ _ popped
          have untouched : ∀ key ∈ keys,
              Function.update strata first rows key = strata key := by
            intro key member
            refine Function.update_of_ne ?_ _ _
            rintro rfl
            exact fresh member
          have parts : RoundRobin.heads (first :: keys)
              (fun key => order (strata key)) =
              row :: RoundRobin.heads keys fun key =>
                order (Function.update strata first rows key) := by
            rw [RoundRobin.heads, List.filterMap_cons, some]
            refine congrArg (row :: ·) (List.filterMap_congr ?_)
            intro key member
            dsimp only
            rw [untouched key member]
          rw [parts, ← List.singleton_append, ← List.append_assoc]
          dsimp only
          by_cases full : (selected ++ [row]).length = limit
          · rw [if_pos full]
            refine ⟨?_, fun room => ?_⟩
            · rw [List.take_left' full]
            · rw [List.length_append, full] at room
              omega
          · have few : (selected ++ [row]).length < limit := by
              rw [List.length_append, List.length_singleton] at full ⊢
              omega
            obtain ⟨drawn, rest⟩ := induction distinct
              (Function.update strata first rows) few
            rw [if_neg full]
            refine ⟨drawn, fun room key member => ?_⟩
            rcases List.mem_cons.mp member with rfl | later
            · rw [drawPass_of_not_mem fresh, Function.update_self, some]
              rfl
            · rw [rest room key later, untouched key later]

theorem drawAll_of_le {keys : List κ} (passes : ℕ) (strata : κ → List α)
    {selected : List α} (full : limit ≤ selected.length) :
    drawAll pop limit keys passes strata selected = some selected := by
  cases passes with
  | zero => exact if_pos full
  | succ passes => exact if_pos full

/-- The loop selects the first rows of the rounds. -/
theorem drawAll_ok (pops : Pops pop order) {keys : List κ}
    (distinct : keys.Nodup) (passes : ℕ) {strata : κ → List α}
    {selected : List α} (few : selected.length ≤ limit)
    (enough : limit ≤ (selected ++ RoundRobin.rounds keys passes
      fun key => order (strata key)).length) :
    drawAll pop limit keys passes strata selected =
      some ((selected ++ RoundRobin.rounds keys passes
        fun key => order (strata key)).take limit) := by
  induction passes generalizing strata selected with
  | zero =>
      rw [RoundRobin.rounds, List.append_nil] at enough ⊢
      rw [drawAll_of_le 0 _ enough, List.take_of_length_le few]
  | succ passes induction =>
      by_cases full : limit ≤ selected.length
      · rw [drawAll_of_le _ _ full, List.take_left' (by omega)]
      · obtain ⟨drawn, rest⟩ := drawPass_spec pops distinct strata
          (not_le.mp full)
        rw [RoundRobin.rounds, ← List.append_assoc] at enough ⊢
        have some : RoundRobin.heads keys (fun key => order (strata key)) ≠
            [] := by
          intro none
          have all := RoundRobin.rounds_eq_nil none (passes + 1)
          rw [RoundRobin.rounds, none, List.nil_append] at all
          rw [none, all, List.append_nil, List.append_nil] at enough
          exact full enough
        have progressed :
            (drawPass pop limit keys strata selected).2.length ≠
              selected.length := by
          have more := List.length_pos_of_ne_nil some
          rw [drawn, List.length_take, List.length_append]
          omega
        rw [drawAll, if_neg full]
        simp only [if_neg progressed]
        by_cases room : (selected ++ RoundRobin.heads keys
            fun key => order (strata key)).length < limit
        · have tails := RoundRobin.rounds_congr (rest room) passes
          rw [drawn, List.take_of_length_le room.le]
          rw [← tails] at enough ⊢
          exact induction room.le enough
        · have reached : limit ≤
              (drawPass pop limit keys strata selected).2.length := by
            rw [drawn, List.length_take]
            omega
          rw [drawAll_of_le _ _ reached, drawn]
          exact congrArg Option.some
            (List.take_append_of_le_length (not_lt.mp room)).symm

/-- With as many rows as wanted, the loop selects so many. -/
theorem drawAll_eq (pops : Pops pop order) {keys : List κ}
    (distinct : keys.Nodup) {strata : κ → List α}
    (enough : limit ≤
      (keys.map fun key => (order (strata key)).length).sum) :
    drawAll pop limit keys limit strata [] =
      some ((RoundRobin.rounds keys limit
        fun key => order (strata key)).take limit) :=
  drawAll_ok pops distinct limit (Nat.zero_le _)
    (RoundRobin.le_length_rounds enough)

end Draw

end StratifiedDraw

end RagBench
