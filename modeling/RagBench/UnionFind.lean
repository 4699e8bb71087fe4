import Mathlib.Data.Finset.Card
import Mathlib.Logic.Function.Basic
import Mathlib.Logic.Relation

/-!
# Union-find forests

A forest is a parent function; a root is its own parent.  Looking up a root
halves the path to it, and linking makes one root the parent of another.  The
classes of the forest are then the equivalence closure of the united pairs,
whichever roots are linked.
-/

namespace RagBench.Forest

open Relation (EqvGen)

variable {α : Type}

/-- The item is a number of steps below its root. -/
inductive Climbs (parent : α → α) : α → ℕ → α → Prop where
  | root {item : α} :
      parent item = item → Climbs parent item 0 item
  | up {item top : α} {steps : ℕ} :
      parent item ≠ item → Climbs parent (parent item) steps top →
      Climbs parent item (steps + 1) top

/-- Every item is below a root. -/
def Grounded (parent : α → α) : Prop :=
  ∀ item, ∃ steps top, Climbs parent item steps top

/-- The items are below one root. -/
def Joined (parent : α → α) (left right : α) : Prop :=
  ∃ top leftSteps rightSteps,
    Climbs parent left leftSteps top ∧ Climbs parent right rightSteps top

/-- Every item keeps its root and gets no further from it. -/
def Flattens (before after : α → α) : Prop :=
  ∀ item steps top, Climbs before item steps top →
    ∃ fewer ≤ steps, Climbs after item fewer top

variable {parent : α → α}

theorem Climbs.unique {item first second : α} {steps others : ℕ}
    (climbs : Climbs parent item steps first)
    (climbs' : Climbs parent item others second) :
    steps = others ∧ first = second := by
  induction climbs generalizing others with
  | root isRoot =>
      cases climbs' with
      | root => exact ⟨rfl, rfl⟩
      | up inner => exact absurd isRoot inner
  | up inner _ induction =>
      cases climbs' with
      | root isRoot => exact absurd isRoot inner
      | up _ above =>
          obtain ⟨rfl, rfl⟩ := induction above
          exact ⟨rfl, rfl⟩

theorem Climbs.isRoot {item top : α} {steps : ℕ}
    (climbs : Climbs parent item steps top) : parent top = top := by
  induction climbs with
  | root isRoot => exact isRoot
  | up _ _ induction => exact induction

/-- The way up does not come back. -/
theorem Climbs.steps_le_card {item top : α} {steps : ℕ} {inner : Finset α}
    (climbs : Climbs parent item steps top)
    (members : ∀ item, parent item ≠ item → item ∈ inner) :
    steps ≤ inner.card := by
  classical
  -- The items below the root, each at its own height.
  have passed : ∃ path : Finset α, path.card = steps ∧ path ⊆ inner ∧
      ∀ other ∈ path, ∃ height ≤ steps, Climbs parent other height top := by
    induction climbs with
    | root => exact ⟨∅, rfl, Finset.empty_subset _, by simp⟩
    | @up item top steps below above induction =>
        obtain ⟨path, count, within, heights⟩ := induction
        have higher : Climbs parent item (steps + 1) top := .up below above
        have fresh : item ∉ path := by
          intro again
          obtain ⟨height, short, climbs⟩ := heights item again
          have same := (higher.unique climbs).1
          omega
        refine ⟨insert item path, ?_, ?_, ?_⟩
        · rw [Finset.card_insert_of_notMem fresh, count]
        · exact Finset.insert_subset (members item below) within
        · intro other member
          rcases Finset.mem_insert.mp member with rfl | member
          · exact ⟨steps + 1, le_rfl, higher⟩
          · obtain ⟨height, short, climbs⟩ := heights other member
            exact ⟨height, by omega, climbs⟩
  obtain ⟨path, rfl, within, -⟩ := passed
  exact Finset.card_le_card within

theorem Flattens.refl : Flattens parent parent :=
  fun _ steps _ climbs => ⟨steps, le_rfl, climbs⟩

theorem Flattens.trans {middle after : α → α}
    (first : Flattens parent middle) (second : Flattens middle after) :
    Flattens parent after := by
  intro item steps top climbs
  obtain ⟨fewer, short, climbs⟩ := first item steps top climbs
  obtain ⟨fewest, shorter, climbs⟩ := second item fewer top climbs
  exact ⟨fewest, shorter.trans short, climbs⟩

theorem Flattens.grounded {after : α → α} (flattens : Flattens parent after)
    (grounded : Grounded parent) : Grounded after := by
  intro item
  obtain ⟨steps, top, climbs⟩ := grounded item
  obtain ⟨fewer, -, climbs⟩ := flattens item steps top climbs
  exact ⟨fewer, top, climbs⟩

/-! ## Classes -/

theorem Joined.symm {left right : α} (joined : Joined parent left right) :
    Joined parent right left := by
  obtain ⟨top, first, second, climbs, climbs'⟩ := joined
  exact ⟨top, second, first, climbs', climbs⟩

/-- Items with known roots. -/
theorem joined_iff {left right first second : α} {steps others : ℕ}
    (climbs : Climbs parent left steps first)
    (climbs' : Climbs parent right others second) :
    Joined parent left right ↔ first = second := by
  constructor
  · rintro ⟨top, _, _, left, right⟩
    exact (climbs.unique left).2.trans (climbs'.unique right).2.symm
  · rintro rfl
    exact ⟨first, steps, others, climbs, climbs'⟩

theorem Flattens.joined_iff {after : α → α} (flattens : Flattens parent after)
    (grounded : Grounded parent) {left right : α} :
    Joined after left right ↔ Joined parent left right := by
  obtain ⟨steps, first, climbs⟩ := grounded left
  obtain ⟨others, second, climbs'⟩ := grounded right
  obtain ⟨_, -, flat⟩ := flattens left steps first climbs
  obtain ⟨_, -, flat'⟩ := flattens right others second climbs'
  rw [Forest.joined_iff climbs climbs', Forest.joined_iff flat flat']

/-! ## Lookup with path halving -/

section Find

variable [DecidableEq α]

/-- The parent becomes the grandparent. -/
theorem flattens_halve (parent : α → α) (moved : α) :
    Flattens parent
      (Function.update parent moved (parent (parent moved))) := by
  intro item steps top
  induction steps using Nat.strong_induction_on generalizing item with
  | _ steps induction =>
  intro climbs
  cases climbs with
  | root isRoot =>
      refine ⟨0, le_rfl, .root ?_⟩
      by_cases same : top = moved
      · subst same
        rw [Function.update_self, isRoot, isRoot]
      · rw [Function.update_of_ne same, isRoot]
  | @up _ _ steps below above =>
      by_cases same : item = moved
      · subst same
        cases above with
        | root isRoot =>
            obtain ⟨fewer, short, climbs⟩ :=
              induction 0 (by omega) (parent item) (.root isRoot)
            refine ⟨fewer + 1, by omega, .up ?_ ?_⟩
            · rw [Function.update_self, isRoot]
              exact below
            · rw [isRoot] at climbs ⊢
              rwa [Function.update_self]
        | @up _ _ steps inner above =>
            obtain ⟨fewer, short, climbs⟩ :=
              induction steps (by omega) (parent (parent item)) above
            refine ⟨fewer + 1, by omega, .up ?_ ?_⟩
            · rw [Function.update_self]
              intro cycle
              have higher : Climbs parent item (steps + 1 + 1) top :=
                .up below (.up inner above)
              rw [cycle] at above
              have same := (higher.unique above).1
              omega
            · rw [Function.update_self]
              exact climbs
      · obtain ⟨fewer, short, climbs⟩ :=
          induction steps (by omega) (parent item) above
        refine ⟨fewer + 1, by omega, .up ?_ ?_⟩
        · rwa [Function.update_of_ne same]
        · rwa [Function.update_of_ne same]

/-- Look up the root; the fuel bounds the number of rounds. -/
def find : ℕ → (α → α) → α → (α → α) × α
  | 0, parent, item => (parent, item)
  | fuel + 1, parent, item =>
      if parent item = item then (parent, item)
      else
        let above := parent (parent item)
        find fuel (Function.update parent item above) above

/-- With enough fuel the lookup ends at the root. -/
theorem find_spec {fuel steps : ℕ} {item top : α}
    (grounded : Grounded parent) (climbs : Climbs parent item steps top)
    (enough : steps ≤ fuel) :
    (find fuel parent item).2 = top ∧
      Flattens parent (find fuel parent item).1 := by
  induction fuel generalizing parent item steps with
  | zero =>
      obtain rfl := Nat.le_zero.mp enough
      cases climbs
      exact ⟨rfl, .refl⟩
  | succ fuel induction =>
      unfold find
      cases climbs with
      | root isRoot =>
          rw [if_pos isRoot]
          exact ⟨rfl, .refl⟩
      | @up _ _ steps below above =>
          rw [if_neg below]
          have halved := flattens_halve parent item
          have nearer : ∃ fewer ≤ steps,
              Climbs parent (parent (parent item)) fewer top := by
            cases above with
            | root isRoot =>
                rw [isRoot]
                exact ⟨0, le_rfl, .root isRoot⟩
            | @up _ _ steps _ above => exact ⟨steps, by omega, above⟩
          obtain ⟨fewer, short, climbs⟩ := nearer
          obtain ⟨fewest, shorter, climbs⟩ := halved _ _ _ climbs
          obtain ⟨found, flat⟩ := induction (halved.grounded grounded) climbs
            (by omega)
          exact ⟨found, halved.trans flat⟩

/-! ## Linking roots -/

/-- One root becomes the parent of another. -/
theorem climbs_link {child root item top : α} {steps : ℕ}
    (childRoot : parent child = child) (isRoot : parent root = root)
    (different : root ≠ child) (climbs : Climbs parent item steps top) :
    ∃ others ≤ steps + 1, Climbs (Function.update parent child root) item
      others (if top = child then root else top) := by
  induction climbs with
  | @root item itemRoot =>
      by_cases same : item = child
      · subst same
        rw [if_pos rfl]
        refine ⟨1, le_rfl, .up ?_ ?_⟩
        · rwa [Function.update_self]
        · rw [Function.update_self]
          exact .root (by rw [Function.update_of_ne different, isRoot])
      · rw [if_neg same]
        have still : Function.update parent child root item = item := by
          rw [Function.update_of_ne same, itemRoot]
        exact ⟨0, by omega, .root still⟩
  | @up item top steps below above induction =>
      obtain ⟨others, bounded, climbs⟩ := induction
      have other : item ≠ child := by
        rintro rfl
        exact below childRoot
      refine ⟨others + 1, by omega, .up ?_ ?_⟩
      · rwa [Function.update_of_ne other]
      · rwa [Function.update_of_ne other]

theorem grounded_link {child root : α} (grounded : Grounded parent)
    (childRoot : parent child = child) (isRoot : parent root = root)
    (different : root ≠ child) :
    Grounded (Function.update parent child root) := by
  intro item
  obtain ⟨steps, top, climbs⟩ := grounded item
  obtain ⟨others, -, linked⟩ := climbs_link childRoot isRoot different climbs
  exact ⟨others, _, linked⟩

theorem joined_link_iff {child root left right : α}
    (grounded : Grounded parent)
    (childRoot : parent child = child) (isRoot : parent root = root)
    (different : root ≠ child) :
    Joined (Function.update parent child root) left right ↔
      Joined parent left right ∨
        (Joined parent left root ∧ Joined parent child right) ∨
        (Joined parent left child ∧ Joined parent root right) := by
  obtain ⟨steps, first, climbs⟩ := grounded left
  obtain ⟨others, second, climbs'⟩ := grounded right
  obtain ⟨_, -, linked⟩ := climbs_link childRoot isRoot different climbs
  obtain ⟨_, -, linked'⟩ := climbs_link childRoot isRoot different climbs'
  have atRoot : Climbs parent root 0 root := .root isRoot
  have atChild : Climbs parent child 0 child := .root childRoot
  rw [joined_iff linked linked', joined_iff climbs climbs',
    joined_iff climbs atRoot, joined_iff atChild climbs',
    joined_iff climbs atChild, joined_iff atRoot climbs']
  by_cases low : first = child <;> by_cases low' : second = child <;>
    simp only [low, low', if_true, if_false] <;> grind

end Find

/-! ## The closure of the united pairs -/

/-- One more pair joins two classes. -/
theorem eqvGen_insert {related : α → α → Prop} {first second left right : α} :
    EqvGen (fun left right => related left right ∨
        (left = first ∧ right = second)) left right ↔
      EqvGen related left right ∨
        (EqvGen related left first ∧ EqvGen related second right) ∨
        (EqvGen related left second ∧ EqvGen related first right) := by
  constructor
  · intro chain
    induction chain with
    | rel left right step =>
        rcases step with step | ⟨rfl, rfl⟩
        · exact .inl (.rel _ _ step)
        · exact .inr (.inl ⟨.refl _, .refl _⟩)
    | refl item => exact .inl (.refl item)
    | symm left right _ induction =>
        rcases induction with chain | ⟨before, after⟩ | ⟨before, after⟩
        · exact .inl chain.symm
        · exact .inr (.inr ⟨after.symm, before.symm⟩)
        · exact .inr (.inl ⟨after.symm, before.symm⟩)
    | trans left middle right _ _ induction induction' =>
        have glue : ∀ {a b c : α}, EqvGen related a b → EqvGen related b c →
            EqvGen related a c := fun one two => .trans _ _ _ one two
        rcases induction with chain | ⟨before, after⟩ | ⟨before, after⟩ <;>
          rcases induction' with chain' | ⟨before', after'⟩ |
            ⟨before', after'⟩
        · exact .inl (glue chain chain')
        · exact .inr (.inl ⟨glue chain before', after'⟩)
        · exact .inr (.inr ⟨glue chain before', after'⟩)
        · exact .inr (.inl ⟨before, glue after chain'⟩)
        · exact .inr (.inl ⟨before, after'⟩)
        · exact .inl (glue before after')
        · exact .inr (.inr ⟨before, glue after chain'⟩)
        · exact .inl (glue before after')
        · exact .inr (.inr ⟨before, after'⟩)
  · have wider : ∀ {a b : α}, EqvGen related a b →
        EqvGen (fun left right => related left right ∨
          (left = first ∧ right = second)) a b :=
      fun chain => chain.mono fun _ _ step => .inl step
    have bridge : EqvGen (fun left right => related left right ∨
        (left = first ∧ right = second)) first second :=
      .rel _ _ (.inr ⟨rfl, rfl⟩)
    rintro (chain | ⟨before, after⟩ | ⟨before, after⟩)
    · exact wider chain
    · exact .trans _ _ _ (wider before) (.trans _ _ _ bridge (wider after))
    · exact .trans _ _ _ (wider before)
        (.trans _ _ _ bridge.symm (wider after))

/-- The classes are the closure of the pairs. -/
structure Represents (parent : α → α) (related : α → α → Prop) : Prop where
  grounded : Grounded parent
  joined_iff : ∀ left right,
    Joined parent left right ↔ EqvGen related left right

theorem represents_id : Represents (id : α → α) fun _ _ => False := by
  have alone : ∀ item : α, Climbs id item 0 item := fun item => .root rfl
  refine ⟨fun item => ⟨0, item, alone item⟩, fun left right => ?_⟩
  rw [joined_iff (alone left) (alone right)]
  constructor
  · rintro rfl
    exact .refl left
  · intro chain
    induction chain with
    | rel _ _ step => exact step.elim
    | refl => rfl
    | symm _ _ _ induction => exact induction.symm
    | trans _ _ _ _ _ first second => exact first.trans second

theorem Represents.flattens {after : α → α} {related : α → α → Prop}
    (represents : Represents parent related)
    (flattens : Flattens parent after) : Represents after related :=
  { grounded := flattens.grounded represents.grounded
    joined_iff := fun left right =>
      (flattens.joined_iff represents.grounded).trans
        (represents.joined_iff left right) }

/-- The pair is joined already. -/
theorem Represents.insert_joined {related : α → α → Prop}
    {first second : α} (represents : Represents parent related)
    (joined : Joined parent first second) :
    Represents parent fun left right => related left right ∨
      (left = first ∧ right = second) := by
  have chain := (represents.joined_iff first second).mp joined
  refine ⟨represents.grounded, fun left right => ?_⟩
  rw [represents.joined_iff, eqvGen_insert]
  constructor
  · exact .inl
  · rintro (same | ⟨before, after⟩ | ⟨before, after⟩)
    · exact same
    · exact .trans _ _ _ before (.trans _ _ _ chain after)
    · exact .trans _ _ _ before (.trans _ _ _ chain.symm after)

/-- Linking the roots of two items unites the items. -/
theorem Represents.link [DecidableEq α] {related : α → α → Prop}
    {first second child root : α} (represents : Represents parent related)
    (childRoot : parent child = child) (isRoot : parent root = root)
    (different : root ≠ child)
    (ends : (Joined parent first root ∧ Joined parent second child) ∨
      (Joined parent first child ∧ Joined parent second root)) :
    Represents (Function.update parent child root) fun left right =>
      related left right ∨ (left = first ∧ right = second) := by
  refine ⟨grounded_link represents.grounded childRoot isRoot different,
    fun left right => ?_⟩
  rw [joined_link_iff represents.grounded childRoot isRoot different,
    eqvGen_insert]
  simp only [represents.joined_iff] at ends ⊢
  have glue : ∀ {a b c : α}, EqvGen related a b → EqvGen related b c →
      EqvGen related a c := fun one two => .trans _ _ _ one two
  rcases ends with ⟨first', second'⟩ | ⟨first', second'⟩
  · refine or_congr_right (or_congr (and_congr ?_ ?_) (and_congr ?_ ?_))
    · exact ⟨fun chain => glue chain first'.symm,
        fun chain => glue chain first'⟩
    · exact ⟨glue second', glue second'.symm⟩
    · exact ⟨fun chain => glue chain second'.symm,
        fun chain => glue chain second'⟩
    · exact ⟨glue first', glue first'.symm⟩
  · rw [or_comm (a := EqvGen related left root ∧ _)]
    refine or_congr_right (or_congr (and_congr ?_ ?_) (and_congr ?_ ?_))
    · exact ⟨fun chain => glue chain first'.symm,
        fun chain => glue chain first'⟩
    · exact ⟨glue second', glue second'.symm⟩
    · exact ⟨fun chain => glue chain second'.symm,
        fun chain => glue chain second'⟩
    · exact ⟨glue first', glue first'.symm⟩

end RagBench.Forest
