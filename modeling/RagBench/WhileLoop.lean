import Mathlib.Control.Monad.Basic
import Mathlib.Data.Nat.Notation

/-!
# While loops

A loop runs for a bounded number of rounds and has no result where they do not
suffice.  An invariant says where the loop ends, and a variant that it does.
-/

namespace RagBench

/-- Computations that return, raise, or do not end within their bounds. -/
abbrev Bounded (ε : Type) := ExceptT ε Option

/-- Outcomes without loops. -/
def Bounded.ofExcept {ε α : Type} (outcome : Except ε α) : Bounded ε α :=
  ExceptT.mk (some outcome)

@[simp] theorem Bounded.ofExcept_ok {ε α : Type} (value : α) :
    ofExcept (.ok value : Except ε α) = pure value := rfl

variable {ε σ : Type}

/-- `while test: body`. -/
def whileLoop (test : σ → Bounded ε Bool) (body : σ → Bounded ε σ) :
    ℕ → σ → Bounded ε σ
  | 0, _ => ExceptT.mk none
  | rounds + 1, state => do
      if ← test state then whileLoop test body rounds (← body state)
      else return state

variable {test : σ → Bounded ε Bool} {body : σ → Bounded ε σ}

/-- A round keeps the invariant and lowers the variant, unless it is the
last. -/
inductive Progress (test : σ → Bounded ε Bool) (body : σ → Bounded ε σ)
    (invariant : σ → Prop) (variant : σ → ℕ) (state : σ) : Prop where
  | ends (stops : test state = pure false)
  | continues {next : σ} (continues : test state = pure true)
      (moves : body state = pure next) (keeps : invariant next)
      (lowers : variant next < variant state)

/-- The rule of total correctness, by induction on the rounds. -/
theorem whileLoop_ends {invariant : σ → Prop} {variant : σ → ℕ}
    (step : ∀ state, invariant state →
      Progress test body invariant variant state)
    {state : σ} (holds : invariant state) {rounds : ℕ}
    (enough : variant state < rounds) :
    ∃ last, whileLoop test body rounds state = pure last ∧
      invariant last ∧ test last = pure false := by
  induction rounds generalizing state with
  | zero => exact absurd enough (Nat.not_lt_zero _)
  | succ rounds induction =>
      rw [whileLoop]
      cases step state holds with
      | ends stops =>
          refine ⟨state, ?_, holds, stops⟩
          rw [stops, pure_bind]
          rfl
      | continues continues moves keeps lowers =>
          rw [continues, pure_bind, if_pos rfl, moves, pure_bind]
          exact induction keeps (by omega)

end RagBench
