import Mathlib.Data.List.Induction

/-!
# Runs of labelled transition systems

A system is given by a step relation `step before event after`.  `Run` is the
history-carrying closure of that relation: the list of events is the complete
record of what happened, in order.  Invariants may therefore speak about the
history as well as about the current state.
-/

namespace RagBench

/-- `Run step start events finish` performs `events` in order. -/
inductive Run {σ ε : Type} (step : σ → ε → σ → Prop) (start : σ) :
    List ε → σ → Prop where
  | refl : Run step start [] start
  | snoc {middle finish : σ} {events : List ε} {event : ε} :
      Run step start events middle →
      step middle event finish →
      Run step start (events ++ [event]) finish

namespace Run

variable {σ ε : Type} {step : σ → ε → σ → Prop}

theorem single {start finish : σ} {event : ε}
    (performed : step start event finish) :
    Run step start [event] finish :=
  .snoc .refl performed

theorem append {start middle finish : σ} {early late : List ε}
    (first : Run step start early middle)
    (second : Run step middle late finish) :
    Run step start (early ++ late) finish := by
  induction second with
  | refl => simpa using first
  | @snoc middle finish events event _ performed induction =>
      rw [← List.append_assoc]
      exact .snoc induction performed

theorem cons {start middle finish : σ} {event : ε} {events : List ε}
    (performed : step start event middle)
    (rest : Run step middle events finish) :
    Run step start (event :: events) finish :=
  (single performed).append rest

/-- The induction over a run: an assertion about history and state which
holds at the start and which every step extends holds at the end.  The step
may use that its own event satisfies the assumption `assumed`. -/
theorem invariant {start finish : σ} {events : List ε}
    (run : Run step start events finish)
    (assumed : ε → Prop) (holding : ∀ event ∈ events, assumed event)
    (assertion : List ε → σ → Prop) (base : assertion [] start)
    (keep : ∀ history before event after,
      assertion history before → assumed event → step before event after →
        assertion (history ++ [event]) after) :
    assertion events finish := by
  induction run with
  | refl => exact base
  | @snoc middle finish events event _ performed induction =>
      have earlier : ∀ event ∈ events, assumed event :=
        fun event member => holding event (List.mem_append_left _ member)
      exact keep _ _ _ _ (induction earlier)
        (holding event (by simp)) performed

/-- The special case of `invariant` for assertions about states only. -/
theorem stateInvariant {start finish : σ} {events : List ε}
    (run : Run step start events finish)
    (assertion : σ → Prop) (base : assertion start)
    (keep : ∀ before event after,
      assertion before → step before event after → assertion after) :
    assertion finish :=
  run.invariant (fun _ => True) (fun _ _ => trivial)
    (fun _ state => assertion state) base
    (fun _ before event after held _ performed =>
      keep before event after held performed)

/-- Steps of one system that are steps of another, under other names. -/
theorem map {δ : Type} {other : σ → δ → σ → Prop} {start finish : σ}
    {events : List ε} (rename : ε → δ)
    (simulates : ∀ before event after,
      step before event after → other before (rename event) after)
    (run : Run step start events finish) :
    Run other start (events.map rename) finish := by
  induction run with
  | refl => exact .refl
  | snoc _ performed induction =>
      rw [List.map_append]
      exact .snoc induction (simulates _ _ _ performed)

end Run

end RagBench
