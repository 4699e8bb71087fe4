import RagBench.Python

/-!
# Simulation of one machine by another

A machine performs one command at a time.  It accepts the command and moves to
a new state, or it rejects the command with an error and stays where it is.
When related machines answer every allowed command alike and stay related, they
answer every allowed sequence alike.
-/

namespace RagBench

section Simulation

variable {κ ε σ τ : Type}

/-- The errors of rejected commands, and the last state. -/
def performAll (perform : σ → κ → Except ε σ) :
    σ → List κ → List (Option ε) × σ
  | state, [] => ([], state)
  | state, command :: rest =>
      match perform state command with
      | .ok after =>
          let (answers, last) := performAll perform after rest
          (none :: answers, last)
      | .error error =>
          let (answers, last) := performAll perform state rest
          (some error :: answers, last)

/-- The answers of two machines to one command, and where they go. -/
inductive Alike (relation : σ → τ → Prop) (state : σ) (other : τ) :
    Except ε σ → Except ε τ → Prop where
  | accepted {after : σ} {after' : τ} (related : relation after after') :
      Alike relation state other (.ok after) (.ok after')
  | rejected (error : ε) (related : relation state other) :
      Alike relation state other (.error error) (.error error)

/-- Every command of the sequence is allowed where the machines stand. -/
def AllAllowed (perform : σ → κ → Except ε σ) (perform' : τ → κ → Except ε τ)
    (allowed : σ → τ → κ → Prop) : σ → τ → List κ → Prop
  | _, _, [] => True
  | state, other, command :: rest =>
      allowed state other command ∧
        AllAllowed perform perform' allowed
          ((perform state command).toOption.getD state)
          ((perform' other command).toOption.getD other) rest

theorem performAll_alike {perform : σ → κ → Except ε σ}
    {perform' : τ → κ → Except ε τ} {relation : σ → τ → Prop}
    {allowed : σ → τ → κ → Prop}
    (step : ∀ state other command, relation state other →
      allowed state other command →
      Alike relation state other (perform state command)
        (perform' other command))
    {state : σ} {other : τ} (related : relation state other)
    {commands : List κ}
    (permitted : AllAllowed perform perform' allowed state other commands) :
    (performAll perform state commands).1 =
        (performAll perform' other commands).1 ∧
      relation (performAll perform state commands).2
        (performAll perform' other commands).2 := by
  induction commands generalizing state other with
  | nil => exact ⟨rfl, related⟩
  | cons command rest induction =>
      obtain ⟨permitted, later⟩ := permitted
      have answers := step state other command related permitted
      rw [performAll, performAll]
      cases first : perform state command with
      | ok after =>
          cases second : perform' other command with
          | ok after' =>
              rw [first, second] at answers later
              cases answers with
              | accepted related =>
                  obtain ⟨same, last⟩ := induction related later
                  exact ⟨congrArg (none :: ·) same, last⟩
          | error error =>
              rw [first, second] at answers
              cases answers
      | error error =>
          cases second : perform' other command with
          | ok after' =>
              rw [first, second] at answers
              cases answers
          | error error' =>
              rw [first, second] at answers later
              cases answers with
              | rejected _ related =>
                  obtain ⟨same, last⟩ := induction related later
                  exact ⟨congrArg (some error :: ·) same, last⟩

end Simulation

end RagBench
