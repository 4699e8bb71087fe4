import Mathlib.Logic.Function.Basic
import RagBench.Transition

/-!
# Effect programs with exceptions

A program is a tree: it returns, it raises, or it awaits one operation and
continues with the outcome, which is a reply or an exception.  Awaiting is the
only place where a program can be suspended, so it is the only place where
other programs, or a cancellation, can come in between.

`Program.Follows` is the proof rule: a program follows a protocol when every
operation it awaits is allowed in the protocol's current local state.  The
local state only changes through the program's own outcomes, hence following
a protocol is stable under everything other programs do.  `Concurrent` runs
any family of programs over one shared state, and `Concurrent.run_follows`
carries the protocols through every interleaving.
-/

namespace RagBench

inductive Program (Op : Type) (Reply : Op → Type) (ε : Type) (α : Type) where
  | ret (value : α)
  | raise (error : ε)
  | call (op : Op)
      (next : Except ε (Reply op) → Program Op Reply ε α)

namespace Program

variable {Op : Type} {Reply : Op → Type} {ε α β γ τ : Type}

/-- Run a program to its outcome, normal or exceptional, and go on from it. -/
def continueWith (program : Program Op Reply ε α)
    (next : Except ε α → Program Op Reply ε β) : Program Op Reply ε β :=
  match program with
  | .ret value => next (.ok value)
  | .raise error => next (.error error)
  | .call op rest => .call op fun outcome => (rest outcome).continueWith next

def fromExcept : Except ε α → Program Op Reply ε α
  | .ok value => .ret value
  | .error error => .raise error

/-- Await a single operation. -/
def await (op : Op) : Program Op Reply ε (Reply op) :=
  .call op fromExcept

protected def bind (program : Program Op Reply ε α)
    (next : α → Program Op Reply ε β) : Program Op Reply ε β :=
  program.continueWith fun outcome =>
    match outcome with
    | .ok value => next value
    | .error error => .raise error

/-- `try program except error: handler error`. -/
def catching (program : Program Op Reply ε α)
    (handler : ε → Program Op Reply ε α) : Program Op Reply ε α :=
  program.continueWith fun outcome =>
    match outcome with
    | .ok value => .ret value
    | .error error => handler error

/-- The outcome of a program as a value. -/
def attempt (program : Program Op Reply ε α) :
    Program Op Reply ε (Except ε α) :=
  program.continueWith .ret

/-- `try: program finally: cleanup`; an exception of the cleanup replaces the
outcome of the program. -/
def finalizing (program : Program Op Reply ε α)
    (cleanup : Program Op Reply ε Unit) : Program Op Reply ε α :=
  program.continueWith fun outcome =>
    cleanup.bind fun _ => fromExcept outcome

instance : Monad (Program Op Reply ε) where
  pure := .ret
  bind := Program.bind

instance : MonadExcept ε (Program Op Reply ε) where
  throw := .raise
  tryCatch := Program.catching

/-- A protocol restricts which operations a program may await, depending on a
local state, and says how outcomes move that state. -/
structure Protocol (Op : Type) (Reply : Op → Type) (ε : Type) (τ : Type) where
  allows : τ → Op → Prop
  moves : τ → (op : Op) → Except ε (Reply op) → τ → Prop

/-- From the local state, every operation the program can come to await is
allowed, and every way for it to end satisfies the postcondition. -/
def Follows (protocol : Protocol Op Reply ε τ)
    (post : Except ε α → τ → Prop) : Program Op Reply ε α → τ → Prop
  | .ret value, state => post (.ok value) state
  | .raise error, state => post (.error error) state
  | .call op next, state =>
      protocol.allows state op ∧
        ∀ outcome after, protocol.moves state op outcome after →
          (next outcome).Follows protocol post after

section Rules

variable {protocol : Protocol Op Reply ε τ}

@[simp] theorem follows_ret
    {post : Except ε α → τ → Prop} {value : α} {state : τ} :
    (Program.ret value : Program Op Reply ε α).Follows protocol post state ↔
      post (.ok value) state := Iff.rfl

@[simp] theorem follows_pure
    {post : Except ε α → τ → Prop} {value : α} {state : τ} :
    (pure value : Program Op Reply ε α).Follows protocol post state ↔
      post (.ok value) state := Iff.rfl

@[simp] theorem follows_raise
    {post : Except ε α → τ → Prop} {error : ε} {state : τ} :
    (Program.raise error : Program Op Reply ε α).Follows protocol post state ↔
      post (.error error) state := Iff.rfl

@[simp] theorem follows_throw
    {post : Except ε α → τ → Prop} {error : ε} {state : τ} :
    (throw error : Program Op Reply ε α).Follows protocol post state ↔
      post (.error error) state := Iff.rfl

@[simp] theorem follows_fromExcept
    {post : Except ε α → τ → Prop} {outcome : Except ε α} {state : τ} :
    (fromExcept outcome : Program Op Reply ε α).Follows protocol post state ↔
      post outcome state := by
  cases outcome <;> rfl

theorem follows_continueWith
    {program : Program Op Reply ε α}
    {next : Except ε α → Program Op Reply ε β}
    {post : Except ε β → τ → Prop} {state : τ} :
    (program.continueWith next).Follows protocol post state ↔
      program.Follows protocol
        (fun outcome after => (next outcome).Follows protocol post after)
        state := by
  induction program generalizing state with
  | ret value => rfl
  | raise error => rfl
  | call op rest induction =>
      constructor
      · rintro ⟨allowed, resumed⟩
        exact ⟨allowed, fun outcome after moved =>
          (induction outcome).mp (resumed outcome after moved)⟩
      · rintro ⟨allowed, resumed⟩
        exact ⟨allowed, fun outcome after moved =>
          (induction outcome).mpr (resumed outcome after moved)⟩

/-- Consequence: a weaker postcondition. -/
theorem Follows.weaken
    {program : Program Op Reply ε α} {first second : Except ε α → τ → Prop}
    {state : τ} (followed : program.Follows protocol first state)
    (weaker : ∀ outcome after, first outcome after → second outcome after) :
    program.Follows protocol second state := by
  induction program generalizing state with
  | ret value => exact weaker _ _ followed
  | raise error => exact weaker _ _ followed
  | call op rest induction =>
      exact ⟨followed.1, fun outcome after moved =>
        induction outcome (followed.2 outcome after moved)⟩

/-- Sequencing: what follows the first program is only owed on its normal
outcomes; its exceptions are exceptions of the whole. -/
theorem Follows.bind
    {program : Program Op Reply ε α} {next : α → Program Op Reply ε β}
    {middle : Except ε α → τ → Prop} {post : Except ε β → τ → Prop}
    {state : τ} (first : program.Follows protocol middle state)
    (normal : ∀ value after, middle (.ok value) after →
      (next value).Follows protocol post after)
    (raised : ∀ error after, middle (.error error) after →
      post (.error error) after) :
    (program >>= next).Follows protocol post state := by
  refine follows_continueWith.mpr (first.weaken ?_)
  intro outcome after reached
  cases outcome with
  | ok value => exact normal value after reached
  | error error => exact raised error after reached

theorem Follows.catching
    {program : Program Op Reply ε α} {handler : ε → Program Op Reply ε α}
    {middle post : Except ε α → τ → Prop} {state : τ}
    (first : program.Follows protocol middle state)
    (normal : ∀ value after, middle (.ok value) after →
      post (.ok value) after)
    (handled : ∀ error after, middle (.error error) after →
      (handler error).Follows protocol post after) :
    (tryCatch program handler).Follows protocol post state := by
  refine follows_continueWith.mpr (first.weaken ?_)
  intro outcome after reached
  cases outcome with
  | ok value => exact normal value after reached
  | error error => exact handled error after reached

theorem Follows.attempt
    {program : Program Op Reply ε α} {middle : Except ε α → τ → Prop}
    {post : Except ε (Except ε α) → τ → Prop} {state : τ}
    (first : program.Follows protocol middle state)
    (reached : ∀ outcome after, middle outcome after →
      post (.ok outcome) after) :
    program.attempt.Follows protocol post state :=
  follows_continueWith.mpr (first.weaken reached)

theorem Follows.finalizing
    {program : Program Op Reply ε α} {cleanup : Program Op Reply ε Unit}
    {middle post : Except ε α → τ → Prop} {state : τ}
    (first : program.Follows protocol middle state)
    (cleaned : ∀ outcome after, middle outcome after →
      cleanup.Follows protocol
        (fun result last =>
          match result with
          | .ok () => post outcome last
          | .error error => post (.error error) last) after) :
    (program.finalizing cleanup).Follows protocol post state := by
  refine follows_continueWith.mpr (first.weaken ?_)
  intro outcome after reached
  refine Follows.bind (cleaned outcome after reached) ?_ ?_
  · intro _ last held
    exact follows_fromExcept.mpr held
  · intro error last held
    exact held

theorem follows_await
    {op : Op} {post : Except ε (Reply op) → τ → Prop} {state : τ} :
    (await op : Program Op Reply ε (Reply op)).Follows protocol post state ↔
      protocol.allows state op ∧
        ∀ outcome after, protocol.moves state op outcome after →
          post outcome after := by
  simp [await, Follows]

/-- The program follows the protocol and leaves the local state alone. -/
def Leaves (protocol : Protocol Op Reply ε τ) (program : Program Op Reply ε α)
    (state : τ) : Prop :=
  program.Follows protocol (fun _ after => after = state) state

section Leaves

variable {state : τ}

theorem Leaves.bind {program : Program Op Reply ε α}
    {next : α → Program Op Reply ε β} {post : Except ε β → τ → Prop}
    (first : program.Leaves protocol state)
    (resumed : ∀ value, (next value).Follows protocol post state)
    (raised : ∀ error, post (.error error) state) :
    (program >>= next).Follows protocol post state := by
  apply Follows.bind first
  · rintro value after rfl
    exact resumed value
  · rintro error after rfl
    exact raised error

theorem leaves_pure (value : α) :
    (pure value : Program Op Reply ε α).Leaves protocol state := rfl

theorem leaves_throw (error : ε) :
    (throw error : Program Op Reply ε α).Leaves protocol state := rfl

theorem leaves_fromExcept (outcome : Except ε α) :
    (fromExcept outcome : Program Op Reply ε α).Leaves protocol state :=
  follows_fromExcept.mpr rfl

/-- What follows may use where its value came from. -/
theorem follows_fromExcept_is (outcome : Except ε α) :
    (fromExcept outcome : Program Op Reply ε α).Follows protocol
      (fun result after => result = outcome ∧ after = state) state :=
  follows_fromExcept.mpr ⟨rfl, rfl⟩

/-- An operation that is allowed and moves nothing. -/
def Protocol.Ignores (protocol : Protocol Op Reply ε τ) (state : τ)
    (op : Op) : Prop :=
  protocol.allows state op ∧
    ∀ outcome after, protocol.moves state op outcome after → after = state

theorem leaves_await {op : Op} (ignored : protocol.Ignores state op) :
    (await op : Program Op Reply ε (Reply op)).Leaves protocol state :=
  follows_await.mpr ignored

end Leaves

end Rules

end Program

/-- One awaited operation of one task has come to its outcome. -/
structure Completion (ι Op : Type) (Reply : Op → Type) (ε : Type) where
  task : ι
  op : Op
  outcome : Except ε (Reply op)

/-- Any number of programs over one shared state. -/
structure Concurrent (ι Op : Type) (Reply : Op → Type) (ε α σ : Type) where
  shared : σ
  tasks : ι → Program Op Reply ε α

namespace Concurrent

variable {ι Op : Type} {Reply : Op → Type} {ε α σ τ : Type}

/-- Some suspended task resumes with an outcome the shared state admits. -/
inductive Step [DecidableEq ι]
    (perform : σ → (op : Op) → Except ε (Reply op) → σ → Prop)
    (before : Concurrent ι Op Reply ε α σ) :
    Completion ι Op Reply ε → Concurrent ι Op Reply ε α σ → Prop where
  | mk {task : ι} {op : Op} {outcome : Except ε (Reply op)}
      {next : Except ε (Reply op) → Program Op Reply ε α} {after : σ} :
      before.tasks task = .call op next →
      perform before.shared op outcome after →
      Step perform before ⟨task, op, outcome⟩
        ⟨after, Function.update before.tasks task (next outcome)⟩

/-- If every task follows its protocol from its initial local state, and the
shared invariant survives every operation a protocol allows, then at the end
of every interleaving some local states are still followed and related to the
shared state and the history. -/
theorem run_follows [DecidableEq ι]
    {perform : σ → (op : Op) → Except ε (Reply op) → σ → Prop}
    {start finish : Concurrent ι Op Reply ε α σ}
    {events : List (Completion ι Op Reply ε)}
    (run : Run (Step perform) start events finish)
    (assumed : Completion ι Op Reply ε → Prop)
    (holding : ∀ event ∈ events, assumed event)
    (protocol : ι → Program.Protocol Op Reply ε τ)
    (post : ι → Except ε α → τ → Prop)
    (related : List (Completion ι Op Reply ε) → σ → (ι → τ) → Prop)
    {locals : ι → τ}
    (followed : ∀ task,
      (start.tasks task).Follows (protocol task) (post task) (locals task))
    (base : related [] start.shared locals)
    (keep : ∀ history before locals task op outcome after,
      related history before locals →
      assumed ⟨task, op, outcome⟩ →
      (protocol task).allows (locals task) op →
      perform before op outcome after →
      ∃ moved, (protocol task).moves (locals task) op outcome moved ∧
        related (history ++ [⟨task, op, outcome⟩]) after
          (Function.update locals task moved)) :
    ∃ locals', related events finish.shared locals' ∧
      ∀ task, (finish.tasks task).Follows (protocol task) (post task)
        (locals' task) := by
  refine run.invariant assumed holding
    (fun history system => ∃ locals',
      related history system.shared locals' ∧
        ∀ task, (system.tasks task).Follows (protocol task) (post task)
          (locals' task))
    ⟨locals, base, followed⟩ ?_
  rintro history before event after ⟨current, relation, follows⟩ allowed
    performed
  cases performed with
  | @mk task op outcome next shared waiting changed =>
      have resumed := follows task
      rw [waiting] at resumed
      obtain ⟨moved, moves, kept⟩ :=
        keep history before.shared current task op outcome shared
          relation allowed resumed.1 changed
      refine ⟨Function.update current task moved, kept, ?_⟩
      intro other
      by_cases same : other = task
      · subst other
        simpa using resumed.2 outcome moved moves
      · simpa [Function.update_of_ne same] using follows other

end Concurrent

end RagBench
