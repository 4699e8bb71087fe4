import RagBench.Execution

/-!
# Processes that are stopped and started again

A process runs a program over a state.  It may be stopped between any two
operations; a program then starts on what survives of the state.  Protocols
carry over: what every session can rely on is what the earlier ones have left,
wherever they were stopped.
-/

namespace RagBench

/-- What a process goes through. -/
inductive ProcessEvent (Op : Type) (Reply : Op → Type) (ε : Type) where
  | awaited (op : Op) (outcome : Except ε (Reply op))
  | restarted

structure Process (Op : Type) (Reply : Op → Type) (ε α σ : Type) where
  state : σ
  task : Program Op Reply ε α

namespace Process

variable {Op : Type} {Reply : Op → Type} {ε α σ τ : Type}

/-- The program goes on by one operation, or the process is started again with
one of the programs. -/
inductive Step (perform : σ → (op : Op) → Except ε (Reply op) → σ → Prop)
    (survives : σ → σ) (programs : Program Op Reply ε α → Prop)
    (before : Process Op Reply ε α σ) :
    ProcessEvent Op Reply ε → Process Op Reply ε α σ → Prop where
  | awaited {op : Op} {outcome : Except ε (Reply op)}
      {next : Except ε (Reply op) → Program Op Reply ε α} {after : σ} :
      before.task = .call op next →
      perform before.state op outcome after →
      Step perform survives programs before (.awaited op outcome)
        ⟨after, next outcome⟩
  | restarted {program : Program Op Reply ε α} :
      programs program →
      Step perform survives programs before .restarted
        ⟨survives before.state, program⟩

variable {perform : σ → (op : Op) → Except ε (Reply op) → σ → Prop}
  {survives : σ → σ} {programs : Program Op Reply ε α → Prop}

/-- If every operation that a protocol allows keeps local and shared state
related, and every program can be started on what survives of a related state,
then every run keeps them related, and its program follows the protocol. -/
theorem run_follows {start finish : Process Op Reply ε α σ}
    {events : List (ProcessEvent Op Reply ε)}
    (run : Run (Step perform survives programs) start events finish)
    (protocol : Program.Protocol Op Reply ε τ)
    (post : Except ε α → τ → Prop) (related : σ → τ → Prop)
    (base : ∃ current, related start.state current ∧
      start.task.Follows protocol post current)
    (keep : ∀ before current op outcome after, related before current →
      protocol.allows current op → perform before op outcome after →
      ∃ moved, protocol.moves current op outcome moved ∧ related after moved)
    (again : ∀ state current program, related state current →
      programs program → ∃ fresh, related (survives state) fresh ∧
        program.Follows protocol post fresh) :
    ∃ current, related finish.state current ∧
      finish.task.Follows protocol post current := by
  refine run.stateInvariant
    (fun process => ∃ current, related process.state current ∧
      process.task.Follows protocol post current) base ?_
  rintro before event after ⟨current, relation, follows⟩ performed
  cases performed with
  | awaited waiting changed =>
      rw [waiting] at follows
      obtain ⟨moved, moves, kept⟩ :=
        keep _ _ _ _ _ relation follows.1 changed
      exact ⟨moved, kept, follows.2 _ moved moves⟩
  | restarted started => exact again _ _ _ relation started

end Process

namespace Program

section Rules

variable {Op : Type} {Reply : Op → Type} {ε α β τ : Type}
  {protocol : Protocol Op Reply ε τ} {post : Except ε β → τ → Prop}
  {state : τ}

/-- A check that awaits nothing. -/
theorem Follows.check {outcome : Except ε α}
    {next : α → Program Op Reply ε β}
    (normal : ∀ value, outcome = .ok value →
      (next value).Follows protocol post state)
    (raised : ∀ error, outcome = .error error → post (.error error) state) :
    (fromExcept outcome >>= next).Follows protocol post state := by
  cases outcome with
  | ok value => exact normal value rfl
  | error error => exact raised error rfl

/-- A check that is known to pass. -/
theorem Follows.known {outcome : Except ε α} {value : α}
    {next : α → Program Op Reply ε β} (same : outcome = .ok value)
    (follows : (next value).Follows protocol post state) :
    (fromExcept outcome >>= next).Follows protocol post state := by
  rw [same]
  exact follows

/-- One operation, and what comes after each of its outcomes. -/
theorem Follows.await {op : Op} {next : Reply op → Program Op Reply ε β}
    (allowed : protocol.allows state op)
    (normal : ∀ value after, protocol.moves state op (.ok value) after →
      (next value).Follows protocol post after)
    (raised : ∀ error after, protocol.moves state op (.error error) after →
      post (.error error) after) :
    (Program.await op >>= next).Follows protocol post state := by
  refine ⟨allowed, fun outcome after moved => ?_⟩
  cases outcome with
  | ok value => exact normal value after moved
  | error error => exact raised error after moved

end Rules

variable {Op : Type} {Reply : Op → Type} {ε α σ τ : Type}
  {perform : σ → (op : Op) → Except ε (Reply op) → σ → Prop}

/-- A complete execution ends as the protocol promises. -/
theorem Executes.ends {program : Program Op Reply ε α} {state finish : σ}
    {events : List (Awaited Op Reply ε)} {result : Except ε α}
    (executed : program.Executes perform state events result finish)
    {protocol : Protocol Op Reply ε τ} {post : Except ε α → τ → Prop}
    (related : σ → τ → Prop) {current : τ}
    (followed : program.Follows protocol post current)
    (relation : related state current)
    (keep : ∀ before current op outcome after, related before current →
      protocol.allows current op → perform before op outcome after →
      ∃ moved, protocol.moves current op outcome moved ∧
        related after moved) :
    ∃ last, related finish last ∧ post result last := by
  induction executed generalizing current with
  | ret => exact ⟨current, relation, followed⟩
  | raise => exact ⟨current, relation, followed⟩
  | call performed _ induction =>
      obtain ⟨moved, moves, kept⟩ :=
        keep _ _ _ _ _ relation followed.1 performed
      exact induction (followed.2 _ moved moves) kept

/-- A program whose operations can all be performed comes to an end. -/
theorem Follows.executes {protocol : Protocol Op Reply ε τ}
    {post : Except ε α → τ → Prop} {program : Program Op Reply ε α}
    (related : σ → τ → Prop) {state : σ} {current : τ}
    (followed : program.Follows protocol post current)
    (relation : related state current)
    (keep : ∀ before current op outcome after, related before current →
      protocol.allows current op → perform before op outcome after →
      ∃ moved, protocol.moves current op outcome moved ∧ related after moved)
    (able : ∀ before current op, related before current →
      protocol.allows current op →
      ∃ outcome after, perform before op outcome after) :
    ∃ events result finish,
      program.Executes perform state events result finish := by
  induction program generalizing state current with
  | ret value => exact ⟨_, _, _, .ret⟩
  | raise error => exact ⟨_, _, _, .raise⟩
  | call op next induction =>
      obtain ⟨outcome, after, performed⟩ :=
        able _ _ _ relation followed.1
      obtain ⟨moved, moves, kept⟩ :=
        keep _ _ _ _ _ relation followed.1 performed
      obtain ⟨events, result, finish, executed⟩ :=
        induction outcome (followed.2 _ moved moves) kept
      exact ⟨_, _, _, .call performed executed⟩

/-- A complete execution is a run of the process. -/
theorem Executes.run {program : Program Op Reply ε α} {state finish : σ}
    {events : List (Awaited Op Reply ε)} {result : Except ε α}
    (executed : program.Executes perform state events result finish)
    {other : σ → (op : Op) → Except ε (Reply op) → σ → Prop}
    (weaker : ∀ before op outcome after, perform before op outcome after →
      other before op outcome after)
    (survives : σ → σ) (programs : Program Op Reply ε α → Prop) :
    Run (Process.Step other survives programs) ⟨state, program⟩
      (events.map fun awaited => .awaited awaited.op awaited.outcome)
      ⟨finish, fromExcept result⟩ := by
  induction executed with
  | ret => exact .refl
  | raise => exact .refl
  | call performed _ induction =>
      exact .cons (.awaited rfl (weaker _ _ _ _ performed)) induction

end Program

end RagBench
