import RagBench.Program

/-!
# Executions of one program

`Program.Executes` is a complete run of a program over a state: the awaited
operations with their outcomes, how the program ends, and the last state.  The
rules take an execution apart along the structure of the program.
-/

namespace RagBench

/-- An awaited operation and its outcome. -/
structure Awaited (Op : Type) (Reply : Op → Type) (ε : Type) where
  op : Op
  outcome : Except ε (Reply op)

namespace Program

variable {Op : Type} {Reply : Op → Type} {ε α β σ : Type}

/-- `perform` says which outcomes an operation can have, and what it does. -/
inductive Executes
    (perform : σ → (op : Op) → Except ε (Reply op) → σ → Prop) :
    Program Op Reply ε α → σ → List (Awaited Op Reply ε) → Except ε α → σ →
      Prop where
  | ret {value : α} {state : σ} :
      Executes perform (.ret value) state [] (.ok value) state
  | raise {error : ε} {state : σ} :
      Executes perform (.raise error) state [] (.error error) state
  | call {op : Op} {outcome : Except ε (Reply op)}
      {next : Except ε (Reply op) → Program Op Reply ε α}
      {state middle finish : σ} {events : List (Awaited Op Reply ε)}
      {result : Except ε α} :
      perform state op outcome middle →
      Executes perform (next outcome) middle events result finish →
      Executes perform (.call op next) state (⟨op, outcome⟩ :: events) result
        finish

variable {perform : σ → (op : Op) → Except ε (Reply op) → σ → Prop}
  {state finish : σ} {events : List (Awaited Op Reply ε)}

@[simp] theorem executes_ret {value : α} {result : Except ε α} :
    (ret value : Program Op Reply ε α).Executes perform state events result
        finish ↔
      events = [] ∧ result = .ok value ∧ finish = state := by
  constructor
  · rintro ⟨⟩
    exact ⟨rfl, rfl, rfl⟩
  · rintro ⟨rfl, rfl, rfl⟩
    exact .ret

@[simp] theorem executes_pure {value : α} {result : Except ε α} :
    (pure value : Program Op Reply ε α).Executes perform state events result
        finish ↔
      events = [] ∧ result = .ok value ∧ finish = state :=
  executes_ret

@[simp] theorem executes_raise {error : ε} {result : Except ε α} :
    (raise error : Program Op Reply ε α).Executes perform state events result
        finish ↔
      events = [] ∧ result = .error error ∧ finish = state := by
  constructor
  · rintro ⟨⟩
    exact ⟨rfl, rfl, rfl⟩
  · rintro ⟨rfl, rfl, rfl⟩
    exact .raise

@[simp] theorem executes_throw {error : ε} {result : Except ε α} :
    (throw error : Program Op Reply ε α).Executes perform state events result
        finish ↔
      events = [] ∧ result = .error error ∧ finish = state :=
  executes_raise

@[simp] theorem executes_fromExcept {outcome result : Except ε α} :
    (fromExcept outcome : Program Op Reply ε α).Executes perform state events
        result finish ↔
      events = [] ∧ result = outcome ∧ finish = state := by
  cases outcome with
  | ok value => exact executes_ret
  | error error => exact executes_raise

/-- The operation comes first. -/
theorem executes_call {op : Op}
    {next : Except ε (Reply op) → Program Op Reply ε α}
    {result : Except ε α} :
    (call op next).Executes perform state events result finish ↔
      ∃ outcome middle later, perform state op outcome middle ∧
        (next outcome).Executes perform middle later result finish ∧
        events = ⟨op, outcome⟩ :: later := by
  constructor
  · rintro ⟨⟩
    rename_i performed resumed
    exact ⟨_, _, _, performed, resumed, rfl⟩
  · rintro ⟨outcome, middle, later, performed, resumed, rfl⟩
    exact .call performed resumed

theorem executes_await {op : Op} {result : Except ε (Reply op)} :
    (await op : Program Op Reply ε (Reply op)).Executes perform state events
        result finish ↔
      perform state op result finish ∧ events = [⟨op, result⟩] := by
  rw [await, executes_call]
  constructor
  · rintro ⟨outcome, middle, later, performed, resumed, rfl⟩
    obtain ⟨rfl, rfl, rfl⟩ := executes_fromExcept.mp resumed
    exact ⟨performed, rfl⟩
  · rintro ⟨performed, rfl⟩
    exact ⟨result, finish, [], performed,
      executes_fromExcept.mpr ⟨rfl, rfl, rfl⟩, rfl⟩

/-- A program runs to its outcome, then what follows runs. -/
theorem executes_continueWith {program : Program Op Reply ε α}
    {next : Except ε α → Program Op Reply ε β} {result : Except ε β} :
    (program.continueWith next).Executes perform state events result finish ↔
      ∃ early outcome middle later,
        program.Executes perform state early outcome middle ∧
        (next outcome).Executes perform middle later result finish ∧
        events = early ++ later := by
  induction program generalizing state events with
  | ret value =>
      constructor
      · intro executed
        exact ⟨[], .ok value, state, events, .ret, executed, rfl⟩
      · rintro ⟨early, outcome, middle, later, first, executed, rfl⟩
        obtain ⟨rfl, rfl, rfl⟩ := executes_ret.mp first
        exact executed
  | raise error =>
      constructor
      · intro executed
        exact ⟨[], .error error, state, events, .raise, executed, rfl⟩
      · rintro ⟨early, outcome, middle, later, first, executed, rfl⟩
        obtain ⟨rfl, rfl, rfl⟩ := executes_raise.mp first
        exact executed
  | call op rest induction =>
      rw [continueWith, executes_call]
      constructor
      · rintro ⟨outcome, middle, later, performed, resumed, rfl⟩
        obtain ⟨early, value, last, late, first, executed, rfl⟩ :=
          (induction outcome).mp resumed
        exact ⟨⟨op, outcome⟩ :: early, value, last, late,
          .call performed first, executed, rfl⟩
      · rintro ⟨early, value, last, late, first, executed, rfl⟩
        obtain ⟨outcome, middle, later, performed, resumed, rfl⟩ :=
          executes_call.mp first
        exact ⟨outcome, middle, later ++ late, performed,
          (induction outcome).mpr ⟨later, value, last, late, resumed,
            executed, rfl⟩, rfl⟩

/-- A block ends with the exception of its first step, or with what follows
that step. -/
theorem executes_bind {program : Program Op Reply ε α}
    {next : α → Program Op Reply ε β} {result : Except ε β} :
    (program >>= next).Executes perform state events result finish ↔
      (∃ error, program.Executes perform state events (.error error) finish ∧
        result = .error error) ∨
      ∃ early value middle later,
        program.Executes perform state early (.ok value) middle ∧
        (next value).Executes perform middle later result finish ∧
        events = early ++ later := by
  change (program.continueWith _).Executes perform _ _ _ _ ↔ _
  rw [executes_continueWith]
  constructor
  · rintro ⟨early, outcome, middle, later, first, executed, rfl⟩
    cases outcome with
    | ok value =>
        exact .inr ⟨early, value, middle, later, first, executed, rfl⟩
    | error error =>
        obtain ⟨rfl, rfl, rfl⟩ := executes_raise.mp executed
        rw [List.append_nil]
        exact .inl ⟨error, first, rfl⟩
  · rintro (⟨error, first, rfl⟩ |
      ⟨early, value, middle, later, first, executed, rfl⟩)
    · exact ⟨events, .error error, finish, [], first, .raise,
        (List.append_nil _).symm⟩
    · exact ⟨early, .ok value, middle, later, first, executed, rfl⟩

theorem executes_await_bind {op : Op}
    {next : Reply op → Program Op Reply ε β} {result : Except ε β} :
    (await op >>= next).Executes perform state events result finish ↔
      (∃ error, perform state op (.error error) finish ∧
        result = .error error ∧ events = [⟨op, .error error⟩]) ∨
      ∃ value middle later, perform state op (.ok value) middle ∧
        (next value).Executes perform middle later result finish ∧
        events = ⟨op, .ok value⟩ :: later := by
  rw [executes_bind]
  constructor
  · rintro (⟨error, awaited, rfl⟩ |
      ⟨early, value, middle, later, awaited, executed, rfl⟩)
    · obtain ⟨performed, rfl⟩ := executes_await.mp awaited
      exact .inl ⟨error, performed, rfl, rfl⟩
    · obtain ⟨performed, rfl⟩ := executes_await.mp awaited
      exact .inr ⟨value, middle, later, performed, executed, rfl⟩
  · rintro (⟨error, performed, rfl, rfl⟩ |
      ⟨value, middle, later, performed, executed, rfl⟩)
    · exact .inl ⟨error, executes_await.mpr ⟨performed, rfl⟩, rfl⟩
    · exact .inr ⟨_, value, middle, later,
        executes_await.mpr ⟨performed, rfl⟩, executed, rfl⟩

theorem executes_fromExcept_bind {outcome : Except ε α}
    {next : α → Program Op Reply ε β} {result : Except ε β} :
    (fromExcept outcome >>= next).Executes perform state events result
        finish ↔
      (∃ error, outcome = .error error ∧ result = .error error ∧
        events = [] ∧ finish = state) ∨
      ∃ value, outcome = .ok value ∧
        (next value).Executes perform state events result finish := by
  cases outcome with
  | ok value =>
      constructor
      · exact fun executed => .inr ⟨value, rfl, executed⟩
      · rintro (⟨error, same, -⟩ | ⟨value', same, executed⟩)
        · cases same
        · cases same
          exact executed
  | error error =>
      constructor
      · intro executed
        obtain ⟨rfl, rfl, rfl⟩ := executes_raise.mp executed
        exact .inl ⟨error, rfl, rfl, rfl, rfl⟩
      · rintro (⟨error', same, rfl, rfl, rfl⟩ | ⟨value, same, -⟩)
        · cases same
          exact .raise
        · cases same

theorem executes_attempt {program : Program Op Reply ε α}
    {result : Except ε (Except ε α)} :
    program.attempt.Executes perform state events result finish ↔
      ∃ outcome, program.Executes perform state events outcome finish ∧
        result = .ok outcome := by
  rw [attempt, executes_continueWith]
  constructor
  · rintro ⟨early, outcome, middle, later, first, executed, rfl⟩
    obtain ⟨rfl, rfl, rfl⟩ := executes_ret.mp executed
    rw [List.append_nil]
    exact ⟨outcome, first, rfl⟩
  · rintro ⟨outcome, first, rfl⟩
    exact ⟨events, outcome, finish, [], first, .ret,
      (List.append_nil _).symm⟩

/-- The cleanup runs on every outcome. -/
theorem executes_finalizing {program : Program Op Reply ε α}
    {cleanup : Program Op Reply ε Unit} {result : Except ε α} :
    (program.finalizing cleanup).Executes perform state events result finish ↔
      ∃ early outcome middle later closed,
        program.Executes perform state early outcome middle ∧
        cleanup.Executes perform middle later closed finish ∧
        result = (match closed with
          | .ok () => outcome
          | .error error => .error error) ∧
        events = early ++ later := by
  rw [finalizing, executes_continueWith]
  constructor
  · rintro ⟨early, outcome, middle, later, first, executed, rfl⟩
    change (cleanup >>= fun _ => fromExcept outcome).Executes perform _ _ _ _
      at executed
    rcases executes_bind.mp executed with ⟨error, closed, rfl⟩ |
      ⟨closing, value, last, rest, closed, returned, rfl⟩
    · exact ⟨early, outcome, middle, later, .error error, first, closed, rfl,
        rfl⟩
    · obtain ⟨rfl, rfl, rfl⟩ := executes_fromExcept.mp returned
      rw [List.append_nil]
      exact ⟨early, result, middle, closing, .ok (), first, closed, rfl, rfl⟩
  · rintro ⟨early, outcome, middle, later, closed, first, cleaned, rfl, rfl⟩
    refine ⟨early, outcome, middle, later, first, ?_, rfl⟩
    refine executes_bind.mpr ?_
    cases closed with
    | error error => exact .inl ⟨error, cleaned, rfl⟩
    | ok value =>
        exact .inr ⟨later, (), finish, [], cleaned,
          executes_fromExcept.mpr ⟨rfl, rfl, rfl⟩,
          (List.append_nil _).symm⟩

/-- What every operation preserves holds at the end. -/
theorem Executes.preserves {program : Program Op Reply ε α}
    {result : Except ε α} (invariant : σ → Prop)
    (executed : program.Executes perform state events result finish)
    (keep : ∀ before op outcome after, ⟨op, outcome⟩ ∈ events →
      perform before op outcome after → invariant before → invariant after)
    (holds : invariant state) : invariant finish := by
  induction executed with
  | ret => exact holds
  | raise => exact holds
  | call performed _ induction =>
      refine induction (fun before op outcome after member =>
        keep before op outcome after (List.mem_cons_of_mem _ member)) ?_
      exact keep _ _ _ _ List.mem_cons_self performed holds

/-- A protocol without states: some operations are never awaited. -/
def Protocol.only (allowed : Op → Prop) : Protocol Op Reply ε Unit :=
  { allows := fun _ => allowed
    moves := fun _ _ _ _ => True }

/-- Every operation of an execution is an allowed one. -/
theorem Executes.allowed {program : Program Op Reply ε α}
    {result : Except ε α} {allowed : Op → Prop}
    {post : Except ε α → Unit → Prop}
    (executed : program.Executes perform state events result finish)
    (followed : program.Follows (Protocol.only allowed) post ()) :
    ∀ event ∈ events, allowed event.op := by
  induction executed with
  | ret => exact List.forall_mem_nil _
  | raise => exact List.forall_mem_nil _
  | call _ _ induction =>
      exact List.forall_mem_cons.mpr
        ⟨followed.1, induction (followed.2 _ _ trivial)⟩

/-- More operations may be allowed. -/
theorem Follows.only_weaken {program : Program Op Reply ε α}
    {first second : Op → Prop} {post : Except ε α → Unit → Prop}
    (followed : program.Follows (Protocol.only first) post ())
    (more : ∀ op, first op → second op) :
    program.Follows (Protocol.only second) post () := by
  induction program with
  | ret value => exact followed
  | raise error => exact followed
  | call op rest induction =>
      exact ⟨more op followed.1, fun outcome after moved =>
        induction outcome (followed.2 outcome after moved)⟩

theorem leaves_await_only {allowed : Op → Prop} {op : Op}
    (allows : allowed op) :
    (await op : Program Op Reply ε (Reply op)).Leaves
      (Protocol.only allowed) () :=
  leaves_await ⟨allows, fun _ _ _ => rfl⟩

/-- Run a program; `respond` performs the operations. -/
def execute (respond : σ → (op : Op) → Except ε (Reply op) × σ) :
    Program Op Reply ε α → σ → List (Awaited Op Reply ε) × Except ε α × σ
  | .ret value, state => ([], .ok value, state)
  | .raise error, state => ([], .error error, state)
  | .call op next, state =>
      let (outcome, middle) := respond state op
      let (events, result, finish) := execute respond (next outcome) middle
      (⟨op, outcome⟩ :: events, result, finish)

theorem executes_execute {respond : σ → (op : Op) → Except ε (Reply op) × σ}
    (sound : ∀ state op,
      perform state op (respond state op).1 (respond state op).2)
    (program : Program Op Reply ε α) (state : σ) :
    program.Executes perform state (execute respond program state).1
      (execute respond program state).2.1
      (execute respond program state).2.2 := by
  induction program generalizing state with
  | ret value => exact .ret
  | raise error => exact .raise
  | call op next induction =>
      exact .call (sound state op) (induction _ _)

end Program

end RagBench
