import RagBench.AsyncioLock
import RagBench.Providers.SingleflightEntries

/-!
# Tasks in a singleflight

`_LocalSingleflightRegistry.hold` and `MemoryParseRepository.singleflight` are
one piece of code.  A task looks up or creates the entry of its key, counts
itself, and waits for the lock of the entry; whatever ends its wait or its
guarded region, it releases a lock that it acquired, and the last user of the
entry deletes it.  There is no other task between two suspensions, so a step
goes from one to the next.
-/

namespace RagBench

/-- `_SingleflightEntry`, and `_Flight` of the parse repository. -/
structure Flight (ι : Type) where
  lock : AsyncioLock ι
  users : ℕ

/-- `_entries`, or `_flight_locks`; the objects are numbered by creation. -/
structure FlightTable (ι : Type) where
  entries : Dict String ℕ
  objects : ℕ → Flight ι
  created : ℕ

namespace FlightTable

variable {ι : Type}

def init : FlightTable ι :=
  { entries := .empty
    objects := fun _ => ⟨.init, 0⟩
    created := 0 }

/-- `entries.setdefault(key, Flight(asyncio.Lock()))`. -/
def setdefault (table : FlightTable ι) (key : String) : ℕ × FlightTable ι :=
  match table.entries.get? key with
  | some object => (object, table)
  | none => (table.created,
      { entries := table.entries.set key table.created
        objects := Function.update table.objects table.created ⟨.init, 0⟩
        created := table.created + 1 })

/-- `flight.users += 1`. -/
def join (table : FlightTable ι) (object : ℕ) : FlightTable ι :=
  { table with
    objects := Function.update table.objects object
      { table.objects object with
        users := (table.objects object).users + 1 } }

/-- What comes before `await flight.lock.acquire()`. -/
def arrive (table : FlightTable ι) (key : String) : ℕ × FlightTable ι :=
  let (object, table) := table.setdefault key
  (object, table.join object)

def lockOf (table : FlightTable ι) (object : ℕ) : AsyncioLock ι :=
  (table.objects object).lock

def setLock (table : FlightTable ι) (object : ℕ) (lock : AsyncioLock ι) :
    FlightTable ι :=
  { table with
    objects := Function.update table.objects object
      { table.objects object with lock := lock } }

/-- `flight.users -= 1` and the deletion of an unused entry. -/
def leave (table : FlightTable ι) (key : String) (object : ℕ) :
    FlightTable ι :=
  let left := (table.objects object).users - 1
  { table with
    objects := Function.update table.objects object
      { table.objects object with users := left }
    entries :=
      if left = 0 ∧ table.entries.get? key = some object then
        table.entries.erase key
      else table.entries }

end FlightTable

/-- The table and the calls of `hold` on it. -/
structure Flights (ι : Type) where
  table : FlightTable ι
  frames : ι → Hold

namespace Flights

variable {ι : Type}

def init : Flights ι :=
  { table := .init
    frames := fun _ => .outside }

section Operations

variable [DecidableEq ι]

inductive Step (before : Flights ι) : Flights ι → Prop where
  /-- `acquire` returns at once. -/
  | enter {task : ι} (key : String) {object : ℕ} {table : FlightTable ι}
      (outside : before.frames task = .outside)
      (arrived : before.table.arrive key = (object, table))
      (available : (table.lockOf object).available = true) :
      Step before
        { table := table.setLock object (table.lockOf object).take
          frames := Function.update before.frames task (.holding key object) }
  | wait {task : ι} (key : String) {object : ℕ} {table : FlightTable ι}
      (outside : before.frames task = .outside)
      (arrived : before.table.arrive key = (object, table))
      (unavailable : (table.lockOf object).available = false) :
      Step before
        { table := table.setLock object ((table.lockOf object).enqueue task)
          frames := Function.update before.frames task (.waiting key object) }
  /-- `task.cancel()` while the task waits, before or after its grant. -/
  | cancel {task : ι} {key : String} {object : ℕ}
      (waiting : before.frames task = .waiting key object) :
      Step before
        { before with
          table := before.table.setLock object
            ((before.table.lockOf object).cancel task) }
  | resume {task : ι} {key : String} {object : ℕ}
      (waiting : before.frames task = .waiting key object)
      (granted : (task, .granted) ∈ (before.table.lockOf object).waiters) :
      Step before
        { table := before.table.setLock object
            ((before.table.lockOf object).resume task)
          frames := Function.update before.frames task (.holding key object) }
  /-- The wait ends with an exception, and `acquired` is not set. -/
  | abandon {task : ι} {key : String} {object : ℕ}
      (waiting : before.frames task = .waiting key object) :
      Step before
        { table := (before.table.setLock object
            ((before.table.lockOf object).abandon task)).leave key object
          frames := Function.update before.frames task .outside }
  /-- The guarded region ends, by itself or with an exception. -/
  | exit {task : ι} {key : String} {object : ℕ} {released : AsyncioLock ι}
      (holding : before.frames task = .holding key object)
      (success : (before.table.lockOf object).release = some released) :
      Step before
        { table := (before.table.setLock object released).leave key object
          frames := Function.update before.frames task .outside }
  /-- `release` raises and cuts the `finally` block off. -/
  | fail {task : ι} {key : String} {object : ℕ}
      (holding : before.frames task = .holding key object)
      (unlocked : (before.table.lockOf object).release = none) :
      Step before
        { before with
          frames := Function.update before.frames task .outside }

end Operations

end Flights

/-! ## Locks of a table -/

namespace FlightTable

variable {ι : Type} {table : FlightTable ι}

@[simp] theorem lockOf_setLock (table : FlightTable ι) (object other : ℕ)
    (lock : AsyncioLock ι) :
    (table.setLock object lock).lockOf other =
      if other = object then lock else table.lockOf other := by
  unfold lockOf setLock
  by_cases same : other = object
  · simp [same]
  · simp [same]

@[simp] theorem lockOf_join (table : FlightTable ι) (object other : ℕ) :
    (table.join object).lockOf other = table.lockOf other := by
  unfold lockOf join
  by_cases same : other = object
  · simp [same]
  · simp [same]

@[simp] theorem lockOf_leave (table : FlightTable ι) (key : String)
    (object other : ℕ) :
    (table.leave key object).lockOf other = table.lockOf other := by
  unfold lockOf leave
  by_cases same : other = object
  · simp [same]
  · simp [same]

/-- Every lock of the table has at most one grant. -/
def Orderly (table : FlightTable ι) : Prop :=
  ∀ object, (table.lockOf object).Orderly

theorem Orderly.init : (init : FlightTable ι).Orderly :=
  fun _ => .init

theorem Orderly.setLock (orderly : table.Orderly) (object : ℕ)
    {lock : AsyncioLock ι} (kept : lock.Orderly) :
    (table.setLock object lock).Orderly := by
  intro other
  rw [lockOf_setLock]
  split_ifs
  · exact kept
  · exact orderly other

theorem Orderly.leave (orderly : table.Orderly) (key : String)
    (object : ℕ) : (table.leave key object).Orderly := by
  intro other
  rw [lockOf_leave]
  exact orderly other

/-- A new lock is free. -/
theorem Orderly.arrive (orderly : table.Orderly) (key : String) :
    (table.arrive key).2.Orderly := by
  intro other
  change ((table.setdefault key).2.join _).lockOf other |>.Orderly
  rw [lockOf_join]
  unfold FlightTable.setdefault
  cases table.entries.get? key with
  | some object => exact orderly other
  | none =>
      unfold lockOf
      dsimp only
      by_cases new : other = table.created
      · rw [new, Function.update_self]
        exact .init
      · rw [Function.update_of_ne new]
        exact orderly other

/-! ## The registry of a table -/

/-- The table without the waiters of its locks. -/
def registry (table : FlightTable ι) : SingleflightRegistry :=
  { entries := table.entries
    objects := fun object =>
      ⟨(table.objects object).lock.locked, (table.objects object).users⟩
    created := table.created }

private theorem map_update (objects : ℕ → Flight ι) (object : ℕ)
    (flight : Flight ι) :
    (fun other => (⟨(Function.update objects object flight other).lock.locked,
        (Function.update objects object flight other).users⟩ :
        SingleflightEntry)) =
      Function.update
        (fun other => ⟨(objects other).lock.locked, (objects other).users⟩)
        object ⟨flight.lock.locked, flight.users⟩ := by
  funext other
  by_cases same : other = object
  · simp [same]
  · simp [same]

theorem registry_setdefault (table : FlightTable ι) (key : String) :
    table.registry.setdefault key =
      ((table.setdefault key).1, (table.setdefault key).2.registry) := by
  unfold SingleflightRegistry.setdefault setdefault
  cases found : table.entries.get? key with
  | some object =>
      rw [show table.registry.entries.get? key = some object from found]
  | none =>
      rw [show table.registry.entries.get? key = none from found]
      simp only [registry, map_update]
      rfl

theorem registry_join (table : FlightTable ι) (object : ℕ) :
    (table.join object).registry = table.registry.join object := by
  simp only [registry, join, map_update, SingleflightRegistry.join]

theorem registry_setLock (table : FlightTable ι) (object : ℕ)
    (lock : AsyncioLock ι) :
    (table.setLock object lock).registry =
      { table.registry with
        objects := Function.update table.registry.objects object
          { table.registry.objects object with locked := lock.locked } } := by
  simp only [registry, setLock, map_update]

/-- A change of the waiters only. -/
theorem registry_setLock_same {object : ℕ} {lock : AsyncioLock ι}
    (same : lock.locked = (table.lockOf object).locked) :
    (table.setLock object lock).registry = table.registry := by
  rw [registry_setLock, same]
  exact congrArg (fun objects => { table.registry with objects := objects })
    (Function.update_eq_self object table.registry.objects)

theorem registry_setLock_locked {object : ℕ} {lock : AsyncioLock ι}
    (locked : lock.locked = true) :
    (table.setLock object lock).registry = table.registry.acquire object := by
  rw [registry_setLock, locked, SingleflightRegistry.acquire]

theorem registry_leave (table : FlightTable ι) (key : String) (object : ℕ) :
    (table.leave key object).registry =
      table.registry.leave key object false := by
  simp only [registry, leave, map_update, SingleflightRegistry.leave]
  rfl

theorem registry_abandon {object : ℕ} {lock : AsyncioLock ι}
    (same : lock.locked = (table.lockOf object).locked) (key : String) :
    ((table.setLock object lock).leave key object).registry =
      table.registry.leave key object false := by
  rw [registry_leave, registry_setLock_same same]

theorem registry_release {object : ℕ} {lock : AsyncioLock ι}
    (unlocked : lock.locked = false) (key : String) :
    ((table.setLock object lock).leave key object).registry =
      table.registry.leave key object true := by
  rw [registry_leave, registry_setLock, unlocked]
  simp [SingleflightRegistry.leave]

end FlightTable

/-! ## Every step is one of the registry -/

namespace Flights

variable {ι : Type}

/-- The tasks and the registry, without the waiters. -/
def singleflight (state : Flights ι) : Singleflight ι :=
  { registry := state.table.registry
    frames := state.frames }

theorem singleflight_eq {table : FlightTable ι}
    {registry : SingleflightRegistry} (same : table.registry = registry)
    (frames : ι → Hold) :
    singleflight ⟨table, frames⟩ = ⟨registry, frames⟩ := by
  rw [singleflight, same]

section Steps

variable [DecidableEq ι] {before after : Flights ι} {task : ι}

theorem singleflight_arrive {key : String} {object : ℕ}
    {table : FlightTable ι}
    (arrived : before.table.arrive key = (object, table)) :
    before.singleflight.arrive task key =
      { registry := table.registry
        frames :=
          Function.update before.frames task (.waiting key object) } := by
  have first : (before.table.setdefault key).1 = object :=
    congrArg Prod.fst arrived
  have second : (before.table.setdefault key).2.join
      (before.table.setdefault key).1 = table := congrArg Prod.snd arrived
  rw [first] at second
  rw [Singleflight.arrive, singleflight, FlightTable.registry_setdefault,
    ← second, FlightTable.registry_join, first]

theorem Step.orderly (performed : before.Step after)
    (orderly : before.table.Orderly) : after.table.Orderly := by
  cases performed with
  | enter key outside arrived available =>
      have joined := orderly.arrive key
      rw [arrived] at joined
      exact joined.setLock _ ((joined _).take
        (AsyncioLock.ungranted_of_available available).2)
  | wait key outside arrived unavailable =>
      have joined := orderly.arrive key
      rw [arrived] at joined
      exact joined.setLock _ ((joined _).enqueue _)
  | cancel waiting => exact orderly.setLock _ ((orderly _).cancel _)
  | resume waiting granted =>
      exact orderly.setLock _ ((orderly _).resume granted)
  | abandon waiting =>
      exact (orderly.setLock _ ((orderly _).abandon _)).leave _ _
  | exit holding success =>
      exact (orderly.setLock _ ((orderly _).release success).1).leave _ _
  | fail holding unlocked => exact orderly

open Relation (ReflTransGen)

/-- A grant is given by a free lock only, so the registry may acquire it. -/
theorem Step.simulates (performed : before.Step after)
    (orderly : before.table.Orderly) (sound : before.singleflight.Sound) :
    ReflTransGen Singleflight.Step before.singleflight after.singleflight := by
  cases performed with
  | @enter task key object table outside arrived available =>
      have free : ((before.singleflight.arrive task key).registry.objects
          object).locked = false := by
        rw [singleflight_arrive arrived]
        exact (AsyncioLock.ungranted_of_available available).1
      have waiting : (before.singleflight.arrive task key).frames task =
          .waiting key object := by
        rw [singleflight_arrive arrived]
        exact Function.update_self _ _ _
      refine (ReflTransGen.single (.arrive key outside)).tail ?_
      have acquired := Singleflight.Step.acquire waiting free
      rw [Singleflight.acquire, singleflight_arrive arrived] at acquired
      rw [singleflight_arrive arrived]
      simp only [Function.update_idem] at acquired
      have taken : (table.lockOf object).take.locked = true := rfl
      rw [singleflight_eq (FlightTable.registry_setLock_locked taken)]
      exact acquired
  | @wait task key object table outside arrived unavailable =>
      refine ReflTransGen.single ?_
      have arrives : before.singleflight.Step
        (before.singleflight.arrive task key) := .arrive key outside
      rw [singleflight_arrive arrived] at arrives
      have same : ((table.lockOf object).enqueue task).locked =
          (table.lockOf object).locked := rfl
      rw [singleflight_eq (FlightTable.registry_setLock_same same)]
      exact arrives
  | @cancel task key object waiting =>
      have same : ((before.table.lockOf object).cancel task).locked =
          (before.table.lockOf object).locked := rfl
      rw [singleflight_eq (FlightTable.registry_setLock_same same)]
      exact .refl
  | @resume task key object waiting granted =>
      refine ReflTransGen.single ?_
      have free : (before.singleflight.registry.objects object).locked =
          false := (orderly object).free _ granted rfl
      have acquired : before.singleflight.Step
        (before.singleflight.acquire task key object) :=
          .acquire waiting free
      have taken :
          ((before.table.lockOf object).resume task).locked = true := rfl
      rw [singleflight_eq (FlightTable.registry_setLock_locked taken)]
      exact acquired
  | @abandon task key object waiting =>
      refine ReflTransGen.single ?_
      have left : before.singleflight.Step
        (before.singleflight.leave task key object false) :=
          .abandon waiting
      rw [singleflight_eq (FlightTable.registry_abandon
        (AsyncioLock.locked_abandon _ _) key)]
      exact left
  | @exit task key object released holding success =>
      refine ReflTransGen.single ?_
      have left : before.singleflight.Step
        (before.singleflight.leave task key object true) :=
          .release holding
      rw [singleflight_eq (FlightTable.registry_release
        ((orderly object).release success).2 key)]
      exact left
  | @fail task key object holding unlocked =>
      have locked := sound.locked task key object holding
      have free : ¬ (before.table.lockOf object).locked = true := by
        intro taken
        rw [AsyncioLock.release, if_pos taken] at unlocked
        cases unlocked
      exact absurd locked free

/-- The locks are orderly, and the registry of the table is tidy. -/
structure Ready (state : Flights ι) : Prop where
  orderly : state.table.Orderly
  tidy : state.singleflight.Tidy

theorem Ready.step (ready : before.Ready) (performed : before.Step after) :
    after.Ready :=
  ⟨performed.orderly ready.orderly,
    ready.tidy.reaches (performed.simulates ready.orderly ready.tidy.sound)⟩

theorem ready_of_reaches (reached : ReflTransGen Step init after) :
    after.Ready := by
  induction reached with
  | refl => exact ⟨.init, .init⟩
  | tail _ performed induction => exact induction.step performed

end Steps

/-! ## The guarantees -/

/-- Exclusion, one lock for the tasks on a key, the counts of the entries, and
an empty table behind the last task. -/
structure Coordinated (state : Flights ι) : Prop where
  exclusive : ∀ task task' key object object',
    state.frames task = .holding key object →
      state.frames task' = .holding key object' → task = task'
  oneLock : ∀ task task' key object object',
    (state.frames task).uses = some (key, object) →
      (state.frames task').uses = some (key, object') → object = object'
  counted : ∀ key, ∃ users : Finset ι,
    (∀ task, task ∈ users ↔
      ∃ object, (state.frames task).uses = some (key, object)) ∧
    match state.table.entries.get? key with
    | none => users = ∅
    | some object => (state.table.objects object).users = users.card ∧
        0 < (state.table.objects object).users
  releases : ∀ task key object, state.frames task = .holding key object →
    (state.table.lockOf object).release ≠ none
  cleaned : (∀ task, state.frames task = .outside) →
    state.table.entries = .empty

theorem Ready.coordinated {state : Flights ι} (ready : state.Ready) :
    state.Coordinated where
  exclusive := fun _ _ _ _ _ holding holding' =>
    ready.tidy.sound.mutual_exclusion holding holding'
  oneLock := by
    intro task task' key object object' uses uses'
    have here := ready.tidy.sound.current task key object uses
    have here' := ready.tidy.sound.current task' key object' uses'
    exact Option.some.inj (here.symm.trans here')
  counted := by
    intro key
    obtain ⟨users, members, count⟩ := ready.tidy.users key
    refine ⟨users, members, ?_⟩
    change match state.table.entries.get? key with
      | none => users = ∅
      | some object => users.card = (state.table.objects object).users ∧
          0 < users.card at count
    cases found : state.table.entries.get? key with
    | none =>
        rw [found] at count
        exact count
    | some object =>
        rw [found] at count
        exact ⟨count.1.symm, count.1 ▸ count.2⟩
  releases := by
    intro task key object holding failed
    have locked : (state.table.lockOf object).locked = true :=
      ready.tidy.sound.locked task key object holding
    rw [AsyncioLock.release, if_pos locked] at failed
    cases failed
  cleaned := fun gone => ready.tidy.empty gone

/-- Whatever the tasks do and wherever they are interrupted. -/
theorem flights_coordinated [DecidableEq ι] {state : Flights ι}
    (reached : Relation.ReflTransGen Step init state) : state.Coordinated :=
  (ready_of_reaches reached).coordinated

/-- One task is in the region, and the wait of another one was cancelled. -/
theorem flights_coordinated_cancelled :
    ∃ state : Flights Bool, Relation.ReflTransGen Step init state ∧
      state.frames true = .holding "shared" 0 ∧
      state.frames false = .outside ∧ state.Coordinated := by
  have entered := Relation.ReflTransGen.single
    (@Step.enter Bool _ init true "shared" _ _ rfl rfl rfl)
  have waited := entered.tail
    (@Step.wait Bool _ _ false "shared" _ _ rfl rfl rfl)
  have cancelled := waited.tail (@Step.cancel Bool _ _ false "shared" 0 rfl)
  have abandoned := cancelled.tail
    (@Step.abandon Bool _ _ false "shared" 0 rfl)
  exact ⟨_, abandoned, rfl, rfl, flights_coordinated abandoned⟩

end Flights

end RagBench
