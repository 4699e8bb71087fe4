import Mathlib.Data.Finset.Card
import RagBench.Dict

/-!
# Singleflight locks

`_LocalSingleflightRegistry` creates a lock object for a key when the first
task asks for it and drops the object with its last user.  A later task gets a
new object, so the lock of a key is not one object.  Still, all users of a key
at one time use the object the registry has for it, and at most one of them
holds its lock.
-/

namespace RagBench

/-- `_SingleflightEntry`: its lock and the number of its users. -/
structure SingleflightEntry where
  locked : Bool
  users : ℕ

/-- `_LocalSingleflightRegistry`; entry objects are numbered by creation. -/
structure SingleflightRegistry where
  entries : Dict String ℕ
  objects : ℕ → SingleflightEntry
  created : ℕ

/-- The local variables of `hold` in a task. -/
inductive Hold where
  | outside
  | waiting (key : String) (object : ℕ)
  /-- `acquired` is set. -/
  | holding (key : String) (object : ℕ)

/-- The entry object the task uses, and its key. -/
def Hold.uses : Hold → Option (String × ℕ)
  | .outside => none
  | .waiting key object => some (key, object)
  | .holding key object => some (key, object)

@[simp] theorem Hold.uses_outside : Hold.outside.uses = none := rfl

@[simp] theorem Hold.uses_waiting (key : String) (object : ℕ) :
    (Hold.waiting key object).uses = some (key, object) := rfl

@[simp] theorem Hold.uses_holding (key : String) (object : ℕ) :
    (Hold.holding key object).uses = some (key, object) := rfl

namespace SingleflightRegistry

def init : SingleflightRegistry :=
  { entries := .empty
    objects := fun _ => ⟨false, 0⟩
    created := 0 }

/-- `self._entries.setdefault(key, _SingleflightEntry(asyncio.Lock()))`. -/
def setdefault (registry : SingleflightRegistry) (key : String) :
    ℕ × SingleflightRegistry :=
  match registry.entries.get? key with
  | some object => (object, registry)
  | none => (registry.created,
      { entries := registry.entries.set key registry.created
        objects := Function.update registry.objects registry.created
          ⟨false, 0⟩
        created := registry.created + 1 })

/-- `entry.users += 1`. -/
def join (registry : SingleflightRegistry) (object : ℕ) :
    SingleflightRegistry :=
  { registry with
    objects := Function.update registry.objects object
      { registry.objects object with
        users := (registry.objects object).users + 1 } }

/-- `entry.lock.acquire()` has returned. -/
def acquire (registry : SingleflightRegistry) (object : ℕ) :
    SingleflightRegistry :=
  { registry with
    objects := Function.update registry.objects object
      { registry.objects object with locked := true } }

/-- The `finally` block of `hold`. -/
def leave (registry : SingleflightRegistry) (key : String) (object : ℕ)
    (acquired : Bool) : SingleflightRegistry :=
  let entry := registry.objects object
  let left : SingleflightEntry :=
    { locked := if acquired then false else entry.locked
      users := entry.users - 1 }
  { registry with
    objects := Function.update registry.objects object left
    entries :=
      if left.users = 0 ∧ registry.entries.get? key = some object then
        registry.entries.erase key
      else registry.entries }

end SingleflightRegistry

/-- The registry and the tasks inside `hold`. -/
structure Singleflight (ι : Type) where
  registry : SingleflightRegistry
  frames : ι → Hold

namespace Singleflight

variable {ι : Type}

def init : Singleflight ι :=
  { registry := .init
    frames := fun _ => .outside }

section Operations

variable [DecidableEq ι]

/-- The first lines of `hold`, up to the wait for the lock. -/
def arrive (state : Singleflight ι) (task : ι) (key : String) :
    Singleflight ι :=
  let (object, registry) := state.registry.setdefault key
  { registry := registry.join object
    frames := Function.update state.frames task (.waiting key object) }

def acquire (state : Singleflight ι) (task : ι) (key : String)
    (object : ℕ) : Singleflight ι :=
  { registry := state.registry.acquire object
    frames := Function.update state.frames task (.holding key object) }

def leave (state : Singleflight ι) (task : ι) (key : String) (object : ℕ)
    (acquired : Bool) : Singleflight ι :=
  { registry := state.registry.leave key object acquired
    frames := Function.update state.frames task .outside }

/-- What can happen to the locks. -/
inductive Step (before : Singleflight ι) : Singleflight ι → Prop where
  | arrive {task : ι} (key : String)
      (outside : before.frames task = .outside) :
      Step before (before.arrive task key)
  | acquire {task : ι} {key : String} {object : ℕ}
      (waiting : before.frames task = .waiting key object)
      (free : (before.registry.objects object).locked = false) :
      Step before (before.acquire task key object)
  /-- The wait is cancelled. -/
  | abandon {task : ι} {key : String} {object : ℕ}
      (waiting : before.frames task = .waiting key object) :
      Step before (before.leave task key object false)
  | release {task : ι} {key : String} {object : ℕ}
      (holding : before.frames task = .holding key object) :
      Step before (before.leave task key object true)

end Operations

/-- The registry knows the object every task uses, counts the tasks that use
it, and its lock belongs to one of them. -/
structure Sound (state : Singleflight ι) : Prop where
  current : ∀ task key object,
    (state.frames task).uses = some (key, object) →
      state.registry.entries.get? key = some object
  existing : ∀ key object,
    state.registry.entries.get? key = some object →
      object < state.registry.created
  counted : ∀ object < state.registry.created, ∃ users : Finset ι,
    users.card = (state.registry.objects object).users ∧
      ∀ task, task ∈ users ↔
        ∃ key, (state.frames task).uses = some (key, object)
  exclusive : ∀ task task' key key' object,
    state.frames task = .holding key object →
      state.frames task' = .holding key' object → task = task'
  locked : ∀ task key object, state.frames task = .holding key object →
    (state.registry.objects object).locked = true

theorem Sound.init : (init : Singleflight ι).Sound := by
  constructor
  · intro task key object uses
    cases uses
  · intro key object found
    simp [Singleflight.init, SingleflightRegistry.init] at found
  · intro object created
    exact absurd created (Nat.not_lt_zero _)
  · intro task task' key key' object holding
    cases holding
  · intro task key object holding
    cases holding

/-- At most one task holds the lock of a key. -/
theorem Sound.mutual_exclusion {state : Singleflight ι} (sound : state.Sound)
    {task task' : ι} {key : String} {object object' : ℕ}
    (holding : state.frames task = .holding key object)
    (holding' : state.frames task' = .holding key object') :
    task = task' := by
  have found := sound.current task key object (by rw [holding]; rfl)
  have found' := sound.current task' key object' (by rw [holding']; rfl)
  rw [found, Option.some_inj] at found'
  subst found'
  exact sound.exclusive task task' key key object holding holding'

/-! ## Every step keeps the locks sound -/

theorem Sound.uses_created {state : Singleflight ι} (sound : state.Sound)
    {task : ι} {key : String} {object : ℕ}
    (uses : (state.frames task).uses = some (key, object)) :
    object < state.registry.created :=
  sound.existing key object (sound.current task key object uses)

theorem Sound.setdefault {state : Singleflight ι} (sound : state.Sound)
    (key : String) :
    Sound ⟨(state.registry.setdefault key).2, state.frames⟩ ∧
      (state.registry.setdefault key).2.entries.get? key =
        some (state.registry.setdefault key).1 := by
  unfold SingleflightRegistry.setdefault
  cases found : state.registry.entries.get? key with
  | some object => exact ⟨sound, found⟩
  | none =>
      dsimp only
      refine ⟨?_, Dict.get?_set_self _ _ _⟩
      constructor
      · intro task other object uses
        have here := sound.current task other object uses
        have different : key ≠ other := by
          rintro rfl
          rw [found] at here
          cases here
        rw [Dict.get?_set_of_ne _ _ different]
        exact here
      · intro other object here
        rw [Dict.get?_set] at here
        split_ifs at here
        · cases here
          exact Nat.lt_succ_self _
        · exact (sound.existing other object here).trans (Nat.lt_succ_self _)
      · intro object created
        dsimp only at created ⊢
        by_cases new : object = state.registry.created
        · refine ⟨∅, ?_, fun task => ?_⟩
          · rw [new, Function.update_self]
            rfl
          · simp only [Finset.notMem_empty, false_iff]
            rintro ⟨other, uses⟩
            exact absurd (sound.uses_created uses) (by omega)
        · rw [Function.update_of_ne new]
          exact sound.counted object (by omega)
      · exact sound.exclusive
      · intro task other object holding
        have uses : (state.frames task).uses = some (other, object) := by
          rw [holding]
          rfl
        have old : object ≠ state.registry.created :=
          (sound.uses_created uses).ne
        dsimp only
        rw [Function.update_of_ne old]
        exact sound.locked task other object holding

section Steps

variable [DecidableEq ι] {state : Singleflight ι} {task : ι} {key : String}
  {object : ℕ}

private theorem Sound.join (sound : state.Sound)
    (outside : state.frames task = .outside)
    (found : state.registry.entries.get? key = some object) :
    Sound ⟨state.registry.join object,
      Function.update state.frames task (.waiting key object)⟩ := by
  constructor
  · intro other name used uses
    dsimp only at uses
    by_cases same : other = task
    · subst same
      rw [Function.update_self] at uses
      cases uses
      exact found
    · rw [Function.update_of_ne same] at uses
      exact sound.current other name used uses
  · exact sound.existing
  · intro used created
    obtain ⟨users, count, members⟩ := sound.counted used created
    by_cases same : used = object
    · subst same
      have absent : task ∉ users := by
        rw [members, outside]
        rintro ⟨name, uses⟩
        cases uses
      refine ⟨insert task users, ?_, fun other => ?_⟩
      · simp only [SingleflightRegistry.join, Function.update_self]
        rw [Finset.card_insert_of_notMem absent, count]
      · rw [Finset.mem_insert, members]
        by_cases here : other = task
        · subst here
          simp
        · simp [here]
    · refine ⟨users, ?_, fun other => ?_⟩
      · simp only [SingleflightRegistry.join, Function.update_of_ne same]
        exact count
      · rw [members]
        by_cases here : other = task
        · subst here
          simp [outside, Ne.symm same]
        · simp [here]
  · intro first second name name' used holding holding'
    have here : first ≠ task := by
      rintro rfl
      simp at holding
    have here' : second ≠ task := by
      rintro rfl
      simp at holding'
    dsimp only at holding holding'
    rw [Function.update_of_ne here] at holding
    rw [Function.update_of_ne here'] at holding'
    exact sound.exclusive first second name name' used holding holding'
  · intro other name used holding
    have here : other ≠ task := by
      rintro rfl
      simp at holding
    dsimp only at holding
    rw [Function.update_of_ne here] at holding
    have locked := sound.locked other name used holding
    by_cases same : used = object
    · subst same
      simpa [SingleflightRegistry.join] using locked
    · simpa [SingleflightRegistry.join, same] using locked

theorem Sound.arrive (sound : state.Sound)
    (outside : state.frames task = .outside) (key : String) :
    (state.arrive task key).Sound := by
  obtain ⟨ready, found⟩ := sound.setdefault key
  exact ready.join outside found

/-- Only the task that takes the lock changes, and not what it uses. -/
theorem Sound.acquire (sound : state.Sound)
    (waiting : state.frames task = .waiting key object)
    (free : (state.registry.objects object).locked = false) :
    (state.acquire task key object).Sound := by
  have uses (other : ι) :
      ((Function.update state.frames task (.holding key object)) other).uses =
        (state.frames other).uses := by
    by_cases same : other = task
    · subst same
      rw [Function.update_self, waiting]
      rfl
    · rw [Function.update_of_ne same]
  have unheld (other : ι) (name : String) :
      state.frames other ≠ .holding name object := by
    intro holding
    rw [sound.locked other name object holding] at free
    cases free
  constructor
  · intro other name used used'
    exact sound.current other name used ((uses other).symm.trans used')
  · exact sound.existing
  · intro used created
    obtain ⟨users, count, members⟩ := sound.counted used created
    refine ⟨users, ?_, fun other => ?_⟩
    · by_cases same : used = object
      · subst same
        simpa [Singleflight.acquire, SingleflightRegistry.acquire] using count
      · simpa [Singleflight.acquire, SingleflightRegistry.acquire, same]
          using count
    · rw [members, ← uses other]
      rfl
  · intro first second name name' used holding holding'
    simp only [Singleflight.acquire] at holding holding'
    by_cases here : first = task
    · by_cases here' : second = task
      · rw [here, here']
      · subst here
        rw [Function.update_self] at holding
        rw [Function.update_of_ne here'] at holding'
        cases holding
        exact absurd holding' (unheld second name')
    · rw [Function.update_of_ne here] at holding
      by_cases here' : second = task
      · subst here'
        rw [Function.update_self] at holding'
        cases holding'
        exact absurd holding (unheld first name)
      · rw [Function.update_of_ne here'] at holding'
        exact sound.exclusive first second name name' used holding holding'
  · intro other name used holding
    by_cases same : used = object
    · subst same
      simp [Singleflight.acquire, SingleflightRegistry.acquire]
    · have here : other ≠ task := by
        rintro rfl
        simp only [Singleflight.acquire, Function.update_self] at holding
        cases holding
        exact same rfl
      simp only [Singleflight.acquire, Function.update_of_ne here] at holding
      simpa [Singleflight.acquire, SingleflightRegistry.acquire, same]
        using sound.locked other name used holding

/-- The last user takes the object with it; nobody else uses it then. -/
theorem Sound.leave (sound : state.Sound) {acquired : Bool}
    (uses : (state.frames task).uses = some (key, object))
    (holding : acquired = true → state.frames task = .holding key object) :
    (state.leave task key object acquired).Sound := by
  obtain ⟨users, count, members⟩ :=
    sound.counted object (sound.uses_created uses)
  have member : task ∈ users := (members task).mpr ⟨key, uses⟩
  have here : state.registry.entries.get? key = some object :=
    sound.current task key object uses
  constructor
  · intro other name used used'
    have different : other ≠ task := by
      rintro rfl
      simp [Singleflight.leave] at used'
    simp only [Singleflight.leave, Function.update_of_ne different] at used'
    have found := sound.current other name used used'
    simp only [Singleflight.leave, SingleflightRegistry.leave]
    split_ifs with last
    · rw [Dict.get?_erase]
      split_ifs with same
      · subst same
        rw [here, Option.some_inj] at found
        subst found
        have others : other ∈ users := (members other).mpr ⟨key, used'⟩
        have several := Finset.one_lt_card.mpr
          ⟨task, member, other, others, Ne.symm different⟩
        omega
      · exact found
    · exact found
  · intro name used found
    simp only [Singleflight.leave, SingleflightRegistry.leave] at found
    split_ifs at found
    · rw [Dict.get?_erase] at found
      split_ifs at found
      exact sound.existing name used found
    · exact sound.existing name used found
  · intro used created
    by_cases same : used = object
    · subst same
      refine ⟨users.erase task, ?_, fun other => ?_⟩
      · simp only [Singleflight.leave, SingleflightRegistry.leave,
          Function.update_self]
        rw [Finset.card_erase_of_mem member, count]
      · rw [Finset.mem_erase, members]
        by_cases self : other = task
        · subst self
          simp [Singleflight.leave]
        · simp [Singleflight.leave, self]
    · obtain ⟨users', count', members'⟩ := sound.counted used created
      refine ⟨users', ?_, fun other => ?_⟩
      · simpa [Singleflight.leave, SingleflightRegistry.leave, same]
          using count'
      · rw [members']
        by_cases self : other = task
        · subst self
          simp [Singleflight.leave, uses, Ne.symm same]
        · simp [Singleflight.leave, self]
  · intro first second name name' used held held'
    have notFirst : first ≠ task := by
      rintro rfl
      simp [Singleflight.leave] at held
    have notSecond : second ≠ task := by
      rintro rfl
      simp [Singleflight.leave] at held'
    simp only [Singleflight.leave, Function.update_of_ne notFirst] at held
    simp only [Singleflight.leave, Function.update_of_ne notSecond] at held'
    exact sound.exclusive first second name name' used held held'
  · intro other name used held
    have different : other ≠ task := by
      rintro rfl
      simp [Singleflight.leave] at held
    simp only [Singleflight.leave, Function.update_of_ne different] at held
    have locked := sound.locked other name used held
    by_cases same : used = object
    · subst same
      cases acquired with
      | true =>
          exact absurd (sound.exclusive other task name key used held
            (holding rfl)) different
      | false =>
          simpa [Singleflight.leave, SingleflightRegistry.leave] using locked
    · simpa [Singleflight.leave, SingleflightRegistry.leave, same]
        using locked

theorem Sound.step {after : Singleflight ι} (sound : state.Sound)
    (performed : state.Step after) : after.Sound := by
  cases performed with
  | arrive key outside => exact sound.arrive outside key
  | acquire waiting free => exact sound.acquire waiting free
  | abandon waiting =>
      exact sound.leave (by rw [waiting]; rfl) (fun never => by cases never)
  | release holding =>
      exact sound.leave (by rw [holding]; rfl) (fun _ => holding)

end Steps

end Singleflight

end RagBench
