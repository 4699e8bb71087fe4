import Mathlib.Data.List.Basic

/-!
# The lock of an event loop

`asyncio.Lock` has a flag and the futures of the tasks that wait for it, in the
order in which they came.  Releasing the lock wakes up the first of them, which
takes the lock when it runs again; until then it can still be cancelled.
-/

namespace RagBench

/-- The state of the future that a task waits on. -/
inductive Waiter where
  | pending
  | granted
  | cancelled
  deriving DecidableEq

structure AsyncioLock (ι : Type) where
  locked : Bool
  waiters : List (ι × Waiter)

namespace AsyncioLock

variable {ι : Type}

def init : AsyncioLock ι :=
  { locked := false
    waiters := [] }

/-- `acquire` returns without a wait. -/
def available (lock : AsyncioLock ι) : Bool :=
  !lock.locked && lock.waiters.all fun waiter => waiter.2 = .cancelled

def take (lock : AsyncioLock ι) : AsyncioLock ι :=
  { lock with locked := true }

/-- The wait of `acquire` begins. -/
def enqueue (lock : AsyncioLock ι) (task : ι) : AsyncioLock ι :=
  { lock with waiters := lock.waiters ++ [(task, .pending)] }

/-- `_wake_up_first`; a future that is granted or cancelled is done. -/
def wakeUpFirst (lock : AsyncioLock ι) : AsyncioLock ι :=
  match lock.waiters with
  | (task, .pending) :: rest =>
      { lock with waiters := (task, .granted) :: rest }
  | _ => lock

/-- `release`, which raises an exception on a free lock. -/
def release (lock : AsyncioLock ι) : Option (AsyncioLock ι) :=
  if lock.locked then some { lock with locked := false }.wakeUpFirst
  else none

section Tasks

variable [DecidableEq ι]

/-- The future of the task is cancelled while it is pending. -/
def cancel (lock : AsyncioLock ι) (task : ι) : AsyncioLock ι :=
  { lock with waiters := lock.waiters.map fun waiter =>
      if waiter = (task, .pending) then (task, .cancelled) else waiter }

/-- `self._waiters.remove(fut)`. -/
def dequeue (lock : AsyncioLock ι) (task : ι) : AsyncioLock ι :=
  { lock with waiters := lock.waiters.filter fun waiter => waiter.1 ≠ task }

/-- The wait of the task ends with its grant. -/
def resume (lock : AsyncioLock ι) (task : ι) : AsyncioLock ι :=
  (lock.dequeue task).take

/-- The wait of the task ends with a `CancelledError`. -/
def abandon (lock : AsyncioLock ι) (task : ι) : AsyncioLock ι :=
  if (lock.dequeue task).locked then lock.dequeue task
  else (lock.dequeue task).wakeUpFirst

end Tasks

/-! ## One grant -/

/-- A lock with a grant is free, and the grant is that of the first waiter. -/
structure Orderly (lock : AsyncioLock ι) : Prop where
  free : ∀ waiter ∈ lock.waiters, waiter.2 = .granted → lock.locked = false
  first : ∀ waiter ∈ lock.waiters.tail, waiter.2 ≠ .granted

variable {lock : AsyncioLock ι}

theorem Orderly.init : (init : AsyncioLock ι).Orderly :=
  ⟨nofun, nofun⟩

theorem Orderly.take (orderly : lock.Orderly)
    (ungranted : ∀ waiter ∈ lock.waiters, waiter.2 ≠ .granted) :
    lock.take.Orderly :=
  ⟨fun waiter member granted => absurd granted (ungranted waiter member),
    orderly.first⟩

theorem ungranted_of_available (available : lock.available = true) :
    lock.locked = false ∧ ∀ waiter ∈ lock.waiters, waiter.2 ≠ .granted := by
  obtain ⟨free, cancelled⟩ := Bool.and_eq_true_iff.mp available
  refine ⟨by simpa using free, fun waiter member granted => ?_⟩
  have done := of_decide_eq_true (List.all_eq_true.mp cancelled waiter member)
  rw [granted] at done
  cases done

theorem Orderly.enqueue (orderly : lock.Orderly) (task : ι) :
    (lock.enqueue task).Orderly := by
  constructor
  · intro waiter member granted
    rcases List.mem_append.mp member with old | new
    · exact orderly.free waiter old granted
    · rw [List.mem_singleton.mp new] at granted
      cases granted
  · intro waiter member granted
    rcases waiters : lock.waiters with _ | ⟨head, rest⟩
    · rw [AsyncioLock.enqueue, waiters] at member
      cases member
    · rw [AsyncioLock.enqueue, waiters, List.cons_append,
        List.tail_cons] at member
      rcases List.mem_append.mp member with old | new
      · exact orderly.first waiter (by rw [waiters]; exact old) granted
      · rw [List.mem_singleton.mp new] at granted
        cases granted

@[simp] theorem locked_wakeUpFirst (lock : AsyncioLock ι) :
    lock.wakeUpFirst.locked = lock.locked := by
  unfold wakeUpFirst
  split <;> rfl

/-- Only a free lock wakes its first waiter up. -/
theorem Orderly.wakeUpFirst (orderly : lock.Orderly)
    (free : lock.locked = false) : lock.wakeUpFirst.Orderly := by
  refine ⟨fun _ _ _ => (locked_wakeUpFirst lock).trans free, ?_⟩
  unfold AsyncioLock.wakeUpFirst
  split
  · rename_i task rest waiters
    intro waiter member
    exact orderly.first waiter (by rw [waiters]; exact member)
  · exact orderly.first

theorem Orderly.release (orderly : lock.Orderly) {released : AsyncioLock ι}
    (success : lock.release = some released) :
    released.Orderly ∧ released.locked = false := by
  unfold AsyncioLock.release at success
  split_ifs at success
  cases success
  refine ⟨Orderly.wakeUpFirst ⟨fun _ _ _ => rfl, orderly.first⟩ rfl, ?_⟩
  exact locked_wakeUpFirst _

section Tasks

variable [DecidableEq ι]

theorem Orderly.cancel (orderly : lock.Orderly) (task : ι) :
    (lock.cancel task).Orderly := by
  have granted (waiter : ι × Waiter)
      (after : (if waiter = (task, .pending) then (task, .cancelled)
        else waiter).2 = Waiter.granted) : waiter.2 = .granted := by
    split_ifs at after
    exact after
  constructor
  · intro waiter member after
    obtain ⟨before, old, rfl⟩ := List.mem_map.mp member
    exact orderly.free before old (granted before after)
  · intro waiter member after
    rw [AsyncioLock.cancel, ← List.map_tail] at member
    obtain ⟨before, old, rfl⟩ := List.mem_map.mp member
    exact orderly.first before old (granted before after)

private theorem mem_tail_of_filter {α : Type} {test : α → Bool}
    {items : List α} {item : α} (member : item ∈ (items.filter test).tail) :
    item ∈ items.tail := by
  cases items with
  | nil => cases member
  | cons head rest =>
      rw [List.filter_cons] at member
      split_ifs at member
      · exact List.mem_of_mem_filter member
      · exact List.mem_of_mem_filter (List.mem_of_mem_tail member)

theorem Orderly.dequeue (orderly : lock.Orderly) (task : ι) :
    (lock.dequeue task).Orderly :=
  ⟨fun waiter member => orderly.free waiter (List.mem_of_mem_filter member),
    fun waiter member => orderly.first waiter (mem_tail_of_filter member)⟩

/-- The task that resumes had the only grant. -/
theorem Orderly.resume (orderly : lock.Orderly) {task : ι}
    (granted : (task, .granted) ∈ lock.waiters) :
    (lock.resume task).Orderly := by
  refine (orderly.dequeue task).take ?_
  intro waiter member
  obtain ⟨listed, other⟩ := List.mem_filter.mp member
  cases waiters : lock.waiters with
  | nil =>
      rw [waiters] at listed
      cases listed
  | cons head rest =>
      have first := orderly.first
      rw [waiters] at listed granted first
      rcases List.mem_cons.mp granted with rfl | later
      · rcases List.mem_cons.mp listed with rfl | listed
        · exact absurd rfl (of_decide_eq_true other)
        · exact first waiter listed
      · exact absurd rfl (first _ later)

theorem Orderly.abandon (orderly : lock.Orderly) (task : ι) :
    (lock.abandon task).Orderly := by
  unfold AsyncioLock.abandon
  split_ifs with locked
  · exact orderly.dequeue task
  · exact (orderly.dequeue task).wakeUpFirst (Bool.eq_false_iff.mpr locked)

@[simp] theorem locked_abandon (lock : AsyncioLock ι) (task : ι) :
    (lock.abandon task).locked = lock.locked := by
  unfold AsyncioLock.abandon
  split_ifs
  · rfl
  · exact locked_wakeUpFirst _

end Tasks

end AsyncioLock

end RagBench
