import Mathlib.Algebra.Order.BigOperators.Group.List
import RagBench.Core.Money

/-!
# Invariants of the budget ledger

`LedgerStep` is everything that can happen to the ledger: one successful
method, called by whomever, or nothing.  Two facts survive every such step,
whatever the order of calls: the account balances (`Balanced`), and a
reservation which is no longer open never changes again (`ClosedStays`).
-/

namespace RagBench

/-- A sum over the open items is a sum of weights over all items. -/
theorem sum_filter_open {α : Type} (status : α → ReservationStatus)
    (cost : α → ℚ) (items : List α) :
    ((items.filter fun item => status item = .open).map cost).sum =
      (items.map fun item =>
        if status item = .open then cost item else 0).sum := by
  induction items with
  | nil => rfl
  | cons item items induction =>
      by_cases isOpen : status item = .open
      · simp [isOpen, induction]
      · simp [isOpen, induction]

namespace MemoryReservation

/-- What the reservation currently blocks. -/
def openWeight (reservation : MemoryReservation) : ℚ :=
  if reservation.status = .open then reservation.reservedCostUsd else 0

/-- How far the settled cost of a reservation exceeds what was reserved. -/
def overrun (reservation : MemoryReservation) : ℚ :=
  if reservation.status = .settled ∨
      reservation.status = .reconciliationRequired then
    max 0 (reservation.settledCostUsd.getD 0 - reservation.reservedCostUsd)
  else 0

theorem overrun_nonneg (reservation : MemoryReservation) :
    0 ≤ reservation.overrun := by
  unfold overrun
  split_ifs
  · exact le_max_left _ _
  · exact le_refl 0

end MemoryReservation

namespace MemoryBudgetRepository

def totalOverrun (repository : MemoryBudgetRepository) : ℚ :=
  (repository.reservations.values.map (·.overrun)).sum

/-- The cost of all recorded usages. -/
def usageCost (repository : MemoryBudgetRepository) : ℚ :=
  (repository.usages.map (·.usage.estimatedCostUsd)).sum

theorem openCost_eq (repository : MemoryBudgetRepository) :
    repository.openCost =
      (repository.reservations.values.map (·.openWeight)).sum :=
  sum_filter_open _ _ _

/-- Replacing a record moves the open cost by the difference of weights. -/
theorem openCost_set (repository : MemoryBudgetRepository) (id : Uuid)
    (record : MemoryReservation) (settledCost : ℚ)
    (usages : List UsageRecord) :
    openCost ⟨settledCost, repository.reservations.set id record, usages⟩ =
      repository.openCost + record.openWeight -
        ((repository.reservations.get? id).map (·.openWeight)).getD 0 := by
  rw [openCost_eq, openCost_eq]
  exact Dict.sum_values_set _ _ _ _

theorem totalOverrun_set (repository : MemoryBudgetRepository) (id : Uuid)
    (record : MemoryReservation) (settledCost : ℚ)
    (usages : List UsageRecord) :
    totalOverrun ⟨settledCost, repository.reservations.set id record, usages⟩ =
      repository.totalOverrun + record.overrun -
        ((repository.reservations.get? id).map (·.overrun)).getD 0 :=
  Dict.sum_values_set _ _ _ _

end MemoryBudgetRepository

open MemoryBudgetRepository

/-- One successful ledger method, or nothing.  New reservations get fresh
identifiers and non-negative costs. -/
inductive LedgerStep (hardLimit : ℚ) (before : MemoryBudgetRepository) :
    MemoryBudgetRepository → Prop where
  | reserve {id correlationId : Uuid} {projectedCost : ℚ}
      {reservation : Reservation} {after : MemoryBudgetRepository}
      (nonneg : 0 ≤ projectedCost)
      (fresh : before.reservations.get? id = none)
      (success : before.reserveAtomic id correlationId projectedCost
        hardLimit = .ok (reservation, after)) :
      LedgerStep hardLimit before after
  | settle {reservationId : Uuid} {operation : Operation} {modelId : String}
      {usage : Usage} {cacheHit reconciliationRequired : Bool}
      {after : MemoryBudgetRepository}
      (success : before.settle reservationId operation modelId usage
        cacheHit reconciliationRequired = .ok after) :
      LedgerStep hardLimit before after
  | release {reservationId : Uuid} {after : MemoryBudgetRepository}
      (success : before.release reservationId = .ok after) :
      LedgerStep hardLimit before after
  | recordCacheHit {correlationId : Uuid} {operation : Operation}
      {modelId : String} {usage : Usage} {after : MemoryBudgetRepository}
      (success : before.recordCacheHit correlationId operation modelId
        usage = .ok after) :
      LedgerStep hardLimit before after
  | idle : LedgerStep hardLimit before before

/-- The account of the ledger against its starting amount and the limit. -/
structure Balanced (initial hardLimit : ℚ)
    (repository : MemoryBudgetRepository) : Prop where
  accounted : repository.settledCost = initial + repository.usageCost
  capped : repository.settledCost + repository.openCost <
    hardLimit + repository.totalOverrun
  reservedNonneg : ∀ id reservation,
    repository.reservations.get? id = some reservation →
      0 ≤ reservation.reservedCostUsd

namespace Balanced

variable {initial hardLimit : ℚ}

theorem init (below : initial < hardLimit) :
    Balanced initial hardLimit (MemoryBudgetRepository.init initial) := by
  constructor
  · simp [MemoryBudgetRepository.init, usageCost]
  · simpa [MemoryBudgetRepository.init, openCost, totalOverrun, Dict.values,
      Dict.empty] using below
  · intro id reservation found
    simp [MemoryBudgetRepository.init] at found

variable {before after : MemoryBudgetRepository}

private theorem reserve (balanced : Balanced initial hardLimit before)
    {id correlationId : Uuid} {projectedCost : ℚ} {reservation : Reservation}
    (nonneg : 0 ≤ projectedCost)
    (fresh : before.reservations.get? id = none)
    (success : before.reserveAtomic id correlationId projectedCost
      hardLimit = .ok (reservation, after)) :
    Balanced initial hardLimit after := by
  obtain ⟨room, -, rfl⟩ := reserveAtomic_ok success
  constructor
  · exact balanced.accounted
  · rw [openCost_set, totalOverrun_set, fresh]
    have overruns : 0 ≤ before.totalOverrun :=
      List.sum_nonneg (by
        intro weight member
        obtain ⟨record, -, rfl⟩ := List.mem_map.mp member
        exact record.overrun_nonneg)
    simp only [MemoryReservation.openWeight, MemoryReservation.overrun,
      Option.map_none, Option.getD_none]
    simp only [if_true, reduceCtorEq, or_self, if_false]
    linarith
  · intro other record found
    by_cases same : id = other
    · subst same
      obtain rfl : _ = record := by simpa using found
      exact nonneg
    · rw [Dict.get?_set_of_ne _ _ same] at found
      exact balanced.reservedNonneg other record found

private theorem settledRecord_weights (record : MemoryReservation)
    (usage : Usage) (reconciliationRequired : Bool) :
    (settledRecord record usage reconciliationRequired).openWeight = 0 ∧
      usage.estimatedCostUsd - record.reservedCostUsd ≤
        (settledRecord record usage reconciliationRequired).overrun := by
  unfold settledRecord MemoryReservation.openWeight MemoryReservation.overrun
  by_cases exceeded : reconciliationRequired = true ∨
      usage.estimatedCostUsd > record.reservedCostUsd
  · simp [exceeded]
  · simp [exceeded]

private theorem settle (balanced : Balanced initial hardLimit before)
    {reservationId : Uuid} {operation : Operation} {modelId : String}
    {usage : Usage} {cacheHit reconciliationRequired : Bool}
    (success : before.settle reservationId operation modelId usage
      cacheHit reconciliationRequired = .ok after) :
    Balanced initial hardLimit after := by
  obtain ⟨record, found, status, rfl⟩ := settle_ok success
  obtain ⟨closed, excess⟩ :=
    settledRecord_weights record usage reconciliationRequired
  have blocked : record.openWeight = record.reservedCostUsd := by
    simp [MemoryReservation.openWeight, status]
  have none : record.overrun = 0 := by
    simp [MemoryReservation.overrun, status]
  constructor
  · simp only [usageCost, List.map_append, List.sum_append, List.map_cons,
      List.map_nil, List.sum_cons, List.sum_nil, add_zero]
    have accounted := balanced.accounted
    unfold usageCost at accounted
    linarith
  · rw [openCost_set, totalOverrun_set, found]
    simp only [Option.map_some, Option.getD_some, closed, blocked, none]
    have capped := balanced.capped
    linarith
  · intro other current found'
    by_cases same : reservationId = other
    · subst same
      obtain rfl : _ = current := by simpa using found'
      exact balanced.reservedNonneg _ record found
    · rw [Dict.get?_set_of_ne _ _ same] at found'
      exact balanced.reservedNonneg other current found'

private theorem release (balanced : Balanced initial hardLimit before)
    {reservationId : Uuid}
    (success : before.release reservationId = .ok after) :
    Balanced initial hardLimit after := by
  obtain ⟨record, found, ⟨status, rfl⟩ | ⟨-, rfl⟩⟩ := release_ok success
  · have nonneg := balanced.reservedNonneg _ record found
    constructor
    · exact balanced.accounted
    · rw [openCost_set, totalOverrun_set, found]
      simp only [releasedRecord, MemoryReservation.openWeight,
        MemoryReservation.overrun, Option.map_some, Option.getD_some, status]
      simp only [reduceCtorEq, or_self, if_true, if_false]
      have capped := balanced.capped
      linarith
    · intro other current found'
      by_cases same : reservationId = other
      · subst same
        obtain rfl : _ = current := by simpa using found'
        exact nonneg
      · rw [Dict.get?_set_of_ne _ _ same] at found'
        exact balanced.reservedNonneg other current found'
  · exact balanced

private theorem recordCacheHit (balanced : Balanced initial hardLimit before)
    {correlationId : Uuid} {operation : Operation} {modelId : String}
    {usage : Usage}
    (success : before.recordCacheHit correlationId operation modelId
      usage = .ok after) :
    Balanced initial hardLimit after := by
  obtain ⟨free, rfl⟩ := recordCacheHit_ok success
  constructor
  · simp only [usageCost, List.map_append, List.sum_append, List.map_cons,
      List.map_nil, List.sum_cons, List.sum_nil, add_zero, free]
    exact balanced.accounted
  · exact balanced.capped
  · exact balanced.reservedNonneg

/-- No step unbalances the ledger. -/
theorem step (balanced : Balanced initial hardLimit before)
    (performed : LedgerStep hardLimit before after) :
    Balanced initial hardLimit after := by
  cases performed with
  | reserve nonneg fresh success => exact balanced.reserve nonneg fresh success
  | settle success => exact balanced.settle success
  | release success => exact balanced.release success
  | recordCacheHit success => exact balanced.recordCacheHit success
  | idle => exact balanced

end Balanced

/-- A reservation that is no longer open is never touched again. -/
theorem LedgerStep.closed_stays {hardLimit : ℚ}
    {before after : MemoryBudgetRepository}
    (performed : LedgerStep hardLimit before after)
    {id : Uuid} {record : MemoryReservation}
    (found : before.reservations.get? id = some record)
    (closed : record.status ≠ .open) :
    after.reservations.get? id = some record := by
  cases performed with
  | @reserve other _ _ _ _ _ fresh success =>
      obtain ⟨-, -, rfl⟩ := reserveAtomic_ok success
      have different : other ≠ id := by
        rintro rfl
        simp [fresh] at found
      rw [Dict.get?_set_of_ne _ _ different]
      exact found
  | @settle other _ _ _ _ _ _ success =>
      obtain ⟨current, here, status, rfl⟩ := settle_ok success
      have different : other ≠ id := by
        rintro rfl
        obtain rfl : current = record := by simpa [here] using found
        exact closed status
      rw [Dict.get?_set_of_ne _ _ different]
      exact found
  | @release other _ success =>
      obtain ⟨current, here, ⟨status, rfl⟩ | ⟨-, rfl⟩⟩ := release_ok success
      · have different : other ≠ id := by
          rintro rfl
          obtain rfl : current = record := by simpa [here] using found
          exact closed status
        rw [Dict.get?_set_of_ne _ _ different]
        exact found
      · exact found
  | recordCacheHit success =>
      obtain ⟨-, rfl⟩ := recordCacheHit_ok success
      exact found
  | idle => exact found

/-- No step forgets a reservation. -/
theorem LedgerStep.reservation_stays {hardLimit : ℚ}
    {before after : MemoryBudgetRepository}
    (performed : LedgerStep hardLimit before after)
    {id : Uuid} {record : MemoryReservation}
    (found : before.reservations.get? id = some record) :
    ∃ current, after.reservations.get? id = some current := by
  cases performed with
  | @reserve other _ _ _ _ _ _ success =>
      obtain ⟨-, -, rfl⟩ := reserveAtomic_ok success
      by_cases same : other = id <;> simp [Dict.get?_set, same, found]
  | @settle other _ _ _ _ _ _ success =>
      obtain ⟨-, -, -, rfl⟩ := settle_ok success
      by_cases same : other = id <;> simp [Dict.get?_set, same, found]
  | @release other _ success =>
      obtain ⟨current, -, ⟨-, rfl⟩ | ⟨-, rfl⟩⟩ := release_ok success
      · by_cases same : other = id <;> simp [Dict.get?_set, same, found]
      · exact ⟨record, found⟩
  | recordCacheHit success =>
      obtain ⟨-, rfl⟩ := recordCacheHit_ok success
      exact ⟨record, found⟩
  | idle => exact ⟨record, found⟩

end RagBench
