import Mathlib.Algebra.Order.Ring.Rat
import Mathlib.Tactic.Linarith
import RagBench.Dict
import RagBench.Python

/-!
# Project budget: reservations and settled usage

`MemoryBudgetRepository` is the in-memory ledger.  Every method body runs under
the repository's lock, so a method is one atomic state change; it either
returns the new ledger or raises and leaves the ledger alone.  Amounts are
exact decimals.
-/

namespace RagBench

/-- A UUID; only equality of identifiers matters. -/
structure Uuid where
  value : ℕ
  deriving DecidableEq, Repr

inductive Operation where
  | generate
  | embed
  | parse
  | other (name : String)
  deriving DecidableEq, Repr

/-- `BudgetExceededError(RuntimeError)`. -/
def budgetExceededError : ExceptionClass :=
  .derived "BudgetExceededError" .runtimeError

structure Usage where
  inputTokens : ℤ
  outputTokens : ℤ
  billablePages : ℤ
  estimatedCostUsd : ℚ
  deriving DecidableEq

inductive ReservationStatus where
  | open
  | settled
  | reconciliationRequired
  | released
  deriving DecidableEq, Repr

/-- The receipt `reserve_atomic` returns. -/
structure Reservation where
  id : Uuid
  correlationId : Uuid
  reservedCostUsd : ℚ
  status : ReservationStatus
  deriving DecidableEq

structure UsageRecord where
  correlationId : Uuid
  operation : Operation
  modelId : String
  usage : Usage
  cacheHit : Bool
  deriving DecidableEq

/-- `_MemoryReservation`: the ledger's own record of a reservation. -/
structure MemoryReservation where
  id : Uuid
  correlationId : Uuid
  reservedCostUsd : ℚ
  status : ReservationStatus
  settledCostUsd : Option ℚ
  deriving DecidableEq

structure MemoryBudgetRepository where
  settledCost : ℚ
  reservations : Dict Uuid MemoryReservation
  usages : List UsageRecord
  deriving DecidableEq

/-- `_require_zero_cost_cache_hit`. -/
def requireZeroCostCacheHit (usage : Usage) : Except PyException Unit :=
  if usage.estimatedCostUsd ≠ 0 then
    .error (.valueError
      "cache-hit accounting is restricted to zero-cost usage")
  else .ok ()

namespace MemoryBudgetRepository

/-- `MemoryBudgetRepository(settled_cost=settledCost)`. -/
def init (settledCost : ℚ) : MemoryBudgetRepository :=
  { settledCost := settledCost
    reservations := .empty
    usages := [] }

/-- The cost of all reservations whose status is `open`. -/
def openCost (repository : MemoryBudgetRepository) : ℚ :=
  ((repository.reservations.values.filter fun item =>
    item.status = .open).map (·.reservedCostUsd)).sum

/-- `id` is the identifier `uuid4()` produces for the new reservation. -/
def reserveAtomic (repository : MemoryBudgetRepository) (id : Uuid)
    (correlationId : Uuid) (projectedCost hardLimit : ℚ) :
    Except PyException (Reservation × MemoryBudgetRepository) :=
  if repository.settledCost + repository.openCost + projectedCost ≥
      hardLimit then
    .error ⟨budgetExceededError,
      "projected provider cost reaches the hard budget limit"⟩
  else
    .ok (⟨id, correlationId, projectedCost, .open⟩,
      { repository with
        reservations := repository.reservations.set id
          ⟨id, correlationId, projectedCost, .open, none⟩ })

def settle (repository : MemoryBudgetRepository) (reservationId : Uuid)
    (operation : Operation) (modelId : String) (usage : Usage)
    (cacheHit reconciliationRequired : Bool) :
    Except PyException MemoryBudgetRepository :=
  match repository.reservations.get? reservationId with
  | none => .error (.keyError "unknown reservation")
  | some reservation =>
      if reservation.status ≠ .open then
        .error (.runtimeError "only open reservations can be settled")
      else
        .ok
          { settledCost := repository.settledCost + usage.estimatedCostUsd
            reservations := repository.reservations.set reservationId
              { reservation with
                status :=
                  if reconciliationRequired = true ∨
                      usage.estimatedCostUsd > reservation.reservedCostUsd then
                    .reconciliationRequired
                  else .settled
                settledCostUsd := some usage.estimatedCostUsd }
            usages := repository.usages ++
              [⟨reservation.correlationId, operation, modelId, usage,
                cacheHit⟩] }

def release (repository : MemoryBudgetRepository) (reservationId : Uuid) :
    Except PyException MemoryBudgetRepository :=
  match repository.reservations.get? reservationId with
  | none => .error (.keyError "unknown reservation")
  | some reservation =>
      if reservation.status = .open then
        .ok { repository with
          reservations := repository.reservations.set reservationId
            { reservation with
              status := .released
              settledCostUsd := some 0 } }
      else .ok repository

def recordCacheHit (repository : MemoryBudgetRepository)
    (correlationId : Uuid) (operation : Operation) (modelId : String)
    (usage : Usage) : Except PyException MemoryBudgetRepository := do
  requireZeroCostCacheHit usage
  return { repository with
    usages := repository.usages ++
      [⟨correlationId, operation, modelId, usage, true⟩] }

/-! ## What a successful operation did -/

theorem reserveAtomic_ok {repository after : MemoryBudgetRepository}
    {id correlationId : Uuid} {projectedCost hardLimit : ℚ}
    {reservation : Reservation}
    (success : repository.reserveAtomic id correlationId projectedCost
      hardLimit = .ok (reservation, after)) :
    repository.settledCost + repository.openCost + projectedCost < hardLimit ∧
      reservation = ⟨id, correlationId, projectedCost, .open⟩ ∧
      after = { repository with
        reservations := repository.reservations.set id
          ⟨id, correlationId, projectedCost, .open, none⟩ } := by
  unfold reserveAtomic at success
  split at success
  · cases success
  · rename_i below
    cases success
    exact ⟨not_le.mp below, rfl, rfl⟩

/-- The reservation as `settle` leaves it. -/
def settledRecord (reservation : MemoryReservation) (usage : Usage)
    (reconciliationRequired : Bool) : MemoryReservation :=
  { reservation with
    status :=
      if reconciliationRequired = true ∨
          usage.estimatedCostUsd > reservation.reservedCostUsd then
        .reconciliationRequired
      else .settled
    settledCostUsd := some usage.estimatedCostUsd }

theorem settle_ok {repository after : MemoryBudgetRepository}
    {reservationId : Uuid} {operation : Operation} {modelId : String}
    {usage : Usage} {cacheHit reconciliationRequired : Bool}
    (success : repository.settle reservationId operation modelId usage
      cacheHit reconciliationRequired = .ok after) :
    ∃ reservation,
      repository.reservations.get? reservationId = some reservation ∧
      reservation.status = .open ∧
      after =
        { settledCost := repository.settledCost + usage.estimatedCostUsd
          reservations := repository.reservations.set reservationId
            (settledRecord reservation usage reconciliationRequired)
          usages := repository.usages ++
            [⟨reservation.correlationId, operation, modelId, usage,
              cacheHit⟩] } := by
  unfold settle at success
  split at success
  · cases success
  · rename_i reservation found
    split at success
    · cases success
    · rename_i status
      cases success
      exact ⟨reservation, found, not_not.mp status, rfl⟩

/-- The reservation as `release` leaves it. -/
def releasedRecord (reservation : MemoryReservation) : MemoryReservation :=
  { reservation with
    status := .released
    settledCostUsd := some 0 }

theorem release_ok {repository after : MemoryBudgetRepository}
    {reservationId : Uuid}
    (success : repository.release reservationId = .ok after) :
    ∃ reservation,
      repository.reservations.get? reservationId = some reservation ∧
      (reservation.status = .open ∧
          after = { repository with
            reservations := repository.reservations.set reservationId
              (releasedRecord reservation) } ∨
        reservation.status ≠ .open ∧ after = repository) := by
  unfold release at success
  split at success
  · cases success
  · rename_i reservation found
    refine ⟨reservation, found, ?_⟩
    split at success
    · rename_i status
      cases success
      exact .inl ⟨status, rfl⟩
    · rename_i status
      cases success
      exact .inr ⟨status, rfl⟩

theorem recordCacheHit_ok {repository after : MemoryBudgetRepository}
    {correlationId : Uuid} {operation : Operation} {modelId : String}
    {usage : Usage}
    (success : repository.recordCacheHit correlationId operation modelId
      usage = .ok after) :
    usage.estimatedCostUsd = 0 ∧
      after = { repository with
        usages := repository.usages ++
          [⟨correlationId, operation, modelId, usage, true⟩] } := by
  unfold recordCacheHit requireZeroCostCacheHit at success
  split at success
  · cases success
  · rename_i zero
    cases success
    exact ⟨not_not.mp zero, rfl⟩

end MemoryBudgetRepository

end RagBench
