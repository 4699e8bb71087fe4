import Mathlib.Tactic.FieldSimp
import Mathlib.Tactic.Positivity
import RagBench.Core.Ledger
import RagBench.Simulation

/-!
# The budget ledger in the database

`SqlAlchemyBudgetRepository` keeps rows instead of dictionaries, and sums
instead of a running total.  A method is one transaction: it commits the new
tables, or it raises and rolls back.  Both repositories accept the same
operations and agree afterwards.
-/

namespace RagBench

/-! ## Columns -/

/-- `sqlalchemy.exc.DataError`. -/
def dataError (message : String) : PyException :=
  ⟨.derived "DataError" .exception, message⟩

/-- `sqlalchemy.exc.IntegrityError`. -/
def integrityError (message : String) : PyException :=
  ⟨.derived "IntegrityError" .exception, message⟩

/-- The nearest integer, halves away from zero. -/
def roundHalfAway (value : ℚ) : ℤ :=
  if 0 ≤ value then ⌊value + 1 / 2⌋ else ⌈value - 1 / 2⌉

/-- `Numeric(12, 6)`. -/
def numericColumn (amount : ℚ) : Except PyException ℚ :=
  let millionths := roundHalfAway (amount * 10 ^ 6)
  if millionths.natAbs < 10 ^ 12 then .ok (millionths / 10 ^ 6)
  else .error (dataError "numeric field overflow")

/-- `Integer`. -/
def integerColumn (value : ℤ) : Except PyException ℤ :=
  if -2 ^ 31 ≤ value ∧ value < 2 ^ 31 then .ok value
  else .error (dataError "integer out of range")

/-- `String(length)`. -/
def stringColumn (length : ℕ) (value : String) : Except PyException String :=
  if value.length ≤ length then .ok value
  else .error (dataError "value too long for type character varying")

/-- An amount with six decimals that fits a `Numeric(12, 6)` column. -/
def FitsNumeric (amount : ℚ) : Prop :=
  ∃ millionths : ℤ, millionths.natAbs < 10 ^ 12 ∧
    amount = millionths / 10 ^ 6

theorem numericColumn_fits {amount : ℚ} (fits : FitsNumeric amount) :
    numericColumn amount = .ok amount := by
  obtain ⟨millionths, small, rfl⟩ := fits
  have scaled : (millionths / 10 ^ 6 : ℚ) * 10 ^ 6 = millionths := by
    field_simp
  have rounded : roundHalfAway millionths = millionths := by
    unfold roundHalfAway
    split_ifs
    · rw [Int.floor_eq_iff]
      constructor <;> linarith
    · rw [Int.ceil_eq_iff]
      constructor <;> linarith
  unfold numericColumn
  rw [scaled, rounded, if_pos small]

/-! ## Tables -/

def Operation.text : Operation → String
  | .generate => "generate"
  | .embed => "embed"
  | .parse => "parse"
  | .other name => name

/-- A row of `api_usage`. -/
structure ApiUsage where
  correlationId : Uuid
  operation : Operation
  providerModelId : String
  inputTokens : ℤ
  outputTokens : ℤ
  billablePages : ℤ
  estimatedCostUsd : ℚ
  cacheHit : Bool
  deriving DecidableEq

/-- A row of `budget_reservation` behind its primary key. -/
structure BudgetReservation where
  correlationId : Uuid
  reservedCostUsd : ℚ
  settledCostUsd : Option ℚ
  status : ReservationStatus
  deriving DecidableEq

/-- The tables of `SqlAlchemyBudgetRepository`. -/
structure BudgetDatabase where
  reservations : Dict Uuid BudgetReservation
  usages : List ApiUsage

namespace BudgetDatabase

/-- `sum(ApiUsage.estimated_cost_usd)`. -/
def settledTotal (database : BudgetDatabase) : ℚ :=
  (database.usages.map (·.estimatedCostUsd)).sum

/-- `sum(BudgetReservation.reserved_cost_usd)` where the status is `open`. -/
def openTotal (database : BudgetDatabase) : ℚ :=
  ((database.reservations.values.filter fun row =>
    row.status = .open).map (·.reservedCostUsd)).sum

def insertUsage (database : BudgetDatabase) (row : ApiUsage) :
    Except PyException BudgetDatabase := do
  let _ ← stringColumn 64 row.operation.text
  let model ← stringColumn 255 row.providerModelId
  let inputTokens ← integerColumn row.inputTokens
  let outputTokens ← integerColumn row.outputTokens
  let billablePages ← integerColumn row.billablePages
  let cost ← numericColumn row.estimatedCostUsd
  return { database with
    usages := database.usages ++ [{ row with
      providerModelId := model
      inputTokens := inputTokens
      outputTokens := outputTokens
      billablePages := billablePages
      estimatedCostUsd := cost }] }

/-- `correlation_id` is unique, `id` is the primary key. -/
def insertReservation (database : BudgetDatabase) (id : Uuid)
    (row : BudgetReservation) : Except PyException BudgetDatabase := do
  let cost ← numericColumn row.reservedCostUsd
  if id ∈ database.reservations.keys then
    throw (integrityError "duplicate key value violates budget_reservation_pkey")
  if row.correlationId ∈ database.reservations.values.map (·.correlationId) then
    throw (integrityError "duplicate key value violates correlation_id")
  return { database with
    reservations := database.reservations.set id
      { row with reservedCostUsd := cost } }

/-- `id` is what `uuid4()` returns for the new reservation. -/
def reserveAtomic (database : BudgetDatabase) (id correlationId : Uuid)
    (projectedCost hardLimit : ℚ) :
    Except PyException (Reservation × BudgetDatabase) :=
  if database.settledTotal + database.openTotal + projectedCost ≥
      hardLimit then
    .error ⟨budgetExceededError,
      "projected provider cost reaches the hard budget limit"⟩
  else do
    let after ← database.insertReservation id
      ⟨correlationId, projectedCost, none, .open⟩
    return (⟨id, correlationId, projectedCost, .open⟩, after)

def settle (database : BudgetDatabase) (reservationId : Uuid)
    (operation : Operation) (modelId : String) (usage : Usage)
    (cacheHit reconciliationRequired : Bool) :
    Except PyException BudgetDatabase :=
  match database.reservations.get? reservationId with
  | none => .error (.runtimeError "only open reservations can be settled")
  | some reservation =>
      if reservation.status ≠ .open then
        .error (.runtimeError "only open reservations can be settled")
      else do
        let settledCost ← numericColumn usage.estimatedCostUsd
        let updated := { database with
          reservations := database.reservations.set reservationId
            { reservation with
              status :=
                if reconciliationRequired = true ∨
                    usage.estimatedCostUsd > reservation.reservedCostUsd then
                  .reconciliationRequired
                else .settled
              settledCostUsd := some settledCost } }
        updated.insertUsage
          { correlationId := reservation.correlationId
            operation := operation
            providerModelId := modelId
            inputTokens := usage.inputTokens
            outputTokens := usage.outputTokens
            billablePages := usage.billablePages
            estimatedCostUsd := usage.estimatedCostUsd
            cacheHit := cacheHit }

def release (database : BudgetDatabase) (reservationId : Uuid) :
    Except PyException BudgetDatabase :=
  match database.reservations.get? reservationId with
  | none => .ok database
  | some reservation =>
      if reservation.status = .open then
        .ok { database with
          reservations := database.reservations.set reservationId
            { reservation with
              status := .released
              settledCostUsd := some 0 } }
      else .ok database

def recordCacheHit (database : BudgetDatabase) (correlationId : Uuid)
    (operation : Operation) (modelId : String) (usage : Usage) :
    Except PyException BudgetDatabase := do
  requireZeroCostCacheHit usage
  database.insertUsage
    { correlationId := correlationId
      operation := operation
      providerModelId := modelId
      inputTokens := usage.inputTokens
      outputTokens := usage.outputTokens
      billablePages := usage.billablePages
      estimatedCostUsd := usage.estimatedCostUsd
      cacheHit := true }

end BudgetDatabase

/-! ## Commands of both repositories -/

inductive BudgetCommand where
  | reserveAtomic (id correlationId : Uuid) (projectedCost hardLimit : ℚ)
  | settle (reservationId : Uuid) (operation : Operation) (modelId : String)
      (usage : Usage) (cacheHit reconciliationRequired : Bool)
  | release (reservationId : Uuid)
  | recordCacheHit (correlationId : Uuid) (operation : Operation)
      (modelId : String) (usage : Usage)

namespace BudgetCommand

def onMemory (repository : MemoryBudgetRepository) :
    BudgetCommand → Except PyException MemoryBudgetRepository
  | .reserveAtomic id correlationId projectedCost hardLimit => do
      let (_, after) ← repository.reserveAtomic id correlationId projectedCost
        hardLimit
      return after
  | .settle reservationId operation modelId usage cacheHit required =>
      repository.settle reservationId operation modelId usage cacheHit required
  | .release reservationId => repository.release reservationId
  | .recordCacheHit correlationId operation modelId usage =>
      repository.recordCacheHit correlationId operation modelId usage

def onDatabase (database : BudgetDatabase) :
    BudgetCommand → Except PyException BudgetDatabase
  | .reserveAtomic id correlationId projectedCost hardLimit => do
      let (_, after) ← database.reserveAtomic id correlationId projectedCost
        hardLimit
      return after
  | .settle reservationId operation modelId usage cacheHit required =>
      database.settle reservationId operation modelId usage cacheHit required
  | .release reservationId => database.release reservationId
  | .recordCacheHit correlationId operation modelId usage =>
      database.recordCacheHit correlationId operation modelId usage

end BudgetCommand

/-! ## The simulation -/

/-- The row of a reservation. -/
def MemoryReservation.row (record : MemoryReservation) : BudgetReservation :=
  { correlationId := record.correlationId
    reservedCostUsd := record.reservedCostUsd
    settledCostUsd := record.settledCostUsd
    status := record.status }

/-- The row of a usage record. -/
def UsageRecord.row (record : UsageRecord) : ApiUsage :=
  { correlationId := record.correlationId
    operation := record.operation
    providerModelId := record.modelId
    inputTokens := record.usage.inputTokens
    outputTokens := record.usage.outputTokens
    billablePages := record.usage.billablePages
    estimatedCostUsd := record.usage.estimatedCostUsd
    cacheHit := record.cacheHit }

/-- What the reservation of a row currently blocks. -/
def BudgetReservation.openWeight (row : BudgetReservation) : ℚ :=
  if row.status = .open then row.reservedCostUsd else 0

namespace BudgetDatabase

theorem openTotal_eq (database : BudgetDatabase) :
    database.openTotal =
      (database.reservations.values.map (·.openWeight)).sum :=
  sum_filter_open _ _ _

/-- Replacing a row moves the open total by the difference of weights. -/
theorem openTotal_set (database : BudgetDatabase) (id : Uuid)
    (row : BudgetReservation) (usages : List ApiUsage) :
    openTotal ⟨database.reservations.set id row, usages⟩ =
      database.openTotal + row.openWeight -
        ((database.reservations.get? id).map (·.openWeight)).getD 0 := by
  rw [openTotal_eq, openTotal_eq]
  exact Dict.sum_values_set _ _ _ _

end BudgetDatabase

/-- Both repositories hold the same accounts, next to what the database held
before. -/
structure Agree (start : BudgetDatabase)
    (repository : MemoryBudgetRepository) (database : BudgetDatabase) :
    Prop where
  reservations : ∀ id record,
    repository.reservations.get? id = some record →
      database.reservations.get? id = some record.row
  others : ∀ id, repository.reservations.get? id = none →
    database.reservations.get? id = start.reservations.get? id
  usages : database.usages =
    start.usages ++ repository.usages.map UsageRecord.row
  settled : repository.settledCost = database.settledTotal
  reserved : repository.openCost = database.openTotal

/-- A usage that fits the columns of `api_usage`. -/
structure FitsColumns (operation : Operation) (modelId : String)
    (usage : Usage) : Prop where
  operation : operation.text.length ≤ 64
  modelId : modelId.length ≤ 255
  inputTokens : -2 ^ 31 ≤ usage.inputTokens ∧ usage.inputTokens < 2 ^ 31
  outputTokens : -2 ^ 31 ≤ usage.outputTokens ∧ usage.outputTokens < 2 ^ 31
  billablePages : -2 ^ 31 ≤ usage.billablePages ∧ usage.billablePages < 2 ^ 31
  cost : FitsNumeric usage.estimatedCostUsd

/-- New reservations get fresh identifiers, others name a reservation which
was returned before. -/
def BudgetCommand.Allowed (repository : MemoryBudgetRepository)
    (database : BudgetDatabase) : BudgetCommand → Prop
  | .reserveAtomic id correlationId projectedCost _ =>
      repository.reservations.get? id = none ∧
        database.reservations.get? id = none ∧
        (∀ row ∈ database.reservations.values,
          row.correlationId ≠ correlationId) ∧ FitsNumeric projectedCost
  | .settle reservationId operation modelId usage _ _ =>
      (∃ record, repository.reservations.get? reservationId = some record) ∧
        FitsColumns operation modelId usage
  | .release reservationId =>
      ∃ record, repository.reservations.get? reservationId = some record
  | .recordCacheHit _ operation modelId usage =>
      FitsColumns operation modelId usage

theorem insertUsage_ok {database : BudgetDatabase} {operation : Operation}
    {modelId : String} {usage : Usage}
    (fits : FitsColumns operation modelId usage) (correlationId : Uuid)
    (cacheHit : Bool) :
    database.insertUsage (UsageRecord.row
        ⟨correlationId, operation, modelId, usage, cacheHit⟩) =
      .ok { database with
        usages := database.usages ++ [UsageRecord.row
          ⟨correlationId, operation, modelId, usage, cacheHit⟩] } := by
  unfold BudgetDatabase.insertUsage
  refine bind_eq_ok.mpr ⟨_, if_pos fits.operation, ?_⟩
  refine bind_eq_ok.mpr ⟨_, if_pos fits.modelId, ?_⟩
  refine bind_eq_ok.mpr ⟨_, if_pos fits.inputTokens, ?_⟩
  refine bind_eq_ok.mpr ⟨_, if_pos fits.outputTokens, ?_⟩
  refine bind_eq_ok.mpr ⟨_, if_pos fits.billablePages, ?_⟩
  exact bind_eq_ok.mpr ⟨_, numericColumn_fits fits.cost, rfl⟩

theorem insertReservation_ok {database : BudgetDatabase}
    {id correlationId : Uuid} {projectedCost : ℚ}
    (fresh : database.reservations.get? id = none)
    (unused : ∀ row ∈ database.reservations.values,
      row.correlationId ≠ correlationId)
    (fits : FitsNumeric projectedCost) :
    database.insertReservation id ⟨correlationId, projectedCost, none, .open⟩ =
      .ok { database with
        reservations := database.reservations.set id
          ⟨correlationId, projectedCost, none, .open⟩ } := by
  have newKey : id ∉ database.reservations.keys :=
    Dict.lookup_eq_none_iff.mp fresh
  have newCorrelation :
      correlationId ∉ database.reservations.values.map (·.correlationId) := by
    simpa using unused
  unfold BudgetDatabase.insertReservation
  refine bind_eq_ok.mpr ⟨_, numericColumn_fits fits, ?_⟩
  rw [if_neg newKey, if_neg newCorrelation]
  rfl

/-- The row of an open reservation is updated together with its usage. -/
theorem settle_ok_of_open {database : BudgetDatabase} {reservationId : Uuid}
    {record : MemoryReservation} {operation : Operation} {modelId : String}
    {usage : Usage}
    (found : database.reservations.get? reservationId = some record.row)
    (isOpen : record.status = .open)
    (fits : FitsColumns operation modelId usage)
    (cacheHit required : Bool) :
    database.settle reservationId operation modelId usage cacheHit required =
      .ok
        { reservations := database.reservations.set reservationId
            (MemoryBudgetRepository.settledRecord record usage required).row
          usages := database.usages ++ [UsageRecord.row
            ⟨record.correlationId, operation, modelId, usage, cacheHit⟩] } := by
  have rowOpen : ¬ record.row.status ≠ .open := not_not.mpr isOpen
  unfold BudgetDatabase.settle
  rw [found]
  dsimp only
  rw [if_neg rowOpen]
  refine bind_eq_ok.mpr ⟨_, numericColumn_fits fits.cost, ?_⟩
  exact insertUsage_ok fits record.correlationId cacheHit

namespace Agree

variable {start : BudgetDatabase} {repository : MemoryBudgetRepository}
  {database : BudgetDatabase}

/-- One record is replaced on both sides. -/
theorem set (agree : Agree start repository database) {id : Uuid}
    {record : MemoryReservation} (updated : MemoryReservation)
    (found : repository.reservations.get? id = some record)
    {settledCost : ℚ} {usages : List UsageRecord} {rows : List ApiUsage}
    (sameUsages : rows = start.usages ++ usages.map UsageRecord.row)
    (sameSettled : settledCost = (rows.map (·.estimatedCostUsd)).sum) :
    Agree start
      ⟨settledCost, repository.reservations.set id updated, usages⟩
      ⟨database.reservations.set id updated.row, rows⟩ := by
  refine ⟨?_, ?_, sameUsages, sameSettled, ?_⟩
  · intro other current here
    rw [Dict.get?_set] at here ⊢
    split_ifs at here ⊢
    · cases here
      rfl
    · exact agree.reservations other current here
  · intro other absent
    rw [Dict.get?_set] at absent ⊢
    split_ifs at absent ⊢
    exact agree.others other absent
  · rw [MemoryBudgetRepository.openCost_set, BudgetDatabase.openTotal_set,
      agree.reserved, found, agree.reservations id record found]
    rfl

/-- The sum of the usages grows with a new row. -/
theorem settled_append (agree : Agree start repository database)
    (record : UsageRecord) :
    repository.settledCost + record.usage.estimatedCostUsd =
      ((database.usages ++ [record.row]).map (·.estimatedCostUsd)).sum := by
  rw [agree.settled, List.map_append, List.sum_append]
  simp [BudgetDatabase.settledTotal, UsageRecord.row]

theorem usages_append (agree : Agree start repository database)
    (record : UsageRecord) :
    database.usages ++ [record.row] =
      start.usages ++ (repository.usages ++ [record]).map UsageRecord.row := by
  rw [agree.usages, List.map_append, List.append_assoc]
  rfl

/-- A new open reservation on both sides. -/
theorem reserve (agree : Agree start repository database)
    {id correlationId : Uuid} {projectedCost : ℚ}
    (fresh : repository.reservations.get? id = none)
    (freshRow : database.reservations.get? id = none) :
    Agree start
      { repository with
        reservations := repository.reservations.set id
          ⟨id, correlationId, projectedCost, .open, none⟩ }
      { database with
        reservations := database.reservations.set id
          ⟨correlationId, projectedCost, none, .open⟩ } := by
  refine ⟨?_, ?_, agree.usages, agree.settled, ?_⟩
  · intro other current here
    rw [Dict.get?_set] at here ⊢
    split_ifs at here ⊢
    · cases here
      rfl
    · exact agree.reservations other current here
  · intro other absent
    rw [Dict.get?_set] at absent ⊢
    split_ifs at absent ⊢
    exact agree.others other absent
  · rw [MemoryBudgetRepository.openCost_set, BudgetDatabase.openTotal_set,
      agree.reserved, fresh, freshRow]
    rfl

private theorem settle (agree : Agree start repository database)
    {reservationId : Uuid} {record : MemoryReservation}
    (found : repository.reservations.get? reservationId = some record)
    {operation : Operation} {modelId : String} {usage : Usage}
    (fits : FitsColumns operation modelId usage) (cacheHit required : Bool) :
    Alike (Agree start) repository database
      (repository.settle reservationId operation modelId usage cacheHit
        required)
      (database.settle reservationId operation modelId usage cacheHit
        required) := by
  have foundRow := agree.reservations _ _ found
  by_cases isOpen : record.status = .open
  · rw [settle_ok_of_open foundRow isOpen fits]
    unfold MemoryBudgetRepository.settle
    rw [found]
    dsimp only
    rw [if_neg (not_not.mpr isOpen)]
    exact .accepted (agree.set
      (MemoryBudgetRepository.settledRecord record usage required) found
      (agree.usages_append _) (agree.settled_append
        ⟨record.correlationId, operation, modelId, usage, cacheHit⟩))
  · have rowClosed : record.row.status ≠ .open := isOpen
    unfold MemoryBudgetRepository.settle BudgetDatabase.settle
    rw [found, foundRow]
    dsimp only
    rw [if_pos isOpen, if_pos rowClosed]
    exact .rejected _ agree

private theorem release (agree : Agree start repository database)
    {reservationId : Uuid} {record : MemoryReservation}
    (found : repository.reservations.get? reservationId = some record) :
    Alike (Agree start) repository database
      (repository.release reservationId) (database.release reservationId) := by
  have foundRow := agree.reservations _ _ found
  unfold MemoryBudgetRepository.release BudgetDatabase.release
  rw [found, foundRow]
  dsimp only
  by_cases isOpen : record.status = .open
  · have rowOpen : record.row.status = .open := isOpen
    rw [if_pos isOpen, if_pos rowOpen]
    exact .accepted (agree.set
      (MemoryBudgetRepository.releasedRecord record) found agree.usages
      agree.settled)
  · have rowClosed : record.row.status ≠ .open := isOpen
    rw [if_neg isOpen, if_neg rowClosed]
    exact .accepted agree

private theorem recordCacheHit (agree : Agree start repository database)
    {operation : Operation} {modelId : String} {usage : Usage}
    (fits : FitsColumns operation modelId usage) (correlationId : Uuid) :
    Alike (Agree start) repository database
      (repository.recordCacheHit correlationId operation modelId usage)
      (database.recordCacheHit correlationId operation modelId usage) := by
  unfold MemoryBudgetRepository.recordCacheHit BudgetDatabase.recordCacheHit
    requireZeroCostCacheHit
  by_cases costly : usage.estimatedCostUsd ≠ 0
  · rw [if_pos costly]
    exact .rejected _ agree
  · have inserted := @insertUsage_ok database _ _ _ fits correlationId true
    have zero : usage.estimatedCostUsd = 0 := not_not.mp costly
    have settled := agree.settled_append
      ⟨correlationId, operation, modelId, usage, true⟩
    rw [zero, add_zero] at settled
    rw [if_neg costly]
    exact inserted ▸ .accepted ⟨agree.reservations, agree.others,
      agree.usages_append _, settled, agree.reserved⟩

/-- Every allowed command is answered alike. -/
theorem perform (agree : Agree start repository database)
    {command : BudgetCommand}
    (allowed : command.Allowed repository database) :
    Alike (Agree start) repository database (command.onMemory repository)
      (command.onDatabase database) := by
  cases command with
  | reserveAtomic id correlationId projectedCost hardLimit =>
      obtain ⟨fresh, freshRow, unused, fits⟩ := allowed
      simp only [BudgetCommand.onMemory, BudgetCommand.onDatabase]
      unfold MemoryBudgetRepository.reserveAtomic BudgetDatabase.reserveAtomic
      rw [← agree.settled, ← agree.reserved]
      split_ifs with reached
      · exact .rejected _ agree
      · rw [insertReservation_ok freshRow unused fits]
        exact .accepted (agree.reserve fresh freshRow)
  | settle reservationId operation modelId usage cacheHit required =>
      obtain ⟨⟨record, found⟩, fits⟩ := allowed
      exact agree.settle found fits cacheHit required
  | release reservationId =>
      obtain ⟨record, found⟩ := allowed
      exact agree.release found
  | recordCacheHit correlationId operation modelId usage =>
      exact agree.recordCacheHit allowed correlationId

/-- The ledgers agree before the first command. -/
theorem init (closed : ∀ row ∈ database.reservations.values,
      row.status ≠ .open) :
    Agree database (MemoryBudgetRepository.init database.settledTotal)
      database := by
  refine ⟨?_, fun _ _ => rfl, ?_, rfl, ?_⟩
  · intro id record found
    simp [MemoryBudgetRepository.init] at found
  · simp [MemoryBudgetRepository.init]
  · have noneOpen : (database.reservations.values.filter fun row =>
        row.status = .open) = [] := by
      simpa [List.filter_eq_nil_iff] using closed
    rw [BudgetDatabase.openTotal, noneOpen]
    rfl

end Agree

/-- From one settled total, both repositories accept and reject the same
commands and agree in the end. -/
theorem budget_repositories_agree {database : BudgetDatabase}
    (closed : ∀ row ∈ database.reservations.values, row.status ≠ .open)
    {commands : List BudgetCommand}
    (allowed : AllAllowed BudgetCommand.onMemory BudgetCommand.onDatabase
      BudgetCommand.Allowed
      (MemoryBudgetRepository.init database.settledTotal) database commands) :
    (performAll BudgetCommand.onMemory
        (MemoryBudgetRepository.init database.settledTotal) commands).1 =
        (performAll BudgetCommand.onDatabase database commands).1 ∧
      Agree database
        (performAll BudgetCommand.onMemory
          (MemoryBudgetRepository.init database.settledTotal) commands).2
        (performAll BudgetCommand.onDatabase database commands).2 :=
  performAll_alike (fun _ _ _ agree permitted => agree.perform permitted)
    (Agree.init closed) allowed

/-- One usage from an earlier run. -/
def sampleBudgetDatabase : BudgetDatabase :=
  { reservations := .empty
    usages := [⟨⟨1⟩, .parse, "document-parse", 0, 0, 3, 1, false⟩] }

/-- A reservation which costs more than reserved is settled twice and
released; the next reservation exceeds the limit. -/
def sampleBudgetCommands : List BudgetCommand :=
  [.reserveAtomic ⟨10⟩ ⟨2⟩ 2 10,
    .settle ⟨10⟩ .generate "solar" ⟨5, 7, 0, 3⟩ false false,
    .settle ⟨10⟩ .generate "solar" ⟨5, 7, 0, 3⟩ false false,
    .release ⟨10⟩,
    .reserveAtomic ⟨11⟩ ⟨3⟩ 6 10]

theorem sample_budget_repositories_agree :
    (performAll BudgetCommand.onMemory
        (MemoryBudgetRepository.init sampleBudgetDatabase.settledTotal)
        sampleBudgetCommands).1 =
      (performAll BudgetCommand.onDatabase sampleBudgetDatabase
        sampleBudgetCommands).1 := by
  have usageFits : FitsColumns .generate "solar" ⟨5, 7, 0, 3⟩ :=
    { operation := by decide
      modelId := by decide
      inputTokens := by decide
      outputTokens := by decide
      billablePages := by decide
      cost := ⟨3000000, by decide, by norm_num⟩ }
  have allowed : AllAllowed BudgetCommand.onMemory BudgetCommand.onDatabase
      BudgetCommand.Allowed
      (MemoryBudgetRepository.init sampleBudgetDatabase.settledTotal)
      sampleBudgetDatabase sampleBudgetCommands :=
    ⟨⟨rfl, rfl, by decide, 2000000, by decide, by norm_num⟩,
      ⟨Option.isSome_iff_exists.mp (by decide +kernel), usageFits⟩,
      ⟨Option.isSome_iff_exists.mp (by decide +kernel), usageFits⟩,
      Option.isSome_iff_exists.mp (by decide +kernel),
      ⟨by decide +kernel, by decide +kernel, by decide +kernel, 6000000,
        by decide, by norm_num⟩, trivial⟩
  exact (budget_repositories_agree (by decide) allowed).1

end RagBench
