import RagBench.Providers.BudgetCap

/-!
# What becomes of a reservation

The ledger is compared with the history of the run: who opened which
reservation, and which accepted responses arrived under which correlation
identifier.  A call that ends has closed all its reservations properly exactly
when every accepted response it got is chargeable.
-/

namespace RagBench

open UpstageGateway

variable {ι : Type}

/-! ## Reading the history -/

/-- The reservation an event opens. -/
def opening (event : GatewayEvent ι) : Option Reservation :=
  match event with
  | ⟨_, .reserveAtomic _ _ _, .ok reservation⟩ => some reservation
  | _ => none

def Opened (events : List (GatewayEvent ι)) (task : ι)
    (reservation : Reservation) : Prop :=
  ∃ event ∈ events, event.task = task ∧ opening event = some reservation

def Accepted (events : List (GatewayEvent ι)) (task : ι)
    (correlationId : Uuid) (response : HttpResponse) : Prop :=
  ∃ event ∈ events, event.task = task ∧
    acceptance event = some (correlationId, response)

/-- The ledger's own operations run to their end. -/
def budgetIntact (event : GatewayEvent ι) : Bool :=
  match event with
  | ⟨_, .settle _ _ _ _ _ _, .error _⟩ => false
  | ⟨_, .release _, .error _⟩ => false
  | _ => true

theorem opened_append {events : List (GatewayEvent ι)}
    {event : GatewayEvent ι} {task : ι} {reservation : Reservation} :
    Opened (events ++ [event]) task reservation ↔
      Opened events task reservation ∨
        event.task = task ∧ opening event = some reservation := by
  simp [Opened, or_and_right, exists_or]

theorem accepted_append {events : List (GatewayEvent ι)}
    {event : GatewayEvent ι} {task : ι} {correlationId : Uuid}
    {response : HttpResponse} :
    Accepted (events ++ [event]) task correlationId response ↔
      Accepted events task correlationId response ∨
        event.task = task ∧
          acceptance event = some (correlationId, response) := by
  simp [Accepted, or_and_right, exists_or]

/-- The usage recorded under a correlation identifier. -/
def MemoryBudgetRepository.usagesOf (repository : MemoryBudgetRepository)
    (correlationId : Uuid) : List UsageRecord :=
  repository.usages.filter fun usage => usage.correlationId = correlationId

/-- The reservation is closed as the responses under its correlation
identifier demand. -/
structure Accounted (events : List (GatewayEvent ι))
    (ledger : MemoryBudgetRepository) (task : ι) (reservation : Reservation)
    (record : MemoryReservation) : Prop where
  found : ledger.reservations.get? reservation.id = some record
  closed : record.status ≠ .open
  unanswered : (∀ response,
      ¬ Accepted events task reservation.correlationId response) →
    record.status = .released ∧
      ledger.usagesOf reservation.correlationId = []
  answered : ∀ response,
      Accepted events task reservation.correlationId response →
    (record.status = .settled ∨ record.status = .reconciliationRequired) ∧
      ∃ usage, ledger.usagesOf reservation.correlationId = [usage]

/-! ## What one operation changes -/

/-- The correlation identifier the call works under. -/
def BudgetPhase.current : BudgetPhase → Option Uuid
  | .minted correlationId => some correlationId
  | .holding reservation => some reservation.correlationId
  | .answered reservation _ => some reservation.correlationId
  | _ => none

namespace BudgetEffect

variable {gateway : UpstageGateway} {call : GatewayCall}
  {before after : BudgetWorld} {phase moved : BudgetPhase} {op : GatewayOp}
  {outcome : Except PyException (GatewayReply op)} {task : ι}

/-- Only reserving opens. -/
theorem opening_inv
    (effect : BudgetEffect gateway call before phase op outcome after moved)
    {reservation : Reservation}
    (opens : opening (⟨task, op, outcome⟩ : GatewayEvent ι) =
      some reservation) :
    phase = .minted reservation.correlationId ∧
      moved = .holding reservation := by
  cases effect with
  | reserve minted nonneg fresh success =>
      obtain ⟨-, rfl, -⟩ := MemoryBudgetRepository.reserveAtomic_ok success
      cases opens
      exact ⟨minted, rfl⟩
  | steady external unanswered =>
      cases op with
      | reserveAtomic => exact external.elim
      | _ => cases opens
  | refuse | interrupt => cases op <;> cases opens
  | mint | settle | release | recordCacheHit | respond => cases opens

/-- Only a response under the held reservation is accepted. -/
theorem acceptance_inv
    (effect : BudgetEffect gateway call before phase op outcome after moved)
    {correlationId : Uuid} {response : HttpResponse}
    (accepts : acceptance (⟨task, op, outcome⟩ : GatewayEvent ι) =
      some (correlationId, response)) :
    ∃ reservation, phase = .holding reservation ∧
      reservation.correlationId = correlationId ∧
        moved = .answered reservation response := by
  cases effect with
  | @respond reservation request reply holding same =>
      simp only [acceptance] at accepts
      split_ifs at accepts with accepted
      cases accepts
      refine ⟨reservation, holding, same, ?_⟩
      rw [holding]
      exact if_pos accepted
  | steady external unanswered =>
      cases op with
      | post request =>
          obtain ⟨error, rfl⟩ := unanswered request rfl
          cases accepts
      | _ => cases accepts
  | refuse | interrupt => cases op <;> cases accepts
  | mint | settle | release | recordCacheHit | reserve => cases accepts

/-- Usage is recorded under the current identifier only. -/
theorem usagesOf_frame
    (effect : BudgetEffect gateway call before phase op outcome after moved)
    {correlationId : Uuid} (other : phase.current ≠ some correlationId)
    (owned : ∀ reservation, phase.held = some reservation →
      before.ledger.reservations.get? reservation.id =
        some reservation.openRecord) :
    after.ledger.usagesOf correlationId =
      before.ledger.usagesOf correlationId := by
  cases effect with
  | reserve minted nonneg fresh success =>
      obtain ⟨-, -, rfl⟩ := MemoryBudgetRepository.reserveAtomic_ok success
      rfl
  | @settle reservation _ _ _ _ _ _ _ answered chargeable bounded success =>
      obtain ⟨record, found, -, rfl⟩ :=
        MemoryBudgetRepository.settle_ok success
      rw [answered] at other owned
      rw [owned reservation rfl] at found
      cases found
      have different : reservation.correlationId ≠ correlationId :=
        fun same => other (by rw [← same]; rfl)
      simp [MemoryBudgetRepository.usagesOf, Reservation.openRecord, different]
  | release holding success =>
      obtain ⟨record, found, ⟨-, rfl⟩ | ⟨-, rfl⟩⟩ :=
        MemoryBudgetRepository.release_ok success
      · rfl
      · rfl
  | @recordCacheHit minted _ _ _ _ phased success =>
      obtain ⟨-, rfl⟩ := MemoryBudgetRepository.recordCacheHit_ok success
      rw [phased] at other
      have different : minted ≠ correlationId :=
        fun same => other (by rw [← same]; rfl)
      simp [MemoryBudgetRepository.usagesOf, different]
  | mint | respond | steady | refuse | interrupt => rfl

/-- A call goes on under its identifier, drops it, or takes a fresh one. -/
theorem current_inv
    (effect : BudgetEffect gateway call before phase op outcome after moved)
    {correlationId : Uuid} (under : moved.current = some correlationId) :
    phase.current = some correlationId ∨
      correlationId ∉ before.issued ∧ correlationId ∈ after.issued := by
  cases effect with
  | mint idle fresh =>
      cases under
      exact .inr ⟨fresh, List.mem_cons_self⟩
  | reserve minted nonneg fresh success =>
      obtain ⟨-, rfl, -⟩ := MemoryBudgetRepository.reserveAtomic_ok success
      rw [minted]
      exact .inl under
  | respond holding same =>
      rw [holding] at under ⊢
      simp only [BudgetPhase.respond] at under
      split_ifs at under <;> exact .inl under
  | steady => exact .inl under
  | settle | release | recordCacheHit | refuse | interrupt => cases under

theorem issued_grows
    (effect : BudgetEffect gateway call before phase op outcome after moved) :
    before.issued ⊆ after.issued := by
  cases effect with
  | mint | reserve => exact List.subset_cons_self _ _
  | settle | release | recordCacheHit | respond | steady | refuse
  | interrupt => exact List.Subset.refl _

end BudgetEffect

/-! ## The invariant -/

/-- Nothing has happened under the identifier. -/
structure Unused (events : List (GatewayEvent ι))
    (ledger : MemoryBudgetRepository) (correlationId : Uuid) : Prop where
  opened : ∀ task reservation, Opened events task reservation →
    reservation.correlationId ≠ correlationId
  accepted : ∀ task response, ¬ Accepted events task correlationId response
  usages : ledger.usagesOf correlationId = []

/-- The reservation is the only one under its identifier, and nothing has
been recorded there. -/
structure Pending (events : List (GatewayEvent ι))
    (ledger : MemoryBudgetRepository) (task : ι) (reservation : Reservation) :
    Prop where
  opened : Opened events task reservation
  sole : ∀ other current, Opened events other current →
    current.correlationId = reservation.correlationId →
      other = task ∧ current = reservation
  usages : ledger.usagesOf reservation.correlationId = []

/-- What the phase of a call says about the history. -/
def Standing (events : List (GatewayEvent ι))
    (ledger : MemoryBudgetRepository) (task : ι) : BudgetPhase → Prop
  | .idle => True
  | .minted correlationId => Unused events ledger correlationId
  | .holding reservation => Pending events ledger task reservation ∧
      ∀ other response,
        ¬ Accepted events other reservation.correlationId response
  | .answered reservation response =>
      Pending events ledger task reservation ∧
        Accepted events task reservation.correlationId response
  | .interrupted => False

structure Traced (gateway : UpstageGateway) (calls : ι → GatewayCall)
    (events : List (GatewayEvent ι)) (world : BudgetWorld)
    (phases : ι → BudgetPhase) : Prop where
  fresh : ∀ id, id ∉ world.issued → Unused events world.ledger id ∧
    ∀ task, (phases task).current ≠ some id
  distinct : ∀ first second id, (phases first).current = some id →
    (phases second).current = some id → first = second
  standing : ∀ task, Standing events world.ledger task (phases task)
  accounted : ∀ task reservation, Opened events task reservation →
    (phases task).held = some reservation ∨
      ∃ record, Accounted events world.ledger task reservation record
  stuck : ∀ task id response, Accepted events task id response →
    ¬ (calls task).Chargeable gateway response →
      ∃ reservation, phases task = .answered reservation response

section Frames

variable {gateway : UpstageGateway} {call : GatewayCall}
  {before after : BudgetWorld} {phase moved : BudgetPhase} {op : GatewayOp}
  {outcome : Except PyException (GatewayReply op)} {task : ι}
  {events : List (GatewayEvent ι)}

/-- An operation under another identifier leaves this one unused. -/
theorem Unused.frame {id : Uuid} (unused : Unused events before.ledger id)
    (effect : BudgetEffect gateway call before phase op outcome after moved)
    (other : phase.current ≠ some id)
    (owned : ∀ reservation, phase.held = some reservation →
      before.ledger.reservations.get? reservation.id =
        some reservation.openRecord) :
    Unused (events ++ [⟨task, op, outcome⟩]) after.ledger id := by
  constructor
  · intro opener reservation opened same
    rcases opened_append.mp opened with earlier | ⟨-, opens⟩
    · exact unused.opened opener reservation earlier same
    · apply other
      rw [(effect.opening_inv opens).1, ← same]
      rfl
  · intro receiver response accepted
    rcases accepted_append.mp accepted with earlier | ⟨-, accepts⟩
    · exact unused.accepted receiver response earlier
    · obtain ⟨reservation, holding, same, -⟩ := effect.acceptance_inv accepts
      apply other
      rw [holding, ← same]
      rfl
  · rw [effect.usagesOf_frame other owned]
    exact unused.usages

theorem accepted_frame {id : Uuid}
    (effect : BudgetEffect gateway call before phase op outcome after moved)
    (other : phase.current ≠ some id) {receiver : ι}
    {response : HttpResponse} :
    Accepted (events ++ [⟨task, op, outcome⟩]) receiver id response ↔
      Accepted events receiver id response := by
  rw [accepted_append]
  refine or_iff_left ?_
  rintro ⟨-, accepts⟩
  obtain ⟨reservation, holding, same, -⟩ := effect.acceptance_inv accepts
  apply other
  rw [holding, ← same]
  rfl

/-- An operation under another identifier leaves the reservation pending. -/
theorem Pending.frame {holder : ι} {reservation : Reservation}
    (pending : Pending events before.ledger holder reservation)
    (effect : BudgetEffect gateway call before phase op outcome after moved)
    (other : phase.current ≠ some reservation.correlationId)
    (owned : ∀ reservation, phase.held = some reservation →
      before.ledger.reservations.get? reservation.id =
        some reservation.openRecord) :
    Pending (events ++ [⟨task, op, outcome⟩]) after.ledger holder
      reservation := by
  constructor
  · exact opened_append.mpr (.inl pending.opened)
  · intro opener current opened same
    rcases opened_append.mp opened with earlier | ⟨-, opens⟩
    · exact pending.sole opener current earlier same
    · exfalso
      apply other
      rw [(effect.opening_inv opens).1, ← same]
      rfl
  · rw [effect.usagesOf_frame other owned]
    exact pending.usages

theorem Standing.frame {holder : ι} {current : BudgetPhase}
    (standing : Standing events before.ledger holder current)
    (effect : BudgetEffect gateway call before phase op outcome after moved)
    (other : ∀ id, current.current = some id → phase.current ≠ some id)
    (owned : ∀ reservation, phase.held = some reservation →
      before.ledger.reservations.get? reservation.id =
        some reservation.openRecord) :
    Standing (events ++ [⟨task, op, outcome⟩]) after.ledger holder
      current := by
  cases current with
  | idle => trivial
  | minted id => exact Unused.frame standing effect (other id rfl) owned
  | holding reservation =>
      have apart := other _ rfl
      refine ⟨standing.1.frame effect apart owned, ?_⟩
      intro receiver response
      rw [accepted_frame effect apart]
      exact standing.2 receiver response
  | answered reservation response =>
      have apart := other _ rfl
      exact ⟨standing.1.frame effect apart owned,
        (accepted_frame effect apart).mpr standing.2⟩
  | interrupted => exact standing

/-- A reservation under another identifier stays accounted for. -/
theorem Accounted.frame {holder : ι} {reservation : Reservation}
    {record : MemoryReservation}
    (accounted : Accounted events before.ledger holder reservation record)
    (effect : BudgetEffect gateway call before phase op outcome after moved)
    (performed : LedgerStep gateway.hardLimit before.ledger after.ledger)
    (other : phase.current ≠ some reservation.correlationId)
    (owned : ∀ reservation, phase.held = some reservation →
      before.ledger.reservations.get? reservation.id =
        some reservation.openRecord) :
    Accounted (events ++ [⟨task, op, outcome⟩]) after.ledger holder
      reservation record := by
  constructor
  · exact performed.closed_stays accounted.found accounted.closed
  · exact accounted.closed
  · intro unanswered
    rw [effect.usagesOf_frame other owned]
    apply accounted.unanswered
    intro response accepted
    exact unanswered response ((accepted_frame effect other).mpr accepted)
  · intro response accepted
    rw [effect.usagesOf_frame other owned]
    exact accounted.answered response
      ((accepted_frame effect other).mp accepted)

end Frames

/-! ## One step -/

theorem BudgetPhase.current_of_held {phase : BudgetPhase}
    {reservation : Reservation} (held : phase.held = some reservation) :
    phase.current = some reservation.correlationId := by
  cases phase with
  | holding | answered =>
      cases held
      rfl
  | idle | minted | interrupted => cases held

section Steps

variable {gateway : UpstageGateway} {call : GatewayCall}
  {before after : BudgetWorld} {phase moved : BudgetPhase} {op : GatewayOp}
  {outcome : Except PyException (GatewayReply op)} {task : ι}
  {events : List (GatewayEvent ι)}

/-- Events that neither open nor accept, and record nothing. -/
theorem Standing.quiet {holder : ι} {event : GatewayEvent ι}
    {ledger later : MemoryBudgetRepository}
    (standing : Standing events ledger holder phase)
    (opens : opening event = none) (accepts : acceptance event = none)
    (usages : ∀ id, later.usagesOf id = ledger.usagesOf id) :
    Standing (events ++ [event]) later holder phase := by
  have opened : ∀ other current, Opened (events ++ [event]) other current ↔
      Opened events other current := by
    intro other current
    simp [opened_append, opens]
  have accepted : ∀ other id response,
      Accepted (events ++ [event]) other id response ↔
        Accepted events other id response := by
    intro other id response
    simp [accepted_append, accepts]
  have pending : ∀ reservation, Pending events ledger holder reservation →
      Pending (events ++ [event]) later holder reservation := by
    intro reservation pending
    constructor
    · exact (opened _ _).mpr pending.opened
    · intro other current here same
      exact pending.sole other current ((opened _ _).mp here) same
    · rw [usages]
      exact pending.usages
  cases phase with
  | idle => trivial
  | minted id =>
      constructor
      · intro opener reservation here
        exact standing.opened opener reservation ((opened _ _).mp here)
      · intro receiver response here
        exact standing.accepted receiver response ((accepted _ _ _).mp here)
      · rw [usages]
        exact standing.usages
  | holding reservation =>
      refine ⟨pending reservation standing.1, ?_⟩
      intro receiver response here
      exact standing.2 receiver response ((accepted _ _ _).mp here)
  | answered reservation response =>
      exact ⟨pending reservation standing.1,
        (accepted _ _ _).mpr standing.2⟩
  | interrupted => exact standing

/-- The acting call stands where its phase says. -/
theorem Standing.act (standing : Standing events before.ledger task phase)
    (fresh : ∀ id, id ∉ before.issued → Unused events before.ledger id)
    (owned : ∀ reservation, phase.held = some reservation →
      before.ledger.reservations.get? reservation.id =
        some reservation.openRecord)
    (intact : budgetIntact (⟨task, op, outcome⟩ : GatewayEvent ι) = true)
    (effect : BudgetEffect gateway call before phase op outcome after moved) :
    Standing (events ++ [⟨task, op, outcome⟩]) after.ledger task moved := by
  have whole := effect
  cases effect with
  | mint idle unissued =>
      refine Unused.frame (fresh _ unissued) whole ?_ owned
      rw [idle]
      simp [BudgetPhase.current]
  | @reserve correlationId id cost reservation ledger minted nonneg unissued
      success =>
      obtain ⟨-, rfl, rfl⟩ := MemoryBudgetRepository.reserveAtomic_ok success
      rw [minted] at standing
      refine ⟨⟨opened_append.mpr (.inr ⟨rfl, rfl⟩), ?_, standing.usages⟩, ?_⟩
      · intro other current opened same
        rcases opened_append.mp opened with earlier | ⟨self, opens⟩
        · exact absurd same (standing.opened other current earlier)
        · cases opens
          exact ⟨self.symm, rfl⟩
      · intro other response accepted
        rcases accepted_append.mp accepted with earlier | ⟨-, accepts⟩
        · exact standing.accepted other response earlier
        · cases accepts
  | @respond reservation request response holding same =>
      rw [holding] at standing ⊢
      obtain ⟨pending, unanswered⟩ := standing
      have still : Pending (events ++ [⟨task, .post request, .ok response⟩])
          before.ledger task reservation := by
        constructor
        · exact opened_append.mpr (.inl pending.opened)
        · intro other current opened sameId
          rcases opened_append.mp opened with earlier | ⟨-, opens⟩
          · exact pending.sole other current earlier sameId
          · cases opens
        · exact pending.usages
      simp only [BudgetPhase.respond]
      split_ifs with accepted
      · refine ⟨still, accepted_append.mpr (.inr ⟨rfl, ?_⟩)⟩
        rw [same]
        exact if_pos accepted
      · refine ⟨still, ?_⟩
        intro other reply here
        rcases accepted_append.mp here with earlier | ⟨-, accepts⟩
        · exact unanswered other reply earlier
        · simp [acceptance, accepted] at accepts
  | steady external unanswered =>
      apply standing.quiet
      · cases opens : opening (⟨task, op, outcome⟩ : GatewayEvent ι) with
        | none => rfl
        | some reservation =>
            obtain ⟨first, second⟩ := whole.opening_inv opens
            rw [first] at second
            cases second
      · cases accepts : acceptance (⟨task, op, outcome⟩ : GatewayEvent ι) with
        | none => rfl
        | some pair =>
            obtain ⟨reservation, first, -, second⟩ :=
              whole.acceptance_inv accepts
            rw [first] at second
            cases second
      · intro id
        rfl
  | interrupt held closing =>
      rcases closing with rfl | ⟨_, _, _, _, _, rfl⟩
      · cases intact
      · cases intact
  | settle | release | recordCacheHit | refuse => trivial

/-- A held reservation stays held, or is closed as its responses demand. -/
theorem Accounted.act {reservation : Reservation}
    (standing : Standing events before.ledger task phase)
    (held : phase.held = some reservation)
    (owned : before.ledger.reservations.get? reservation.id =
      some reservation.openRecord)
    (intact : budgetIntact (⟨task, op, outcome⟩ : GatewayEvent ι) = true)
    (effect : BudgetEffect gateway call before phase op outcome after moved) :
    moved.held = some reservation ∨ ∃ record,
      Accounted (events ++ [⟨task, op, outcome⟩]) after.ledger task
        reservation record := by
  cases effect with
  | @settle _ response operation modelId usage cacheHit required _ answered
      chargeable bounded success =>
      obtain ⟨record, found, -, rfl⟩ :=
        MemoryBudgetRepository.settle_ok success
      rw [answered] at standing held
      cases held
      rw [owned] at found
      cases found
      obtain ⟨pending, accepted⟩ := standing
      have status : ∀ {status}, status = (if required = true ∨
          usage.estimatedCostUsd > reservation.reservedCostUsd then
            ReservationStatus.reconciliationRequired
          else .settled) →
          status = .settled ∨ status = .reconciliationRequired := by
        rintro status rfl
        split_ifs
        · exact .inr rfl
        · exact .inl rfl
      refine .inr ⟨MemoryBudgetRepository.settledRecord
        reservation.openRecord usage required, ?_, ?_, ?_, ?_⟩
      · exact Dict.get?_set_self _ _ _
      · intro opened
        rcases status rfl with settled | settled
        · cases opened.symm.trans settled
        · cases opened.symm.trans settled
      · intro unanswered
        exact absurd (accepted_append.mpr (.inl accepted))
          (unanswered response)
      · intro _ _
        refine ⟨status rfl,
          ⟨reservation.correlationId, operation, modelId, usage, cacheHit⟩, ?_⟩
        have none := pending.usages
        unfold MemoryBudgetRepository.usagesOf at none
        simp [MemoryBudgetRepository.usagesOf, Reservation.openRecord, none]
  | release holding success =>
      obtain ⟨record, found, closing⟩ :=
        MemoryBudgetRepository.release_ok success
      rw [holding] at standing held
      cases held
      rw [owned] at found
      cases found
      obtain ⟨-, rfl⟩ | ⟨wrong, -⟩ := closing
      · obtain ⟨pending, unanswered⟩ := standing
        refine .inr ⟨MemoryBudgetRepository.releasedRecord
          reservation.openRecord, ?_, ?_, ?_, ?_⟩
        · exact Dict.get?_set_self _ _ _
        · intro opened
          cases opened
        · intro _
          exact ⟨rfl, pending.usages⟩
        · intro response accepted
          rcases accepted_append.mp accepted with earlier | ⟨-, accepts⟩
          · exact absurd earlier (unanswered task response)
          · cases accepts
      · exact absurd rfl wrong
  | respond holding same =>
      rw [holding] at held ⊢
      cases held
      left
      simp only [BudgetPhase.respond]
      split_ifs <;> rfl
  | steady => exact .inl held
  | interrupt _ closing =>
      rcases closing with rfl | ⟨_, _, _, _, _, rfl⟩
      · cases intact
      · cases intact
  | mint phased | reserve phased | recordCacheHit phased | refuse phased =>
      rw [phased] at held
      cases held

end Steps

/-! ## All runs -/

section Runs

variable [DecidableEq ι] {gateway : UpstageGateway}
  {calls : ι → GatewayCall} {before after : BudgetWorld}
  {phases : ι → BudgetPhase} {task : ι} {moved : BudgetPhase}
  {op : GatewayOp} {outcome : Except PyException (GatewayReply op)}
  {events : List (GatewayEvent ι)}

private theorem current_update
    (effect : BudgetEffect gateway (calls task) before (phases task) op
      outcome after moved) {other : ι} {id : Uuid}
    (under : (Function.update phases task moved other).current = some id) :
    (phases other).current = some id ∨
      other = task ∧ id ∉ before.issued ∧ id ∈ after.issued := by
  by_cases self : other = task
  · subst self
    rw [Function.update_self] at under
    rcases effect.current_inv under with earlier | fresh
    · exact .inl earlier
    · exact .inr ⟨rfl, fresh⟩
  · rw [Function.update_of_ne self] at under
    exact .inl under

theorem Traced.step (traced : Traced gateway calls events before phases)
    (owned : Owned before phases)
    (intact : budgetIntact (⟨task, op, outcome⟩ : GatewayEvent ι) = true)
    (effect : BudgetEffect gateway (calls task) before (phases task) op
      outcome after moved) :
    Traced gateway calls (events ++ [⟨task, op, outcome⟩]) after
      (Function.update phases task moved) := by
  have holds := owned.held task
  constructor
  · intro id unissued
    have earlier : id ∉ before.issued := fun known =>
      unissued (effect.issued_grows known)
    obtain ⟨unused, nobody⟩ := traced.fresh id earlier
    refine ⟨unused.frame effect (nobody task) holds, ?_⟩
    intro other under
    rcases current_update effect under with current | ⟨-, -, known⟩
    · exact nobody other current
    · exact unissued known
  · intro first second id underFirst underSecond
    rcases current_update effect underFirst with
      one | ⟨firstActs, unissued, -⟩
    · rcases current_update effect underSecond with other | ⟨-, unissued, -⟩
      · exact traced.distinct first second id one other
      · exact absurd one ((traced.fresh id unissued).2 first)
    · rcases current_update effect underSecond with
        other | ⟨secondActs, -, -⟩
      · exact absurd other ((traced.fresh id unissued).2 second)
      · rw [firstActs, secondActs]
  · intro other
    by_cases self : other = task
    · subst self
      rw [Function.update_self]
      exact (traced.standing other).act
        (fun id unissued => (traced.fresh id unissued).1) holds intact effect
    · rw [Function.update_of_ne self]
      refine (traced.standing other).frame effect ?_ holds
      intro id under current
      exact self (traced.distinct other task id under current)
  · intro opener reservation opened
    rcases opened_append.mp opened with earlier | ⟨rfl, opens⟩
    · by_cases current :
        (phases task).current = some reservation.correlationId
      · -- The reservation works under the identifier of the acting call.
        have own : opener = task ∧
            (phases task).held = some reservation := by
          have standing := traced.standing task
          cases phase : phases task with
          | idle | interrupted =>
              rw [phase] at current
              cases current
          | minted id =>
              rw [phase] at standing current
              cases current
              exact absurd rfl (standing.opened opener reservation earlier)
          | holding held =>
              rw [phase] at standing current
              obtain ⟨rfl, rfl⟩ := standing.1.sole opener reservation earlier
                (Option.some.inj current).symm
              exact ⟨rfl, rfl⟩
          | answered held response =>
              rw [phase] at standing current
              obtain ⟨rfl, rfl⟩ := standing.1.sole opener reservation earlier
                (Option.some.inj current).symm
              exact ⟨rfl, rfl⟩
        obtain ⟨rfl, held⟩ := own
        rw [Function.update_self]
        exact Accounted.act (traced.standing opener) held
          (holds reservation held) intact effect
      · rcases traced.accounted opener reservation earlier with
          held | ⟨record, accounted⟩
        · have different : opener ≠ task := by
            rintro rfl
            exact current (BudgetPhase.current_of_held held)
          rw [Function.update_of_ne different]
          exact .inl held
        · exact .inr ⟨record, accounted.frame effect
            (owned.ledgerStep effect) current holds⟩
    · left
      rw [Function.update_self, (effect.opening_inv opens).2]
      rfl
  · intro receiver id response accepted unchargeable
    rcases accepted_append.mp accepted with earlier | ⟨rfl, accepts⟩
    · obtain ⟨reservation, answered⟩ :=
        traced.stuck receiver id response earlier unchargeable
      by_cases self : receiver = task
      · subst self
        rw [Function.update_self]
        cases effect with
        | steady => exact ⟨reservation, answered⟩
        | settle phase chargeable bounded success =>
            rw [answered] at phase
            cases phase
            exact absurd chargeable unchargeable
        | interrupt held closing =>
            rcases closing with rfl | ⟨_, _, _, _, _, rfl⟩
            · cases intact
            · cases intact
        | mint phase | reserve phase | release phase | recordCacheHit phase
        | respond phase | refuse phase =>
            rw [answered] at phase
            cases phase
      · rw [Function.update_of_ne self]
        exact ⟨reservation, answered⟩
    · obtain ⟨reservation, -, -, answered⟩ := effect.acceptance_inv accepts
      rw [Function.update_self]
      exact ⟨reservation, answered⟩

omit [DecidableEq ι] in
theorem start_traced (initial : ℚ) :
    Traced gateway calls [] (gateway.start initial calls).shared
      fun _ => .idle := by
  constructor
  · intro id _
    refine ⟨⟨?_, ?_, rfl⟩, ?_⟩
    · rintro task reservation ⟨event, member, -⟩
      cases member
    · rintro task response ⟨event, member, -⟩
      cases member
    · intro task under
      cases under
  · intro first second id under
    cases under
  · intro task
    trivial
  · rintro task reservation ⟨event, member, -⟩
    cases member
  · rintro task id response ⟨event, member, -⟩
    cases member

/-- The outcome of a call that has ended. -/
def ended {Op : Type} {Reply : Op → Type} {ε α : Type} :
    Program Op Reply ε α → Option (Except ε α)
  | .ret value => some (.ok value)
  | .raise error => some (.error error)
  | .call _ _ => none

/-- All reservations of the call are closed as its responses demand. -/
def ClosesProperly (events : List (GatewayEvent ι))
    (ledger : MemoryBudgetRepository) (task : ι) : Prop :=
  ∀ reservation, Opened events task reservation →
    ∃ record, Accounted events ledger task reservation record

/-- A call that has ended has closed its reservations properly if and only if
every accepted response it got is chargeable. -/
theorem closes_properly_iff {initial : ℚ} {finish : GatewaySystem ι}
    (run : GatewayRun (gateway.start initial calls) events finish)
    (intact : ∀ event ∈ events, budgetIntact event = true)
    (done : (ended (finish.tasks task)).isSome) :
    ClosesProperly events finish.shared.ledger task ↔
      ∀ id response, Accepted events task id response →
        (calls task).Chargeable gateway response := by
  obtain ⟨phases, ⟨owned, traced⟩, followed⟩ := Concurrent.run_follows run
    (fun event => budgetIntact event = true) intact
    (fun task => (calls task).protocol gateway)
    (fun task => (calls task).Ends gateway)
    (fun history world phases => Owned world phases ∧
      Traced gateway calls history world phases)
    (start_following initial) ⟨start_owned initial, start_traced initial⟩ (by
      rintro history before current task op outcome after ⟨owned, traced⟩
        intact allowed performed
      obtain ⟨moved, moves, effect⟩ :=
        BudgetEffect.of_performs allowed performed
      exact ⟨moved, moves, owned.step effect,
        traced.step owned intact effect⟩)
  constructor
  · intro closes id response accepted
    by_contra unchargeable
    obtain ⟨reservation, answered⟩ :=
      traced.stuck task id response accepted unchargeable
    have standing := traced.standing task
    rw [answered] at standing
    obtain ⟨record, accounted⟩ := closes reservation standing.1.opened
    have open' := owned.held task reservation (by rw [answered]; rfl)
    rw [accounted.found] at open'
    cases open'
    exact accounted.closed rfl
  · intro chargeable reservation opened
    rcases traced.accounted task reservation opened with held | accounted
    · exfalso
      have follows := followed task
      cases program : finish.tasks task with
      | call op next =>
          rw [program] at done
          cases done
      | ret value =>
          rw [program] at follows
          have idle : phases task = .idle := follows
          rw [idle] at held
          cases held
      | raise error =>
          rw [program] at follows
          obtain ⟨response, answered, unchargeable⟩ := follows reservation held
          have standing := traced.standing task
          rw [answered] at standing
          exact unchargeable (chargeable _ response standing.2)
    · exact accounted

end Runs

/-- `{"usage": {"prompt_tokens": Infinity, ...}}`: the conversion to an
integer overflows, nothing is settled, and the reservation stays open. -/
theorem infinite_tokens_leak :
    let run := sampleRun (sampleResponse (.float .infinity) (.int 3))
    GatewayRun (sampleGateway.start (1 / 2) fun _ : Unit => sampleCall) run.1
        ⟨run.2.1, fun _ => Program.fromExcept run.2.2⟩ ∧
      (∀ event ∈ run.1, budgetIntact event = true) ∧
      (ended (Program.fromExcept run.2.2 : GatewayM GatewayResult)).isSome ∧
      ¬ ClosesProperly run.1 run.2.1.ledger () := by
  refine ⟨runAlone_run _ _ _, by decide +kernel, by decide +kernel, ?_⟩
  intro closes
  have opens : (sampleRun (sampleResponse (.float .infinity)
      (.int 3))).1.filterMap opening =
        [⟨⟨2⟩, ⟨1⟩, 33 / 10000, .open⟩] := by decide +kernel
  have member : (⟨⟨2⟩, ⟨1⟩, 33 / 10000, .open⟩ : Reservation) ∈
      (sampleRun (sampleResponse (.float .infinity)
        (.int 3))).1.filterMap opening := by simp [opens]
  obtain ⟨event, here, opened⟩ := List.mem_filterMap.mp member
  obtain ⟨record, accounted⟩ := closes _ ⟨event, here, rfl, opened⟩
  have status : ((sampleRun (sampleResponse (.float .infinity)
      (.int 3))).2.1.ledger.reservations.get? ⟨2⟩).map (·.status) =
        some .open := by decide +kernel
  have found := accounted.found
  rw [found] at status
  exact accounted.closed (Option.some.inj status)

/-- Seven and three reported tokens are settled. -/
theorem sample_closes_properly :
    ClosesProperly (sampleRun (sampleResponse (.int 7) (.int 3))).1
      (sampleRun (sampleResponse (.int 7) (.int 3))).2.1.ledger () := by
  have run := runAlone_run (sampleReplies (sampleResponse (.int 7) (.int 3)))
    (sampleGateway.call sampleCall) ⟨.init (1 / 2), []⟩
  refine (@closes_properly_iff Unit _ sampleGateway (fun _ => sampleCall) ()
    _ (1 / 2) _ run (by decide +kernel) (by decide +kernel)).mpr ?_
  rintro id response ⟨event, member, -, accepts⟩
  obtain ⟨request, replied⟩ := runAlone_acceptance member accepts
  cases replied
  intro raw decoded
  cases decoded
  refine ⟨(by rintro (same | same) <;> cases same), ?_⟩
  intro input inputRead
  cases inputRead
  refine ⟨(by rintro (same | same) <;> cases same), ?_⟩
  intro output outputRead _ _ inputRate outputRate known
  cases outputRead
  cases known
  exact ⟨13 / 10000, 143 / 100000, by decide +kernel, by decide +kernel⟩

end RagBench
