import RagBench.Core.Ledger
import RagBench.Providers.BudgetProtocol

/-!
# The hard budget cap

Any family of gateway calls runs concurrently over one ledger.  Identifiers
are fresh when they are generated.  An operation that raises, by itself or
because its task is cancelled, has no effect on the ledger: the body of each
ledger method runs without a suspension.
-/

namespace RagBench

open UpstageGateway

/-- The state the calls share; `issued` lists all identifiers so far. -/
structure BudgetWorld where
  ledger : MemoryBudgetRepository
  issued : List Uuid

namespace GatewayOp

/-- Operations outside the budget. -/
def External : GatewayOp → Prop
  | .cacheGet _ | .cachePut _ _ _ _ | .enterSingleflight _
  | .exitSingleflight _ | .now | .jitter _ | .sleep _ | .post _ => True
  | _ => False

def CanRaise (op : GatewayOp) : Prop :=
  op ≠ .uuid4 ∧ op ≠ .now

end GatewayOp

namespace BudgetWorld

/-- The outcomes an operation can have, and what it does. -/
inductive Performs (before : BudgetWorld) : (op : GatewayOp) →
    Except PyException (GatewayReply op) → BudgetWorld → Prop where
  | uuid4 {id : Uuid} (fresh : id ∉ before.issued) :
      Performs before .uuid4 (.ok id)
        { before with issued := id :: before.issued }
  | reserveAtomic {correlationId id : Uuid} {projectedCost hardLimit : ℚ}
      {reservation : Reservation} {ledger : MemoryBudgetRepository}
      (fresh : id ∉ before.issued)
      (success : before.ledger.reserveAtomic id correlationId projectedCost
        hardLimit = .ok (reservation, ledger)) :
      Performs before (.reserveAtomic correlationId projectedCost hardLimit)
        (.ok reservation) ⟨ledger, id :: before.issued⟩
  | settle {reservationId : Uuid} {operation : Operation} {modelId : String}
      {usage : Usage} {cacheHit reconciliationRequired : Bool}
      {ledger : MemoryBudgetRepository}
      (success : before.ledger.settle reservationId operation modelId usage
        cacheHit reconciliationRequired = .ok ledger) :
      Performs before
        (.settle reservationId operation modelId usage cacheHit
          reconciliationRequired) (.ok ()) { before with ledger := ledger }
  | release {reservationId : Uuid} {ledger : MemoryBudgetRepository}
      (success : before.ledger.release reservationId = .ok ledger) :
      Performs before (.release reservationId) (.ok ())
        { before with ledger := ledger }
  | recordCacheHit {correlationId : Uuid} {operation : Operation}
      {modelId : String} {usage : Usage} {ledger : MemoryBudgetRepository}
      (success : before.ledger.recordCacheHit correlationId operation modelId
        usage = .ok ledger) :
      Performs before (.recordCacheHit correlationId operation modelId usage)
        (.ok ()) { before with ledger := ledger }
  | reply {op : GatewayOp} (value : GatewayReply op)
      (external : op.External) : Performs before op (.ok value) before
  | raise {op : GatewayOp} (error : PyException) (can : op.CanRaise) :
      Performs before op (.error error) before

end BudgetWorld

abbrev GatewaySystem (ι : Type) :=
  Concurrent ι GatewayOp GatewayReply PyException GatewayResult BudgetWorld

abbrev GatewayEvent (ι : Type) :=
  Completion ι GatewayOp GatewayReply PyException

/-- The calls before their first step, over a fresh ledger. -/
def UpstageGateway.start {ι : Type} (gateway : UpstageGateway)
    (initial : ℚ) (calls : ι → GatewayCall) : GatewaySystem ι :=
  { shared := ⟨.init initial, []⟩
    tasks := fun task => gateway.call (calls task) }

/-- Any interleaving of the calls. -/
abbrev GatewayRun {ι : Type} [DecidableEq ι] (start : GatewaySystem ι)
    (events : List (GatewayEvent ι)) (finish : GatewaySystem ι) : Prop :=
  Run (Concurrent.Step BudgetWorld.Performs) start events finish

/-! ## A call running alone -/

namespace BudgetWorld

/-- An identifier that has not been issued. -/
def nextUuid (world : BudgetWorld) : Uuid :=
  ⟨(world.issued.map (·.value)).sum + 1⟩

theorem nextUuid_fresh (world : BudgetWorld) :
    world.nextUuid ∉ world.issued := by
  intro member
  have bound := List.single_le_sum (l := world.issued.map (·.value))
    (by simp) _ (List.mem_map_of_mem member)
  simp [nextUuid] at bound

/-- Perform an operation; `respond` answers for what is outside. -/
def perform (world : BudgetWorld)
    (respond : (op : GatewayOp) → Except PyException (GatewayReply op)) :
    (op : GatewayOp) → Except PyException (GatewayReply op) × BudgetWorld
  | .uuid4 =>
      (.ok world.nextUuid,
        { world with issued := world.nextUuid :: world.issued })
  | .now => (.ok 0, world)
  | .reserveAtomic correlationId projectedCost hardLimit =>
      match world.ledger.reserveAtomic world.nextUuid correlationId
          projectedCost hardLimit with
      | .ok (reservation, ledger) =>
          (.ok reservation, ⟨ledger, world.nextUuid :: world.issued⟩)
      | .error error => (.error error, world)
  | .settle reservationId operation modelId usage cacheHit required =>
      match world.ledger.settle reservationId operation modelId usage cacheHit
          required with
      | .ok ledger => (.ok (), { world with ledger := ledger })
      | .error error => (.error error, world)
  | .release reservationId =>
      match world.ledger.release reservationId with
      | .ok ledger => (.ok (), { world with ledger := ledger })
      | .error error => (.error error, world)
  | .recordCacheHit correlationId operation modelId usage =>
      match world.ledger.recordCacheHit correlationId operation modelId
          usage with
      | .ok ledger => (.ok (), { world with ledger := ledger })
      | .error error => (.error error, world)
  | op => (respond op, world)

theorem performs_perform (world : BudgetWorld)
    (respond : (op : GatewayOp) → Except PyException (GatewayReply op))
    (op : GatewayOp) :
    world.Performs op (world.perform respond op).1
      (world.perform respond op).2 := by
  have outside : ∀ op : GatewayOp, op.External → op.CanRaise →
      world.Performs op (respond op) world := by
    intro op external can
    cases respond op with
    | ok value => exact .reply value external
    | error error => exact .raise error can
  cases op with
  | uuid4 => exact .uuid4 world.nextUuid_fresh
  | now => exact @Performs.reply world .now (0 : ℤ) trivial
  | reserveAtomic =>
      simp only [perform]
      split
      · rename_i success
        exact .reserveAtomic world.nextUuid_fresh success
      · exact .raise _ ⟨nofun, nofun⟩
  | settle | release | recordCacheHit =>
      simp only [perform]
      split
      · rename_i success
        constructor
        exact success
      · exact .raise _ ⟨nofun, nofun⟩
  | cacheGet | cachePut | enterSingleflight | exitSingleflight | jitter
  | sleep | post => exact outside _ trivial ⟨nofun, nofun⟩

end BudgetWorld

/-- Run a program alone: what happens, the last world and the outcome. -/
def runAlone {α : Type}
    (respond : (op : GatewayOp) → Except PyException (GatewayReply op)) :
    GatewayM α → BudgetWorld →
      List (GatewayEvent Unit) × BudgetWorld × Except PyException α
  | .ret value, world => ([], world, .ok value)
  | .raise error, world => ([], world, .error error)
  | .call op next, world =>
      let (outcome, after) := world.perform respond op
      let (events, last, result) := runAlone respond (next outcome) after
      (⟨(), op, outcome⟩ :: events, last, result)

theorem runAlone_run
    (respond : (op : GatewayOp) → Except PyException (GatewayReply op))
    (program : GatewayM GatewayResult) (world : BudgetWorld) :
    GatewayRun ⟨world, fun _ => program⟩ (runAlone respond program world).1
      ⟨(runAlone respond program world).2.1, fun _ =>
        Program.fromExcept (runAlone respond program world).2.2⟩ := by
  induction program generalizing world with
  | ret value => exact .refl
  | raise error => exact .refl
  | call op next induction =>
      have performed := world.performs_perform respond op
      have same : Function.update
          (fun _ : Unit => Program.call op next) ()
            (next (world.perform respond op).1) =
          fun _ => next (world.perform respond op).1 := by
        funext task
        exact Function.update_self _ _ _
      have first : Concurrent.Step BudgetWorld.Performs
          ⟨world, fun _ => Program.call op next⟩
          ⟨(), op, (world.perform respond op).1⟩
          ⟨(world.perform respond op).2,
            fun _ => next (world.perform respond op).1⟩ := by
        rw [← same]
        exact .mk rfl performed
      exact Run.cons first (induction _ _)

/-! ## A small configuration -/

def sampleCall : GatewayCall :=
  .generate
    { modelId := "solar"
      prompt := "question"
      inputTokens := 10
      maxOutputTokens := some 10 }

/-- A generation response which reports the given tokens. -/
def sampleResponse (prompt completion : Json) : HttpResponse :=
  { statusCode := 200
    json := .ok (.object
      [("choices", .array [.object
          [("message", .object [("content", .str "answer")])]]),
        ("usage", .object
          [("prompt_tokens", prompt), ("completion_tokens", completion)])]) }

/-- An empty cache, and one response to every request. -/
def sampleReplies (response : HttpResponse) :
    (op : GatewayOp) → Except PyException (GatewayReply op)
  | .cacheGet _ => .ok none
  | .cachePut _ _ _ _ => .ok ()
  | .enterSingleflight _ => .ok ()
  | .exitSingleflight _ => .ok ()
  | .sleep _ => .ok ()
  | .jitter upper => .ok upper
  | .post _ => .ok response
  | _ => .error (.runtimeError "not an outside operation")

/-- The sample call, alone, on a ledger with one half already spent. -/
def sampleRun (response : HttpResponse) :
    List (GatewayEvent Unit) × BudgetWorld ×
      Except PyException GatewayResult :=
  runAlone (sampleReplies response) (sampleGateway.call sampleCall)
    ⟨.init (1 / 2), []⟩

/-! ## What an allowed operation does -/

/-- Everything an operation which the protocol allows can do to the world and
to the phase of its call. -/
inductive BudgetEffect (gateway : UpstageGateway) (call : GatewayCall)
    (before : BudgetWorld) (phase : BudgetPhase) : (op : GatewayOp) →
    Except PyException (GatewayReply op) → BudgetWorld → BudgetPhase → Prop
    where
  | mint {id : Uuid} (idle : phase = .idle) (fresh : id ∉ before.issued) :
      BudgetEffect gateway call before phase .uuid4 (.ok id)
        { before with issued := id :: before.issued } (.minted id)
  | reserve {correlationId id : Uuid} {projectedCost : ℚ}
      {reservation : Reservation} {ledger : MemoryBudgetRepository}
      (minted : phase = .minted correlationId) (nonneg : 0 ≤ projectedCost)
      (fresh : id ∉ before.issued)
      (success : before.ledger.reserveAtomic id correlationId projectedCost
        gateway.hardLimit = .ok (reservation, ledger)) :
      BudgetEffect gateway call before phase
        (.reserveAtomic correlationId projectedCost gateway.hardLimit)
        (.ok reservation) ⟨ledger, id :: before.issued⟩ (.holding reservation)
  | settle {reservation : Reservation} {response : HttpResponse}
      {operation : Operation} {modelId : String} {usage : Usage}
      {cacheHit reconciliationRequired : Bool}
      {ledger : MemoryBudgetRepository}
      (answered : phase = .answered reservation response)
      (chargeable : call.Chargeable gateway response)
      (bounded : gateway.priceBook.Nonneg →
        call.WithinBounds gateway response →
          usage.estimatedCostUsd ≤ reservation.reservedCostUsd)
      (success : before.ledger.settle reservation.id operation modelId usage
        cacheHit reconciliationRequired = .ok ledger) :
      BudgetEffect gateway call before phase
        (.settle reservation.id operation modelId usage cacheHit
          reconciliationRequired) (.ok ())
        { before with ledger := ledger } .idle
  | release {reservation : Reservation} {ledger : MemoryBudgetRepository}
      (holding : phase = .holding reservation)
      (success : before.ledger.release reservation.id = .ok ledger) :
      BudgetEffect gateway call before phase (.release reservation.id)
        (.ok ()) { before with ledger := ledger } .idle
  | recordCacheHit {correlationId : Uuid} {operation : Operation}
      {modelId : String} {usage : Usage} {ledger : MemoryBudgetRepository}
      (minted : phase = .minted correlationId)
      (success : before.ledger.recordCacheHit correlationId operation modelId
        usage = .ok ledger) :
      BudgetEffect gateway call before phase
        (.recordCacheHit correlationId operation modelId usage) (.ok ())
        { before with ledger := ledger } .idle
  | respond {reservation : Reservation} {request : HttpRequest}
      {response : HttpResponse} (holding : phase = .holding reservation)
      (same : reservation.correlationId = request.correlationId) :
      BudgetEffect gateway call before phase (.post request) (.ok response)
        before (phase.respond response)
  | steady {op : GatewayOp} {outcome : Except PyException (GatewayReply op)}
      (external : op.External)
      (unanswered : ∀ request, op = .post request →
        ∃ error, outcome = .error error) :
      BudgetEffect gateway call before phase op outcome before phase
  | refuse {op : GatewayOp} {correlationId : Uuid} {error : PyException}
      (minted : phase = .minted correlationId) :
      BudgetEffect gateway call before phase op (.error error) before .idle
  | interrupt {op : GatewayOp} {reservation : Reservation}
      {error : PyException} (held : phase.held = some reservation)
      (closing : op = .release reservation.id ∨
        ∃ operation modelId usage cacheHit reconciliationRequired,
          op = .settle reservation.id operation modelId usage cacheHit
            reconciliationRequired) :
      BudgetEffect gateway call before phase op (.error error) before
        .interrupted

theorem BudgetEffect.of_performs {gateway : UpstageGateway}
    {call : GatewayCall} {before after : BudgetWorld} {phase : BudgetPhase}
    {op : GatewayOp} {outcome : Except PyException (GatewayReply op)}
    (allowed : (call.protocol gateway).allows phase op)
    (performed : before.Performs op outcome after) :
    ∃ moved, (call.protocol gateway).moves phase op outcome moved ∧
      BudgetEffect gateway call before phase op outcome after moved := by
  cases performed with
  | uuid4 fresh => exact ⟨_, rfl, .mint allowed fresh⟩
  | reserveAtomic fresh success =>
      obtain ⟨minted, nonneg, rfl⟩ := allowed
      obtain ⟨-, rfl, -⟩ := MemoryBudgetRepository.reserveAtomic_ok success
      exact ⟨_, ⟨rfl, rfl, rfl⟩, .reserve minted nonneg fresh success⟩
  | settle success =>
      obtain ⟨reservation, response, answered, rfl, chargeable, bounded⟩ :=
        allowed
      exact ⟨_, rfl, .settle answered chargeable bounded success⟩
  | release success =>
      obtain ⟨reservation, holding, rfl⟩ := allowed
      exact ⟨_, rfl, .release holding success⟩
  | recordCacheHit success =>
      exact ⟨_, rfl, .recordCacheHit allowed success⟩
  | reply value external =>
      cases op with
      | post request =>
          obtain ⟨reservation, holding, same⟩ := allowed
          exact ⟨_, rfl, .respond holding same⟩
      | cacheGet | cachePut | enterSingleflight | exitSingleflight | now
      | jitter | sleep => exact ⟨phase, rfl, .steady trivial (by simp)⟩
      | uuid4 | reserveAtomic | settle | release | recordCacheHit =>
          exact external.elim
  | raise error can =>
      cases op with
      | uuid4 => exact absurd rfl can.1
      | now => exact absurd rfl can.2
      | cacheGet | cachePut | enterSingleflight | exitSingleflight
      | jitter | sleep | post =>
          exact ⟨phase, rfl, .steady trivial fun _ _ => ⟨error, rfl⟩⟩
      | reserveAtomic =>
          exact ⟨.idle, rfl, .refuse allowed.1⟩
      | recordCacheHit => exact ⟨.idle, rfl, .refuse allowed⟩
      | settle =>
          obtain ⟨reservation, response, answered, rfl, -⟩ := allowed
          exact ⟨.interrupted, rfl, .interrupt (by rw [answered]; rfl)
            (.inr ⟨_, _, _, _, _, rfl⟩)⟩
      | release =>
          obtain ⟨reservation, holding, rfl⟩ := allowed
          exact ⟨.interrupted, rfl, .interrupt (by rw [holding]; rfl)
            (.inl rfl)⟩

/-! ## Reservations belong to calls -/

/-- The record of a reservation nobody has closed. -/
def Reservation.openRecord (reservation : Reservation) : MemoryReservation :=
  ⟨reservation.id, reservation.correlationId, reservation.reservedCostUsd,
    .open, none⟩

/-- A held reservation is open in the ledger and held by one call only. -/
structure Owned {ι : Type} (world : BudgetWorld) (phases : ι → BudgetPhase) :
    Prop where
  known : ∀ id record,
    world.ledger.reservations.get? id = some record → id ∈ world.issued
  held : ∀ task reservation, (phases task).held = some reservation →
    world.ledger.reservations.get? reservation.id =
      some reservation.openRecord
  unique : ∀ first second one other,
    (phases first).held = some one → (phases second).held = some other →
      one.id = other.id → first = second

namespace Owned

variable {ι : Type} {gateway : UpstageGateway} {call : GatewayCall}
  {before after : BudgetWorld} {phases : ι → BudgetPhase} {task : ι}
  {moved : BudgetPhase}

theorem fresh (owned : Owned before phases) {id : Uuid}
    (unused : id ∉ before.issued) :
    before.ledger.reservations.get? id = none := by
  cases found : before.ledger.reservations.get? id with
  | none => rfl
  | some record => exact absurd (owned.known id record found) unused

/-- What the ledger makes of the reservation which `settle` closes. -/
theorem settled (owned : Owned before phases)
    {reservation : Reservation} {operation : Operation} {modelId : String}
    {usage : Usage} {cacheHit reconciliationRequired : Bool}
    {ledger : MemoryBudgetRepository}
    (held : (phases task).held = some reservation)
    (success : before.ledger.settle reservation.id operation modelId usage
      cacheHit reconciliationRequired = .ok ledger) :
    ledger =
      { settledCost := before.ledger.settledCost + usage.estimatedCostUsd
        reservations := before.ledger.reservations.set reservation.id
          (MemoryBudgetRepository.settledRecord reservation.openRecord usage
            reconciliationRequired)
        usages := before.ledger.usages ++
          [⟨reservation.correlationId, operation, modelId, usage,
            cacheHit⟩] } := by
  obtain ⟨record, found, -, rfl⟩ := MemoryBudgetRepository.settle_ok success
  rw [owned.held task reservation held] at found
  cases found
  rfl

/-- What the ledger makes of the reservation which `release` closes. -/
theorem released (owned : Owned before phases) {reservation : Reservation}
    {ledger : MemoryBudgetRepository}
    (held : (phases task).held = some reservation)
    (success : before.ledger.release reservation.id = .ok ledger) :
    ledger = { before.ledger with
      reservations := before.ledger.reservations.set reservation.id
        (MemoryBudgetRepository.releasedRecord reservation.openRecord) } := by
  obtain ⟨record, found, cases⟩ := MemoryBudgetRepository.release_ok success
  rw [owned.held task reservation held] at found
  cases found
  rcases cases with ⟨-, rfl⟩ | ⟨closed, -⟩
  · rfl
  · exact absurd rfl closed

/-- What the protocol allows is a step of the ledger. -/
theorem ledgerStep (owned : Owned before phases) {op : GatewayOp}
    {outcome : Except PyException (GatewayReply op)}
    (effect : BudgetEffect gateway call before (phases task) op outcome after
      moved) : LedgerStep gateway.hardLimit before.ledger after.ledger := by
  cases effect with
  | reserve minted nonneg fresh success =>
      exact .reserve nonneg (owned.fresh fresh) success
  | settle answered chargeable bounded success => exact .settle success
  | release holding success => exact .release success
  | recordCacheHit minted success => exact .recordCacheHit success
  | mint | respond | steady | refuse | interrupt => exact .idle

variable [DecidableEq ι]

/-- Steps that leave the reservations alone and take nothing new. -/
private theorem keep (owned : Owned before phases)
    (same : after.ledger.reservations = before.ledger.reservations)
    (grows : ∀ id ∈ before.issued, id ∈ after.issued)
    (keeps : ∀ reservation, moved.held = some reservation →
      (phases task).held = some reservation) :
    Owned after (Function.update phases task moved) := by
  have earlier : ∀ other reservation,
      (Function.update phases task moved other).held = some reservation →
        (phases other).held = some reservation := by
    intro other reservation held
    by_cases self : other = task
    · subst self
      simpa using keeps reservation (by simpa using held)
    · simpa [Function.update_of_ne self] using held
  constructor
  · intro id record found
    rw [same] at found
    exact grows id (owned.known id record found)
  · intro other reservation held
    rw [same]
    exact owned.held other reservation (earlier other reservation held)
  · intro first second one other heldOne heldOther
    exact owned.unique first second one other (earlier _ _ heldOne)
      (earlier _ _ heldOther)

/-- The call takes a reservation with a fresh identifier. -/
private theorem take (owned : Owned before phases) {id : Uuid}
    {ledger : MemoryBudgetRepository} {reservation : Reservation}
    (unused : id ∉ before.issued) (identified : reservation.id = id)
    (taken : ledger.reservations =
      before.ledger.reservations.set id reservation.openRecord) :
    Owned ⟨ledger, id :: before.issued⟩
      (Function.update phases task (.holding reservation)) := by
  have others : ∀ other current,
      other ≠ task →
      (Function.update phases task (.holding reservation) other).held =
        some current → (phases other).held = some current ∧
          id ≠ current.id := by
    intro other current different held
    rw [Function.update_of_ne different] at held
    refine ⟨held, ?_⟩
    rintro rfl
    have found := owned.held other current held
    rw [owned.fresh unused] at found
    cases found
  constructor
  · intro other record found
    by_cases same : id = other
    · simp [same]
    · rw [taken, Dict.get?_set_of_ne _ _ same] at found
      exact List.mem_cons_of_mem _ (owned.known other record found)
  · intro other current held
    rw [taken]
    by_cases self : other = task
    · subst self
      obtain rfl : reservation = current := by
        simpa [BudgetPhase.held] using held
      rw [identified]
      exact Dict.get?_set_self _ _ _
    · obtain ⟨earlier, different⟩ := others other current self held
      rw [Dict.get?_set_of_ne _ _ different]
      exact owned.held other current earlier
  · intro first second one other heldOne heldOther same
    by_cases firstSelf : first = task
    · by_cases secondSelf : second = task
      · rw [firstSelf, secondSelf]
      · subst firstSelf
        obtain rfl : reservation = one := by
          simpa [BudgetPhase.held] using heldOne
        exact absurd (identified.symm.trans same)
          (others second other secondSelf heldOther).2
    · by_cases secondSelf : second = task
      · subst secondSelf
        obtain rfl : reservation = other := by
          simpa [BudgetPhase.held] using heldOther
        exact absurd (identified.symm.trans same.symm)
          (others first one firstSelf heldOne).2
      · exact owned.unique first second one other
          (others first one firstSelf heldOne).1
          (others second other secondSelf heldOther).1 same

/-- The call closes the reservation it holds. -/
private theorem close (owned : Owned before phases)
    {ledger : MemoryBudgetRepository} {reservation : Reservation}
    {record : MemoryReservation}
    (held : (phases task).held = some reservation)
    (closed : ledger.reservations =
      before.ledger.reservations.set reservation.id record) :
    Owned { before with ledger := ledger }
      (Function.update phases task .idle) := by
  have others : ∀ other current,
      (Function.update phases task .idle other).held = some current →
        (phases other).held = some current ∧
          reservation.id ≠ current.id := by
    intro other current holds
    by_cases self : other = task
    · subst self
      simp [BudgetPhase.held] at holds
    · rw [Function.update_of_ne self] at holds
      refine ⟨holds, fun same => self ?_⟩
      exact owned.unique other task current reservation holds held same.symm
  constructor
  · intro id current found
    by_cases same : reservation.id = id
    · subst same
      exact owned.known _ _ (owned.held task reservation held)
    · rw [closed, Dict.get?_set_of_ne _ _ same] at found
      exact owned.known id current found
  · intro other current holds
    obtain ⟨earlier, different⟩ := others other current holds
    rw [closed, Dict.get?_set_of_ne _ _ different]
    exact owned.held other current earlier
  · intro first second one other heldOne heldOther same
    exact owned.unique first second one other (others first one heldOne).1
      (others second other heldOther).1 same

theorem step (owned : Owned before phases) {op : GatewayOp}
    {outcome : Except PyException (GatewayReply op)}
    (effect : BudgetEffect gateway call before (phases task) op outcome after
      moved) : Owned after (Function.update phases task moved) := by
  cases effect with
  | mint idle fresh =>
      exact owned.keep rfl (fun id known => List.mem_cons_of_mem _ known)
        (by simp [BudgetPhase.held])
  | reserve minted nonneg fresh success =>
      obtain ⟨-, rfl, rfl⟩ := MemoryBudgetRepository.reserveAtomic_ok success
      exact owned.take fresh rfl rfl
  | @settle reservation _ _ _ _ _ _ _ answered chargeable bounded success =>
      have held : (phases task).held = some reservation := by
        rw [answered]
        rfl
      have equality := owned.settled held success
      subst equality
      exact owned.close held rfl
  | @release reservation _ holding success =>
      have held : (phases task).held = some reservation := by
        rw [holding]
        rfl
      have equality := owned.released held success
      subst equality
      exact owned.close held rfl
  | recordCacheHit minted success =>
      obtain ⟨-, rfl⟩ := MemoryBudgetRepository.recordCacheHit_ok success
      exact owned.keep rfl (fun _ known => known) (by simp [BudgetPhase.held])
  | respond holding same =>
      apply owned.keep rfl (fun _ known => known)
      intro reservation
      rw [holding]
      simp only [BudgetPhase.respond]
      split_ifs <;> exact id
  | steady => exact owned.keep rfl (fun _ known => known) fun _ held => held
  | refuse | interrupt =>
      exact owned.keep rfl (fun _ known => known) (by simp [BudgetPhase.held])

end Owned

/-! ## The cap -/

section Runs

variable {ι : Type} {gateway : UpstageGateway} {calls : ι → GatewayCall}

/-- The calls stand where the phases say. -/
def Following (gateway : UpstageGateway) (calls : ι → GatewayCall)
    (system : GatewaySystem ι) (phases : ι → BudgetPhase) : Prop :=
  ∀ task, (system.tasks task).Follows ((calls task).protocol gateway)
    ((calls task).Ends gateway) (phases task)

theorem start_following (initial : ℚ) :
    Following gateway calls (gateway.start initial calls) fun _ => .idle :=
  fun task => follows_call (calls task)

theorem start_owned (initial : ℚ) :
    Owned (gateway.start initial calls).shared
      (fun _ : ι => BudgetPhase.idle) := by
  constructor
  · intro id record found
    simp [UpstageGateway.start, MemoryBudgetRepository.init] at found
  · intro task reservation held
    cases held
  · intro first second one other held
    cases held

variable [DecidableEq ι] {start finish : GatewaySystem ι}
  {events : List (GatewayEvent ι)}

/-- What every ledger step preserves holds after every interleaving. -/
theorem ledger_invariant (run : GatewayRun start events finish)
    {phases : ι → BudgetPhase} (following : Following gateway calls start phases)
    (owned : Owned start.shared phases)
    (assertion : MemoryBudgetRepository → Prop)
    (base : assertion start.shared.ledger)
    (keep : ∀ before after, assertion before →
      LedgerStep gateway.hardLimit before after → assertion after) :
    ∃ phases, Following gateway calls finish phases ∧
      Owned finish.shared phases ∧ assertion finish.shared.ledger := by
  obtain ⟨locals, ⟨ownedLast, holds⟩, followed⟩ := Concurrent.run_follows run
    (fun _ => True) (fun _ _ => trivial)
    (fun task => (calls task).protocol gateway)
    (fun task => (calls task).Ends gateway)
    (fun _ world phases => Owned world phases ∧ assertion world.ledger)
    following ⟨owned, base⟩ (by
      rintro _ before current task op outcome after ⟨owned, holds⟩ -
        allowed performed
      obtain ⟨moved, moves, effect⟩ :=
        BudgetEffect.of_performs allowed performed
      exact ⟨moved, moves, owned.step effect,
        keep _ _ holds (owned.ledgerStep effect)⟩)
  exact ⟨locals, followed, ownedLast, holds⟩

/-- The accepted response an event brings, and what it answers. -/
def acceptance {ι : Type} (event : GatewayEvent ι) :
    Option (Uuid × HttpResponse) :=
  match event with
  | ⟨_, .post request, .ok response⟩ =>
      if response.accepted then some (request.correlationId, response)
      else none
  | _ => none

/-- What the provider reports stays within what the call reserved. -/
def ReportsWithin {ι : Type} (gateway : UpstageGateway)
    (calls : ι → GatewayCall) (event : GatewayEvent ι) : Prop :=
  ∀ correlationId response,
    acceptance event = some (correlationId, response) →
      (calls event.task).WithinBounds gateway response

/-- Every call that has its response has it within bounds. -/
def AnsweredWithin {ι : Type} (gateway : UpstageGateway)
    (calls : ι → GatewayCall) (phases : ι → BudgetPhase) : Prop :=
  ∀ task reservation response,
    phases task = .answered reservation response →
      (calls task).WithinBounds gateway response

theorem answeredWithin_step {phases : ι → BudgetPhase}
    (within : AnsweredWithin gateway calls phases) {task : ι}
    {op : GatewayOp} {outcome : Except PyException (GatewayReply op)}
    {before after : BudgetWorld} {moved : BudgetPhase}
    (reports : ReportsWithin gateway calls ⟨task, op, outcome⟩)
    (effect : BudgetEffect gateway (calls task) before (phases task) op
      outcome after moved) :
    AnsweredWithin gateway calls (Function.update phases task moved) := by
  intro other reservation response answered
  by_cases self : other = task
  · subst self
    rw [Function.update_self] at answered
    cases effect with
    | steady => exact within other reservation response answered
    | respond holding same =>
        rw [holding] at answered
        simp only [BudgetPhase.respond] at answered
        split_ifs at answered with accepted
        cases answered
        exact reports _ response (if_pos accepted)
    | mint | reserve | settle | release | recordCacheHit | refuse
    | interrupt => cases answered
  · rw [Function.update_of_ne self] at answered
    exact within other reservation response answered

omit [DecidableEq ι] in
open MemoryBudgetRepository in
/-- Settling within bounds never overruns a reservation. -/
theorem no_overrun_step {phases : ι → BudgetPhase} {task : ι}
    {op : GatewayOp} {outcome : Except PyException (GatewayReply op)}
    {before after : BudgetWorld} {moved : BudgetPhase}
    (nonneg : gateway.priceBook.Nonneg)
    (within : AnsweredWithin gateway calls phases)
    (owned : Owned before phases) (none : before.ledger.totalOverrun = 0)
    (effect : BudgetEffect gateway (calls task) before (phases task) op
      outcome after moved) : after.ledger.totalOverrun = 0 := by
  cases effect with
  | reserve minted nonneg fresh success =>
      obtain ⟨-, rfl, rfl⟩ := reserveAtomic_ok success
      rw [totalOverrun_set, none, owned.fresh fresh]
      simp [MemoryReservation.overrun]
  | @settle reservation response _ _ usage _ _ _ answered chargeable bounded
      success =>
      have held : (phases task).held = some reservation := by
        rw [answered]
        rfl
      have equality := owned.settled held success
      subst equality
      have covered : usage.estimatedCostUsd ≤ reservation.reservedCostUsd :=
        bounded nonneg (within task reservation response answered)
      have exact : max 0 (usage.estimatedCostUsd -
          reservation.reservedCostUsd) = 0 :=
        max_eq_left (sub_nonpos.mpr covered)
      rw [totalOverrun_set, none, owned.held task reservation held]
      simp only [settledRecord, Reservation.openRecord,
        MemoryReservation.overrun, Option.map_some, Option.getD_some, exact]
      split_ifs <;> simp_all
  | @release reservation _ holding success =>
      have held : (phases task).held = some reservation := by
        rw [holding]
        rfl
      have equality := owned.released held success
      subst equality
      rw [totalOverrun_set, none, owned.held task reservation held]
      simp [releasedRecord, Reservation.openRecord, MemoryReservation.overrun]
  | recordCacheHit minted success =>
      obtain ⟨-, rfl⟩ := recordCacheHit_ok success
      exact none
  | mint | respond | steady | refuse | interrupt => exact none

/-- Within the reported bounds no settlement exceeds its reservation. -/
theorem no_overrun {initial : ℚ}
    (run : GatewayRun (gateway.start initial calls) events finish)
    (nonneg : gateway.priceBook.Nonneg)
    (reports : ∀ event ∈ events, ReportsWithin gateway calls event) :
    finish.shared.ledger.totalOverrun = 0 := by
  obtain ⟨locals, ⟨-, -, overrun⟩, -⟩ := Concurrent.run_follows run
    (ReportsWithin gateway calls) reports
    (fun task => (calls task).protocol gateway)
    (fun task => (calls task).Ends gateway)
    (fun _ world phases => Owned world phases ∧
      AnsweredWithin gateway calls phases ∧ world.ledger.totalOverrun = 0)
    (start_following initial)
    ⟨start_owned initial,
      (by intro task reservation response answered; cases answered), rfl⟩ (by
      rintro _ before current task op outcome after ⟨owned, within, none⟩
        reported allowed performed
      obtain ⟨moved, moves, effect⟩ :=
        BudgetEffect.of_performs allowed performed
      exact ⟨moved, moves, owned.step effect,
        answeredWithin_step within reported effect,
        no_overrun_step nonneg within owned none effect⟩)
  exact overrun

/-- A closed reservation stays as it is in all later states. -/
theorem closed_forever {initial : ℚ} {later : GatewaySystem ι}
    {more : List (GatewayEvent ι)}
    (run : GatewayRun (gateway.start initial calls) events finish)
    (continued : GatewayRun finish more later) {id : Uuid}
    {record : MemoryReservation}
    (found : finish.shared.ledger.reservations.get? id = some record)
    (closed : record.status ≠ .open) :
    later.shared.ledger.reservations.get? id = some record := by
  obtain ⟨phases, following, owned, -⟩ := ledger_invariant run
    (start_following initial) (start_owned initial) (fun _ => True) trivial
    (fun _ _ _ _ => trivial)
  obtain ⟨-, -, -, stays⟩ := ledger_invariant continued following owned
    (fun ledger => ledger.reservations.get? id = some record) found
    (fun before after kept performed => performed.closed_stays kept closed)
  exact stays

theorem hard_budget_cap {initial : ℚ} (below : initial < gateway.hardLimit)
    (run : GatewayRun (gateway.start initial calls) events finish) :
    let ledger := finish.shared.ledger
    ledger.settledCost = initial + ledger.usageCost ∧
      (∀ more later id record, GatewayRun finish more later →
        ledger.reservations.get? id = some record → record.status ≠ .open →
          later.shared.ledger.reservations.get? id = some record) ∧
      ledger.settledCost + ledger.openCost ≤
        gateway.hardLimit + ledger.totalOverrun ∧
      (gateway.priceBook.Nonneg →
        (∀ event ∈ events, ReportsWithin gateway calls event) →
          ledger.settledCost + ledger.openCost < gateway.hardLimit) := by
  obtain ⟨-, -, -, balanced⟩ := ledger_invariant run
    (start_following initial) (start_owned initial)
    (Balanced initial gateway.hardLimit) (Balanced.init below)
    (fun _ _ balanced performed => balanced.step performed)
  refine ⟨balanced.accounted, ?_, balanced.capped.le, ?_⟩
  · intro more later id record continued found closed
    exact closed_forever run continued found closed
  · intro nonneg reports
    have capped := balanced.capped
    rw [no_overrun run nonneg reports, add_zero] at capped
    exact capped

end Runs

/-- Alone, a program accepts only what its environment answers. -/
theorem runAlone_acceptance {α : Type}
    {respond : (op : GatewayOp) → Except PyException (GatewayReply op)}
    {program : GatewayM α} {world : BudgetWorld} {event : GatewayEvent Unit}
    (member : event ∈ (runAlone respond program world).1) {id : Uuid}
    {response : HttpResponse}
    (accepts : acceptance event = some (id, response)) :
    ∃ request, respond (.post request) = .ok response := by
  induction program generalizing world with
  | ret value => cases member
  | raise error => cases member
  | call op next induction =>
      rcases List.mem_cons.mp member with rfl | later
      · cases op with
        | post request =>
            refine ⟨request, ?_⟩
            change acceptance ⟨(), .post request,
              respond (.post request)⟩ = _ at accepts
            cases replied : respond (.post request) with
            | error error =>
                rw [replied] at accepts
                cases accepts
            | ok reply =>
                rw [replied] at accepts
                simp only [acceptance] at accepts
                split_ifs at accepts
                cases accepts
                rfl
        | _ => cases accepts
      · exact induction _ later

theorem sampleGateway_nonneg : sampleGateway.priceBook.Nonneg := by
  intro modelId model found
  have entries := (Dict.get?_eq_some_iff _).mp found
  obtain ⟨rfl, rfl⟩ : modelId = "solar" ∧ model = _ := by
    simpa [sampleGateway, Dict.ofList, Dict.set, Dict.assign, Dict.empty]
      using entries
  constructor
  · intro modes mode rate none
    cases none
  · intro rates same
    cases same
    constructor
    · intro rate same
      cases same
      norm_num
    · intro rate same
      cases same
      norm_num
  · intro rates none
    cases none

/-- A call that uses seven and three of its ten and ten tokens. -/
theorem sample_hard_budget_cap :
    (sampleRun (sampleResponse (.int 7) (.int 3))).2.1.ledger.settledCost =
        1 / 2 + 143 / 100000 ∧
      (sampleRun (sampleResponse (.int 7) (.int 3))).2.1.ledger.settledCost +
        (sampleRun (sampleResponse (.int 7) (.int 3))).2.1.ledger.openCost <
          sampleGateway.hardLimit := by
  have run := runAlone_run (sampleReplies (sampleResponse (.int 7) (.int 3)))
    (sampleGateway.call sampleCall) ⟨.init (1 / 2), []⟩
  have cap := @hard_budget_cap Unit sampleGateway (fun _ => sampleCall) _ _ _
    (1 / 2) (by decide +kernel) run
  refine ⟨by decide +kernel, cap.2.2.2 sampleGateway_nonneg ?_⟩
  intro event member id response accepts
  obtain ⟨request, replied⟩ := runAlone_acceptance member accepts
  cases replied
  intro raw input output decoded inputRead outputRead
  cases decoded
  cases inputRead
  cases outputRead
  refine ⟨by decide, ?_⟩
  intro bound same
  cases same
  decide

end RagBench
