import RagBench.Providers.Gateway

/-!
# The budget protocol of a gateway call

Between two reservations a call is `idle`.  It mints a correlation identifier,
reserves under it, posts only while it holds the reservation, and settles or
releases that reservation.  Every gateway call follows this protocol, so what
is known about the ledger from the protocol alone holds for all of them.
-/

namespace RagBench

open Program (Protocol)

/-- `float('inf')` or its negative. -/
def Json.Infinite (value : Json) : Prop :=
  value = .float .infinity ∨ value = .float .negativeInfinity

theorem Json.toInt_infinite {parseInt : String → Option ℤ} {value : Json}
    (infinite : value.Infinite) :
    value.toInt parseInt =
      .error (.overflowError "cannot convert float infinity to integer") := by
  rcases infinite with rfl | rfl <;> rfl

/-- An exception `_safe_generation_usage` expects. -/
def PyException.Caught (error : PyException) : Prop :=
  error.isInstance .typeError = true ∨ error.isInstance .valueError = true

theorem Json.toInt_caught {parseInt : String → Option ℤ} {value : Json}
    {error : PyException} (finite : ¬ value.Infinite)
    (failed : value.toInt parseInt = .error error) : error.Caught := by
  cases value with
  | int value => cases failed
  | bool value => cases failed
  | str value =>
      simp only [Json.toInt] at failed
      split at failed
      · cases failed
      · cases failed
        exact .inr (by decide)
  | float value =>
      cases value with
      | finite value => cases failed
      | nan =>
          cases failed
          exact .inr (by decide)
      | infinity => exact absurd (.inl rfl) finite
      | negativeInfinity => exact absurd (.inr rfl) finite
  | null | array | object =>
      simp only [Json.toInt, Except.error.injEq] at failed
      subst failed
      exact .inl (by simp [PyException.isInstance, PyException.typeError,
        ExceptionClass.lineage])

namespace UpstageGateway

variable (gateway : UpstageGateway)

/-- The price of the tokens has a representation in the decimal context. -/
def PriceFits (modelId : String) (inputTokens outputTokens : ℤ) : Prop :=
  ∀ inputRate outputRate,
    gateway.priceBook.generationRates modelId = .ok (inputRate, outputRate) →
    ∃ net cost,
      gateway.platform.context.quantize 6 .ceiling
        (PriceBook.generationTotal gateway.platform.context inputRate
          outputRate inputTokens outputTokens) = some net ∧
      gateway.platform.context.quantize 6 .halfEven
        (gateway.platform.context.fix
          (net * gateway.billingCostMultiplier)) = some cost

/-- The token counts a response reports are not infinite, and where they can
be priced their price is representable. -/
def Chargeable (request : GenerateRequest) (response : HttpResponse) : Prop :=
  ∀ raw, decodeJson response = .ok raw →
    ¬ (promptTokens request raw).Infinite ∧
    ∀ inputTokens,
      (promptTokens request raw).toInt gateway.platform.parseInt =
        .ok inputTokens →
      ¬ (completionTokens request raw).Infinite ∧
      ∀ outputTokens,
        (completionTokens request raw).toInt gateway.platform.parseInt =
          .ok outputTokens →
        0 ≤ inputTokens → 0 ≤ outputTokens →
          gateway.PriceFits request.modelId inputTokens outputTokens

/-- The reported token counts stay within the reserved ones. -/
def WithinBounds (request : GenerateRequest) (response : HttpResponse) :
    Prop :=
  ∀ raw inputTokens outputTokens, decodeJson response = .ok raw →
    (promptTokens request raw).toInt gateway.platform.parseInt =
      .ok inputTokens →
    (completionTokens request raw).toInt gateway.platform.parseInt =
      .ok outputTokens →
    inputTokens ≤ request.inputTokens ∧
      ∀ maxOutputTokens, request.maxOutputTokens = some maxOutputTokens →
        outputTokens ≤ maxOutputTokens

variable {gateway}

theorem gross_ok {net cost : ℚ} :
    gateway.gross net = .ok cost ↔
      gateway.platform.context.quantize 6 .halfEven
        (gateway.platform.context.fix
          (net * gateway.billingCostMultiplier)) = some cost :=
  quantizeMoney_ok

theorem gross_mono {low high lowCost highCost : ℚ} (ordered : low ≤ high)
    (lowResult : gateway.gross low = .ok lowCost)
    (highResult : gateway.gross high = .ok highCost) :
    lowCost ≤ highCost := by
  have multiplier : 0 ≤ gateway.billingCostMultiplier :=
    zero_le_one.trans gateway.multiplierAtLeastOne
  have scaled := gateway.platform.context.fix_mono
    (mul_le_mul_of_nonneg_right ordered multiplier)
  exact Decimal.Context.quantize_mono scaled (gross_ok.mp lowResult)
    (gross_ok.mp highResult)

/-- What a generation price is made of. -/
theorem generatePrice_ok {modelId : String} {inputTokens outputTokens : ℤ}
    {cost : ℚ} :
    gateway.generatePrice modelId inputTokens outputTokens = .ok cost ↔
      0 ≤ inputTokens ∧ 0 ≤ outputTokens ∧
        ∃ rates net,
          gateway.priceBook.generationRates modelId = .ok rates ∧
          gateway.platform.context.quantize 6 .ceiling
            (PriceBook.generationTotal gateway.platform.context rates.1 rates.2
              inputTokens outputTokens) = some net ∧
          gateway.gross net = .ok cost := by
  unfold generatePrice grossEstimate
  rw [bind_eq_ok, PriceBook.estimate_generate]
  constructor
  · rintro ⟨net, estimated, grossed⟩
    split_ifs at estimated with negative
    obtain ⟨rates, found, priced⟩ := bind_eq_ok.mp estimated
    exact ⟨by omega, by omega, rates, net, found,
      quantizeMoney_ok.mp priced, grossed⟩
  · rintro ⟨inputNonneg, outputNonneg, rates, net, found, priced, grossed⟩
    refine ⟨net, ?_, grossed⟩
    rw [if_neg (by omega)]
    exact bind_eq_ok.mpr
      ⟨rates, found, quantizeMoney_ok.mpr priced⟩

/-- More tokens never cost less. -/
theorem generatePrice_mono {modelId : String}
    {inputTokens outputTokens inputBound outputBound : ℤ} {cost bound : ℚ}
    (nonneg : gateway.priceBook.Nonneg)
    (inputLe : inputTokens ≤ inputBound)
    (outputLe : outputTokens ≤ outputBound)
    (priced : gateway.generatePrice modelId inputTokens outputTokens =
      .ok cost)
    (bounded : gateway.generatePrice modelId inputBound outputBound =
      .ok bound) : cost ≤ bound := by
  obtain ⟨-, -, rates, low, known, lowNet, lowCost⟩ := generatePrice_ok.mp priced
  obtain ⟨-, -, same, high, known', highNet, highCost⟩ :=
    generatePrice_ok.mp bounded
  obtain rfl : rates = same := by
    have equality := known.symm.trans known'
    cases equality
    rfl
  obtain ⟨inputNonneg, outputNonneg⟩ :=
    PriceBook.generationRates_nonneg _ nonneg known
  have totals := PriceBook.generationTotal_mono gateway.platform.context
    inputNonneg outputNonneg inputLe outputLe
  exact gross_mono (Decimal.Context.quantize_mono totals lowNet highNet)
    lowCost highCost

/-- When the rates are known, pricing fails with an expected exception or
because the price does not fit. -/
theorem generatePrice_error {modelId : String}
    {inputTokens outputTokens : ℤ} {rates : ℚ × ℚ}
    (known : gateway.priceBook.generationRates modelId = .ok rates) :
    (∀ error, gateway.generatePrice modelId inputTokens outputTokens =
        .error error → error.Caught) ↔
      (0 ≤ inputTokens → 0 ≤ outputTokens →
        gateway.PriceFits modelId inputTokens outputTokens) := by
  constructor
  · intro caught inputNonneg outputNonneg inputRate outputRate known'
    cases priced : gateway.generatePrice modelId inputTokens outputTokens with
    | ok cost =>
        obtain ⟨-, -, others, net, found, netResult, costResult⟩ :=
          generatePrice_ok.mp priced
        obtain rfl : others = (inputRate, outputRate) := by
          have equality := found.symm.trans known'
          cases equality
          rfl
        exact ⟨net, cost, netResult, gross_ok.mp costResult⟩
    | error error =>
        exfalso
        have expected := caught error priced
        unfold generatePrice grossEstimate at priced
        rw [PriceBook.estimate_generate, if_neg (by omega), known] at priced
        have invalid : error = .invalidOperation := by
          rcases bind_eq_error.mp priced with failed | ⟨net, -, failed⟩
          · exact quantizeMoney_error failed
          · exact quantizeMoney_error failed
        subst invalid
        rcases expected with wrong | wrong <;> revert wrong <;> decide
  · intro fits error failed
    by_cases nonneg : 0 ≤ inputTokens ∧ 0 ≤ outputTokens
    · exfalso
      obtain ⟨net, cost, netResult, costResult⟩ :=
        fits nonneg.1 nonneg.2 rates.1 rates.2 known
      have priced := generatePrice_ok.mpr
        ⟨nonneg.1, nonneg.2, rates, net, known, netResult,
          gross_ok.mpr costResult⟩
      rw [priced] at failed
      cases failed
    · unfold generatePrice grossEstimate at failed
      rw [PriceBook.estimate_generate, if_pos (by omega)] at failed
      cases failed
      exact .inr (by decide)

/-- A response is chargeable when every failure to read its usage is one
that `_safe_generation_usage` expects. -/
theorem chargeable_iff {request : GenerateRequest} {response : HttpResponse}
    {rates : ℚ × ℚ}
    (known : gateway.priceBook.generationRates request.modelId = .ok rates) :
    gateway.Chargeable request response ↔
      ∀ raw error, decodeJson response = .ok raw →
        gateway.generationUsage request raw = .error error →
          error.Caught := by
  constructor
  · intro chargeable raw error decoded failed
    obtain ⟨promptFinite, rest⟩ := chargeable raw decoded
    rcases bind_eq_error.mp failed with failed | ⟨input, inputRead, failed⟩
    · exact Json.toInt_caught promptFinite failed
    · obtain ⟨completionFinite, fits⟩ := rest input inputRead
      rcases bind_eq_error.mp failed with failed | ⟨output, outputRead, failed⟩
      · exact Json.toInt_caught completionFinite failed
      · rcases bind_eq_error.mp failed with failed | ⟨cost, -, impossible⟩
        · exact (generatePrice_error known).mpr (fits output outputRead) error
            failed
        · cases impossible
  · intro caught raw decoded
    have unexpected : ¬ (PyException.overflowError
        "cannot convert float infinity to integer").Caught := by
      rintro (wrong | wrong) <;> revert wrong <;> decide
    constructor
    · intro infinite
      exact unexpected (caught raw _ decoded
        (bind_eq_error.mpr (.inl (Json.toInt_infinite infinite))))
    · intro input inputRead
      constructor
      · intro infinite
        exact unexpected (caught raw _ decoded (bind_eq_error.mpr (.inr
          ⟨input, inputRead, bind_eq_error.mpr
            (.inl (Json.toInt_infinite infinite))⟩)))
      · intro output outputRead
        apply (generatePrice_error known).mp
        intro error failed
        exact caught raw error decoded (bind_eq_error.mpr (.inr
          ⟨input, inputRead, bind_eq_error.mpr (.inr
            ⟨output, outputRead, bind_eq_error.mpr (.inl failed)⟩)⟩))

end UpstageGateway

/-- Where a gateway call stands with its budget. -/
inductive BudgetPhase where
  | idle
  | minted (correlationId : Uuid)
  | holding (reservation : Reservation)
  | answered (reservation : Reservation) (response : HttpResponse)
  /-- A settlement or a release raised. -/
  | interrupted

namespace BudgetPhase

/-- The reservation the call still has to close. -/
def held : BudgetPhase → Option Reservation
  | .holding reservation => some reservation
  | .answered reservation _ => some reservation
  | _ => none

/-- Only an accepted response ends the retries. -/
def respond (response : HttpResponse) : BudgetPhase → BudgetPhase
  | .holding reservation =>
      if response.accepted then .answered reservation response
      else .holding reservation
  | phase => phase

end BudgetPhase

namespace GatewayCall

variable (gateway : UpstageGateway)

/-- Only generation reads its usage from the response. -/
def Chargeable : GatewayCall → HttpResponse → Prop
  | .generate request, response => gateway.Chargeable request response
  | .embed _, _ => True
  | .parse _, _ => True

def WithinBounds : GatewayCall → HttpResponse → Prop
  | .generate request, response => gateway.WithinBounds request response
  | .embed _, _ => True
  | .parse _, _ => True

/-- What the call may await in a phase. -/
def Allows (call : GatewayCall) (phase : BudgetPhase) : GatewayOp → Prop
  | .uuid4 => phase = .idle
  | .post request => ∃ reservation, phase = .holding reservation ∧
      reservation.correlationId = request.correlationId
  | .reserveAtomic correlationId projectedCost hardLimit =>
      phase = .minted correlationId ∧ 0 ≤ projectedCost ∧
        hardLimit = gateway.hardLimit
  | .settle reservationId _ _ usage _ _ => ∃ reservation response,
      phase = .answered reservation response ∧
        reservation.id = reservationId ∧
        call.Chargeable gateway response ∧
        (gateway.priceBook.Nonneg → call.WithinBounds gateway response →
          usage.estimatedCostUsd ≤ reservation.reservedCostUsd)
  | .release reservationId => ∃ reservation,
      phase = .holding reservation ∧ reservation.id = reservationId
  | .recordCacheHit correlationId _ _ _ => phase = .minted correlationId
  | _ => True

/-- How an outcome moves the phase.  Minting and reading the clock never
raise. -/
def Moves (phase : BudgetPhase) : (op : GatewayOp) →
    Except PyException (GatewayReply op) → BudgetPhase → Prop
  | .uuid4, .ok correlationId, after => after = .minted correlationId
  | .uuid4, .error _, _ => False
  | .now, .error _, _ => False
  | .post _, .ok response, after => after = phase.respond response
  | .reserveAtomic correlationId projectedCost _, .ok reservation, after =>
      reservation.correlationId = correlationId ∧
        reservation.reservedCostUsd = projectedCost ∧
        after = .holding reservation
  | .reserveAtomic _ _ _, .error _, after => after = .idle
  | .settle _ _ _ _ _ _, .ok _, after => after = .idle
  | .settle _ _ _ _ _ _, .error _, after => after = .interrupted
  | .release _, .ok _, after => after = .idle
  | .release _, .error _, after => after = .interrupted
  | .recordCacheHit _ _ _ _, _, after => after = .idle
  | _, _, after => after = phase

def protocol (call : GatewayCall) :
    Protocol GatewayOp GatewayReply PyException BudgetPhase :=
  { allows := call.Allows gateway
    moves := Moves }

/-- A normal end leaves nothing reserved.  An exceptional end can leave a
reservation behind only after a response that is not chargeable. -/
def Ends {α : Type} (call : GatewayCall) : Except PyException α →
    BudgetPhase → Prop
  | .ok _, phase => phase = .idle
  | .error _, phase => ∀ reservation, phase.held = some reservation →
      ∃ response, phase = .answered reservation response ∧
        ¬ call.Chargeable gateway response

end GatewayCall

namespace UpstageGateway

open GatewayCall GatewayM Program

variable {gateway : UpstageGateway} {call : GatewayCall} {α β : Type}

section Delays

variable {τ : Type} {protocol : Protocol GatewayOp GatewayReply PyException τ}
  {state : τ}

/-- Waiting for the next attempt is nothing to the protocol. -/
structure IgnoresDelays
    (protocol : Protocol GatewayOp GatewayReply PyException τ) (state : τ) :
    Prop where
  now : protocol.Ignores state .now
  jitter : ∀ upper, protocol.Ignores state (.jitter upper)
  sleep : ∀ seconds, protocol.Ignores state (.sleep seconds)

theorem leaves_retryAfterSeconds (ignored : IgnoresDelays protocol state)
    (value : String) :
    (gateway.retryAfterSeconds value).Leaves protocol state := by
  unfold retryAfterSeconds
  split
  · exact leaves_pure _
  · split
    · exact (leaves_await ignored.now).bind (fun _ => leaves_pure _)
        (fun _ => rfl)
    · split_ifs
      · exact leaves_pure _
      · exact leaves_throw _

theorem leaves_exponentialBackoff (ignored : IgnoresDelays protocol state)
    (attempt : ℕ) :
    (gateway.exponentialBackoff attempt).Leaves protocol state := by
  unfold exponentialBackoff
  refine (leaves_fromExcept _).bind ?_ (fun _ => rfl)
  intro power
  exact (leaves_await (ignored.jitter _)).bind (fun _ => leaves_pure _)
    (fun _ => rfl)

theorem leaves_backoff (ignored : IgnoresDelays protocol state) (attempt : ℕ)
    (retryAfter : Option String) :
    (gateway.backoff attempt retryAfter).Leaves protocol state := by
  unfold backoff
  split
  · exact leaves_exponentialBackoff ignored _
  · refine (leaves_retryAfterSeconds ignored _).bind ?_ (fun _ => rfl)
    rintro (none | delay)
    · exact leaves_exponentialBackoff ignored _
    · exact leaves_pure _

end Delays

/-- The program leaves the budget phase alone. -/
def Steady (gateway : UpstageGateway) (call : GatewayCall)
    (program : GatewayM α) (phase : BudgetPhase) : Prop :=
  program.Leaves (call.protocol gateway) phase

section Steady

variable {phase : BudgetPhase}

theorem Steady.bind {program : GatewayM α} {next : α → GatewayM β}
    {post : Except PyException β → BudgetPhase → Prop}
    (steady : Steady gateway call program phase)
    (resumed : ∀ value,
      (next value).Follows (call.protocol gateway) post phase)
    (raised : ∀ error, post (.error error) phase) :
    (program >>= next).Follows (call.protocol gateway) post phase :=
  Leaves.bind steady resumed raised

theorem steady_fromExcept (outcome : Except PyException α) :
    Steady gateway call (fromExcept outcome : GatewayM α) phase :=
  leaves_fromExcept outcome

private theorem ignores_now :
    (call.protocol gateway).Ignores phase .now := by
  refine ⟨trivial, ?_⟩
  rintro (error | time) after moved
  · exact moved.elim
  · exact moved

theorem ignoresDelays : IgnoresDelays (call.protocol gateway) phase :=
  { now := ignores_now
    jitter := fun _ => ⟨trivial, fun _ _ moved => moved⟩
    sleep := fun _ => ⟨trivial, fun _ _ moved => moved⟩ }

theorem steady_now : Steady gateway call now phase :=
  leaves_await ignores_now

theorem steady_sleep (seconds : PyFloat) :
    Steady gateway call (sleep seconds) phase :=
  leaves_await (ignoresDelays.sleep seconds)

theorem steady_cacheGet (key : String) :
    Steady gateway call (cacheGet key) phase :=
  leaves_await ⟨trivial, fun _ _ moved => moved⟩

theorem steady_cachePut (key : String) (operation : Operation)
    (modelId : String) (response : JsonObject) :
    Steady gateway call (cachePut key operation modelId response) phase :=
  leaves_await ⟨trivial, fun _ _ moved => moved⟩

theorem steady_enterSingleflight (key : String) :
    Steady gateway call (enterSingleflight key) phase :=
  leaves_await ⟨trivial, fun _ _ moved => moved⟩

theorem steady_exitSingleflight (key : String) :
    Steady gateway call (exitSingleflight key) phase :=
  leaves_await ⟨trivial, fun _ _ moved => moved⟩

theorem steady_backoff (attempt : ℕ) (retryAfter : Option String) :
    Steady gateway call (gateway.backoff attempt retryAfter) phase :=
  leaves_backoff ignoresDelays attempt retryAfter

end Steady

/-! ## Requests -/

/-- How a request under a reservation ends. -/
def Requested (reservation : Reservation) :
    Except PyException HttpResponse → BudgetPhase → Prop
  | .ok response, phase => phase = .answered reservation response
  | .error _, phase => phase = .holding reservation

/-- How one attempt ends. -/
def Attempted (reservation : Reservation) :
    Except PyException (Except PyException HttpResponse) → BudgetPhase → Prop
  | .ok (.ok response), phase =>
      phase = (BudgetPhase.holding reservation).respond response
  | .ok (.error _), phase => phase = .holding reservation
  | .error _, _ => False

private theorem follows_post {http : HttpRequest} {reservation : Reservation}
    (same : reservation.correlationId = http.correlationId) :
    (post http).attempt.Follows (call.protocol gateway)
      (Attempted reservation) (.holding reservation) := by
  have posted : (post http).Follows (call.protocol gateway)
      (fun outcome => Attempted reservation (.ok outcome))
      (.holding reservation) := by
    apply follows_await.mpr
    refine ⟨⟨reservation, rfl, same⟩, ?_⟩
    rintro (error | response) after moved
    · exact moved
    · exact moved
  exact posted.attempt fun _ _ reached => reached

theorem follows_requestFrom {http : HttpRequest} {reservation : Reservation}
    (same : reservation.correlationId = http.correlationId)
    (retryLimit attempt remaining : ℕ) :
    (gateway.requestFrom http retryLimit attempt remaining).Follows
      (call.protocol gateway) (Requested reservation)
      (.holding reservation) := by
  induction remaining generalizing attempt with
  | zero => exact follows_throw.mpr rfl
  | succ remaining induction =>
      -- Waiting before the next attempt does not touch the reservation.
      have again : ∀ retryAfter,
          ((gateway.backoff attempt retryAfter) >>= fun delay => do
            sleep delay
            gateway.requestFrom http retryLimit (attempt + 1) remaining).Follows
              (call.protocol gateway) (Requested reservation)
              (.holding reservation) := by
        intro retryAfter
        refine (steady_backoff attempt retryAfter).bind ?_ (fun _ => rfl)
        intro delay
        exact (steady_sleep delay).bind (fun _ => induction _) (fun _ => rfl)
      unfold requestFrom
      refine (follows_post same).bind ?_ ?_
      · rintro (error | response) after reached
        · subst reached
          dsimp only
          split_ifs
          · exact again none
          · exact follows_throw.mpr rfl
        · subst reached
          simp only [BudgetPhase.respond]
          split_ifs
          · exact follows_pure.mpr rfl
          · exact follows_throw.mpr rfl
          · exact follows_throw.mpr rfl
          · exact again response.retryAfter
      · intro error after impossible
        exact impossible.elim

/-- How a request ends that releases its reservation when it fails. -/
def Released (reservation : Reservation) :
    Except PyException HttpResponse → BudgetPhase → Prop
  | .ok response, phase => phase = .answered reservation response
  | .error _, phase => phase = .idle ∨ phase = .interrupted

theorem follows_requestReserved {http : HttpRequest}
    {reservation : Reservation}
    (same : reservation.correlationId = http.correlationId)
    (maxRetries : Option ℕ) :
    (gateway.requestReserved reservation http maxRetries).Follows
      (call.protocol gateway) (Released reservation)
      (.holding reservation) := by
  apply Follows.catching (follows_requestFrom same _ _ _)
  · intro response after reached
    exact reached
  · rintro error after rfl
    have released : (release reservation.id).Follows (call.protocol gateway)
        (fun _ phase => phase = .idle ∨ phase = .interrupted)
        (.holding reservation) := by
      apply follows_await.mpr
      refine ⟨⟨reservation, rfl, rfl⟩, ?_⟩
      rintro (error | done) after moved
      · exact .inr moved
      · exact .inl moved
    refine released.bind ?_ ?_
    · intro _ after reached
      exact follows_throw.mpr reached
    · intro _ after reached
      exact reached

/-! ## Budget steps -/

/-- How minting and reserving ends. -/
def Reserved (projected : ℚ) :
    Except PyException (Uuid × Reservation) → BudgetPhase → Prop
  | .ok (correlationId, reservation), phase =>
      reservation.correlationId = correlationId ∧
        reservation.reservedCostUsd = projected ∧
        phase = .holding reservation
  | .error _, phase => phase.held = none

theorem follows_uuid4 :
    uuid4.Follows (call.protocol gateway)
      (fun outcome after => ∃ correlationId,
        outcome = .ok correlationId ∧ after = .minted correlationId)
      .idle := by
  apply follows_await.mpr
  refine ⟨rfl, ?_⟩
  rintro (error | correlationId) after moved
  · exact moved.elim
  · exact ⟨correlationId, rfl, moved⟩

theorem follows_reserve (projected : ℚ) :
    (gateway.reserve projected).Follows (call.protocol gateway)
      (Reserved projected) .idle := by
  refine follows_uuid4.bind ?_ ?_
  · rintro correlationId after ⟨_, equality, rfl⟩
    cases equality
    split_ifs with negative
    · exact follows_throw.mpr rfl
    · have reserved : (reserveAtomic correlationId projected
          gateway.hardLimit).Follows (call.protocol gateway)
            (fun outcome after =>
              match outcome with
              | .ok reservation => reservation.correlationId = correlationId ∧
                  reservation.reservedCostUsd = projected ∧
                  after = .holding reservation
              | .error _ => after = .idle) (.minted correlationId) := by
        apply follows_await.mpr
        refine ⟨⟨rfl, not_lt.mp negative, rfl⟩, ?_⟩
        rintro (error | reservation) after moved
        · exact moved
        · exact moved
      refine reserved.bind ?_ ?_
      · rintro reservation after reached
        exact reached
      · rintro error after rfl
        rfl
  · rintro error after ⟨_, equality, -⟩
    cases equality

/-- A call ends, or goes on, without anything reserved. -/
def Closed {α : Type} : Except PyException α → BudgetPhase → Prop
  | .ok _, phase => phase = .idle
  | .error _, phase => phase.held = none

theorem follows_recordCacheHit (operation : Operation) (modelId : String)
    (usage : Usage) :
    (gateway.recordCacheHit operation modelId usage).Follows
      (call.protocol gateway) Closed .idle := by
  refine follows_uuid4.bind ?_ ?_
  · rintro correlationId after ⟨_, equality, rfl⟩
    cases equality
    refine (steady_fromExcept _).bind ?_ (fun _ => rfl)
    intro _
    have recorded : (GatewayM.recordCacheHit correlationId operation modelId
        usage).Follows (call.protocol gateway)
          (fun _ after => after = .idle) (.minted correlationId) :=
      follows_await.mpr ⟨rfl, fun _ _ moved => moved⟩
    refine recorded.bind ?_ ?_
    · rintro _ after rfl
      exact follows_pure.mpr rfl
    · rintro _ after rfl
      rfl
  · rintro error after ⟨_, equality, -⟩
    cases equality

theorem follows_settle {reservation : Reservation} {response : HttpResponse}
    {operation : Operation} {modelId : String} {usage : Usage}
    {cacheHit reconciliationRequired : Bool}
    (chargeable : call.Chargeable gateway response)
    (bounded : gateway.priceBook.Nonneg → call.WithinBounds gateway response →
      usage.estimatedCostUsd ≤ reservation.reservedCostUsd) :
    (settle reservation.id operation modelId usage cacheHit
      reconciliationRequired).Follows (call.protocol gateway) Closed
      (.answered reservation response) := by
  apply follows_await.mpr
  refine ⟨⟨reservation, response, rfl, rfl, chargeable, bounded⟩, ?_⟩
  rintro (error | done) after moved
  · obtain rfl : after = .interrupted := moved
    rfl
  · exact moved

/-- `Ends` for every outcome that leaves nothing reserved. -/
theorem ends_of_closed {outcome : Except PyException α} {phase : BudgetPhase}
    (closed : Closed outcome phase) : call.Ends gateway outcome phase := by
  cases outcome with
  | ok value => exact closed
  | error error =>
      intro reservation held
      have nothing : phase.held = none := closed
      rw [nothing] at held
      cases held

theorem follows_withSingleflight {key : String} {body : GatewayM α}
    (followed : body.Follows (call.protocol gateway) (call.Ends gateway)
      .idle) :
    (withSingleflight key body).Follows (call.protocol gateway)
      (call.Ends gateway) .idle := by
  refine (steady_enterSingleflight key).bind ?_
    (fun _ => ends_of_closed rfl)
  intro _
  refine followed.finalizing ?_
  intro outcome after ended
  refine Follows.weaken (steady_exitSingleflight key) ?_
  rintro (error | done) last rfl
  · cases outcome with
    | ok value =>
        obtain rfl : last = .idle := ended
        exact ends_of_closed rfl
    | error error => exact ended
  · exact ended

/-! ## Generation -/

theorem readGeneration_fst (request : GenerateRequest)
    (response : HttpResponse) :
    (gateway.readGeneration request response).1 =
      (decodeJson response).toOption := by
  unfold readGeneration
  cases decodeJson response <;> rfl

theorem safeGenerationUsage_isOk {request : GenerateRequest}
    {response : HttpResponse} {rates : ℚ × ℚ} (fallback : Usage)
    (known : gateway.priceBook.generationRates request.modelId = .ok rates) :
    (∃ usage, gateway.safeGenerationUsage request
        (decodeJson response).toOption fallback = .ok usage) ↔
      gateway.Chargeable request response := by
  rw [chargeable_iff known]
  cases decoded : decodeJson response with
  | error error => simp [Except.toOption, safeGenerationUsage]
  | ok raw =>
      simp only [Except.toOption, safeGenerationUsage, Except.ok.injEq]
      cases used : gateway.generationUsage request raw with
      | ok usage =>
          constructor
          · rintro - raw' error rfl failed
            rw [used] at failed
            cases failed
          · intro _
            exact ⟨usage, rfl⟩
      | error error =>
          constructor
          · rintro ⟨usage, success⟩ raw' error' rfl failed
            rw [used] at failed
            cases failed
            dsimp only at success
            split_ifs at success with caught
            exact caught
          · intro caught
            exact ⟨fallback, if_pos (caught raw error rfl used)⟩

theorem generationUsage_bounded {request : GenerateRequest}
    {response : HttpResponse} {raw : JsonObject} {usage : Usage}
    {maxOutputTokens : ℤ} {projected : ℚ}
    (bound : request.maxOutputTokens = some maxOutputTokens)
    (priced : gateway.generatePrice request.modelId request.inputTokens
      maxOutputTokens = .ok projected)
    (decoded : decodeJson response = .ok raw)
    (success : gateway.generationUsage request raw = .ok usage)
    (nonneg : gateway.priceBook.Nonneg)
    (within : gateway.WithinBounds request response) :
    usage.estimatedCostUsd ≤ projected := by
  obtain ⟨input, inputRead, success⟩ := bind_eq_ok.mp success
  obtain ⟨output, outputRead, success⟩ := bind_eq_ok.mp success
  obtain ⟨cost, costed, success⟩ := bind_eq_ok.mp success
  cases success
  obtain ⟨inputLe, outputLe⟩ :=
    within raw input output decoded inputRead outputRead
  exact generatePrice_mono nonneg inputLe (outputLe _ bound) costed priced

theorem safeGenerationUsage_bounded {request : GenerateRequest}
    {response : HttpResponse} {usage fallback : Usage}
    {maxOutputTokens : ℤ} {projected : ℚ}
    (bound : request.maxOutputTokens = some maxOutputTokens)
    (priced : gateway.generatePrice request.modelId request.inputTokens
      maxOutputTokens = .ok projected)
    (fallbackCost : fallback.estimatedCostUsd = projected)
    (success : gateway.safeGenerationUsage request
      (decodeJson response).toOption fallback = .ok usage)
    (nonneg : gateway.priceBook.Nonneg)
    (within : gateway.WithinBounds request response) :
    usage.estimatedCostUsd ≤ projected := by
  cases decoded : decodeJson response with
  | error error =>
      rw [decoded] at success
      cases success
      exact fallbackCost.le
  | ok raw =>
      rw [decoded] at success
      simp only [Except.toOption, safeGenerationUsage] at success
      cases used : gateway.generationUsage request raw with
      | ok reported =>
          simp only [used, Except.ok.injEq] at success
          subst success
          exact generationUsage_bounded bound priced decoded used nonneg within
      | error error =>
          simp only [used] at success
          split_ifs at success
          cases success
          exact fallbackCost.le

theorem follows_reserving {projected : ℚ}
    {next : Uuid × Reservation → GatewayM α}
    (resumed : ∀ correlationId reservation,
      reservation.correlationId = correlationId →
      reservation.reservedCostUsd = projected →
      (next (correlationId, reservation)).Follows (call.protocol gateway)
        (call.Ends gateway) (.holding reservation)) :
    (gateway.reserve projected >>= next).Follows (call.protocol gateway)
      (call.Ends gateway) .idle := by
  refine (follows_reserve projected).bind ?_ ?_
  · rintro ⟨correlationId, reservation⟩ after ⟨same, reserved, rfl⟩
    exact resumed correlationId reservation same reserved
  · intro error after closed
    exact ends_of_closed closed

theorem follows_requesting {reservation : Reservation} {http : HttpRequest}
    {maxRetries : Option ℕ} {next : HttpResponse → GatewayM α}
    (same : reservation.correlationId = http.correlationId)
    (resumed : ∀ response, (next response).Follows (call.protocol gateway)
      (call.Ends gateway) (.answered reservation response)) :
    (gateway.requestReserved reservation http maxRetries >>= next).Follows
      (call.protocol gateway) (call.Ends gateway) (.holding reservation) := by
  refine (follows_requestReserved same maxRetries).bind ?_ ?_
  · rintro response after rfl
    exact resumed response
  · rintro error after (rfl | rfl)
    · exact ends_of_closed rfl
    · exact ends_of_closed rfl

theorem follows_generateUncached {request : GenerateRequest}
    {maxOutputTokens : ℤ} (bound : request.maxOutputTokens =
      some maxOutputTokens) (key : String) :
    (gateway.generateUncached request maxOutputTokens key).Follows
      ((GatewayCall.generate request).protocol gateway)
      ((GatewayCall.generate request).Ends gateway) .idle := by
  unfold generateUncached
  refine (follows_fromExcept_is _).bind ?_ ?_
  swap
  · rintro error after ⟨-, rfl⟩
    exact ends_of_closed rfl
  rintro projected after ⟨priced, rfl⟩
  apply follows_reserving
  intro correlationId reservation same reserved
  apply follows_requesting same
  intro response
  obtain ⟨-, -, rates, -, known, -⟩ := generatePrice_ok.mp priced.symm
  have raw : (gateway.readGeneration request response).1 = _ :=
    readGeneration_fst request response
  dsimp only
  split
  · rename_i decoded error read
    obtain rfl : decoded = (decodeJson response).toOption := by
      simpa [read] using raw
    refine (follows_fromExcept_is _).bind ?_ ?_
    · rintro usage after ⟨success, rfl⟩
      have chargeable :
          (GatewayCall.generate request).Chargeable gateway response :=
        (safeGenerationUsage_isOk _ known).mp ⟨usage, success.symm⟩
      refine (follows_settle chargeable fun nonneg within => ?_).bind ?_ ?_
      · rw [reserved]
        exact safeGenerationUsage_bounded bound priced.symm rfl success.symm
          nonneg within
      · rintro _ after rfl
        exact ends_of_closed rfl
      · intro _ after closed
        exact ends_of_closed closed
    · rintro failure after ⟨failed, rfl⟩ other held
      cases held
      refine ⟨response, rfl, fun chargeable => ?_⟩
      obtain ⟨usage, success⟩ :=
        (safeGenerationUsage_isOk _ known).mpr chargeable
      rw [success] at failed
      cases failed
  · rename_i decoded raw' result usage read
    unfold readGeneration at read
    split at read
    · cases read
    · rename_i body decodes
      obtain ⟨-, outcome⟩ := Prod.mk.inj read
      obtain ⟨reply, -, outcome⟩ := bind_eq_ok.mp outcome
      obtain ⟨spent, used, outcome⟩ := bind_eq_ok.mp outcome
      cases outcome
      have chargeable :
          (GatewayCall.generate request).Chargeable gateway response := by
        refine (chargeable_iff known).mpr ?_
        intro other failure decodes' failed
        obtain rfl : raw' = other := by
          rw [decodes] at decodes'
          cases decodes'
          rfl
        rw [used] at failed
        cases failed
      refine (follows_settle chargeable fun nonneg within => ?_).bind ?_ ?_
      · rw [reserved]
        exact generationUsage_bounded bound priced.symm decodes used nonneg
          within
      · rintro _ after rfl
        exact (steady_cachePut _ _ _ _).bind (fun _ => rfl)
          (fun _ => ends_of_closed rfl)
      · intro _ after closed
        exact ends_of_closed closed

/-- A cached answer is read, recorded and returned. -/
theorem follows_cachedGeneration (request : GenerateRequest)
    (cached : CachedResponse) :
    (gateway.cachedGeneration request cached).Follows (call.protocol gateway)
      (call.Ends gateway) .idle := by
  unfold cachedGeneration
  refine (steady_fromExcept _).bind ?_ (fun _ => ends_of_closed rfl)
  intro result
  refine (steady_fromExcept _).bind ?_ (fun _ => ends_of_closed rfl)
  intro usage
  refine (follows_recordCacheHit _ _ _).bind ?_ ?_
  · rintro correlationId after rfl
    exact follows_pure.mpr rfl
  · intro error after closed
    exact ends_of_closed closed

/-- The two lookups around the singleflight lock. -/
theorem follows_cacheLookups {key : String}
    {hit : CachedResponse → GatewayM α} {miss : GatewayM α}
    (cached : ∀ response, (hit response).Follows (call.protocol gateway)
      (call.Ends gateway) .idle)
    (uncached : miss.Follows (call.protocol gateway) (call.Ends gateway)
      .idle) :
    (cacheGet key >>= fun first =>
      match first with
      | some response => hit response
      | none => withSingleflight key (cacheGet key >>= fun second =>
          match second with
          | some response => hit response
          | none => miss)).Follows (call.protocol gateway)
        (call.Ends gateway) .idle := by
  refine (steady_cacheGet key).bind ?_ (fun _ => ends_of_closed rfl)
  rintro (none | response)
  · apply follows_withSingleflight
    refine (steady_cacheGet key).bind ?_ (fun _ => ends_of_closed rfl)
    rintro (none | response)
    · exact uncached
    · exact cached response
  · exact cached response

theorem checkedOutputBound_ok {request : GenerateRequest}
    {maxOutputTokens : ℤ} :
    checkedOutputBound request = .ok maxOutputTokens ↔
      request.maxOutputTokens = some maxOutputTokens ∧
        0 < maxOutputTokens ∧ 0 < request.inputTokens ∧
          rejectReservedParams request.providerParams
            ["max_tokens", "messages", "model"] = .ok () := by
  unfold checkedOutputBound
  cases requested : request.maxOutputTokens with
  | none => simp
  | some bound =>
      dsimp only
      split_ifs with blank empty
      · simp only [Option.some.injEq, false_iff]
        omega
      · simp only [false_iff]
        omega
      · rw [bind_eq_ok, Option.some.injEq]
        constructor
        · rintro ⟨⟨⟩, checked, returned⟩
          obtain rfl := Except.ok.inj returned
          exact ⟨rfl, by omega, by omega, checked⟩
        · rintro ⟨rfl, -, -, checked⟩
          exact ⟨(), checked, rfl⟩

theorem follows_generate (request : GenerateRequest) :
    (gateway.generate request).Follows
      ((GatewayCall.generate request).protocol gateway)
      ((GatewayCall.generate request).Ends gateway) .idle := by
  unfold generate
  refine (follows_fromExcept_is _).bind ?_ ?_
  · rintro maxOutputTokens after ⟨checked, rfl⟩
    refine (steady_fromExcept _).bind ?_ (fun _ => ends_of_closed rfl)
    intro key
    apply follows_cacheLookups
    · intro response
      exact follows_cachedGeneration request response
    · exact follows_generateUncached (checkedOutputBound_ok.mp checked.symm).1 key
  · rintro error after ⟨-, rfl⟩
    exact ends_of_closed rfl

/-! ## Embedding and parsing

Their usage is fixed before the request, so they settle what they reserved. -/

/-- Settling exactly what was reserved, then anything that does not touch
the budget. -/
theorem follows_settleReserved {reservation : Reservation}
    {response : HttpResponse} {operation : Operation} {modelId : String}
    {usage : Usage} {reconciliationRequired : Bool} {next : GatewayM α}
    (chargeable : call.Chargeable gateway response)
    (exact : usage.estimatedCostUsd = reservation.reservedCostUsd)
    (resumed : next.Follows (call.protocol gateway) (call.Ends gateway)
      .idle) :
    (settle reservation.id operation modelId usage false
      reconciliationRequired >>= fun _ => next).Follows
        (call.protocol gateway) (call.Ends gateway)
        (.answered reservation response) := by
  refine (follows_settle chargeable fun _ _ => exact.le).bind ?_ ?_
  · rintro _ after rfl
    exact resumed
  · intro error after closed
    exact ends_of_closed closed

theorem follows_store {key : String} {operation : Operation}
    {modelId : String} {raw : JsonObject} {value : α} :
    (cachePut key operation modelId raw >>= fun _ =>
      (pure value : GatewayM α)).Follows (call.protocol gateway)
        (call.Ends gateway) .idle :=
  (steady_cachePut _ _ _ _).bind (fun _ => rfl) (fun _ => ends_of_closed rfl)

theorem follows_embedUncached (request : EmbedRequest) (projected : ℚ)
    (key : String) :
    (gateway.embedUncached request projected key).Follows
      ((GatewayCall.embed request).protocol gateway)
      ((GatewayCall.embed request).Ends gateway) .idle := by
  unfold embedUncached
  apply follows_reserving
  intro correlationId reservation same reserved
  apply follows_requesting same
  intro response
  dsimp only
  split
  · exact follows_settleReserved trivial reserved.symm (ends_of_closed rfl)
  · exact follows_settleReserved trivial reserved.symm follows_store

theorem follows_embed (request : EmbedRequest) :
    (gateway.embed request).Follows
      ((GatewayCall.embed request).protocol gateway)
      ((GatewayCall.embed request).Ends gateway) .idle := by
  unfold embed
  refine (steady_fromExcept _).bind ?_ (fun _ => ends_of_closed rfl)
  intro _
  refine (steady_fromExcept _).bind ?_ (fun _ => ends_of_closed rfl)
  intro key
  refine steady_now.bind ?_ (fun _ => ends_of_closed rfl)
  intro time
  refine (steady_fromExcept _).bind ?_ (fun _ => ends_of_closed rfl)
  intro projected
  apply follows_cacheLookups
  · intro cached
    unfold cachedEmbedding
    refine (steady_fromExcept _).bind ?_ (fun _ => ends_of_closed rfl)
    intro result
    refine (follows_recordCacheHit _ _ _).bind ?_ ?_
    · rintro correlationId after rfl
      exact follows_pure.mpr rfl
    · intro error after closed
      exact ends_of_closed closed
  · exact follows_embedUncached request projected key

variable {document : ParseRequest}

theorem follows_parseUncached (request : ParseRequest) (projected : ℚ)
    (key : String) :
    (gateway.parseUncached request projected key).Follows
      ((GatewayCall.parse document).protocol gateway)
      ((GatewayCall.parse document).Ends gateway) .idle := by
  unfold parseUncached
  apply follows_reserving
  intro correlationId reservation same reserved
  apply follows_requesting same
  intro response
  dsimp only
  split
  · exact follows_settleReserved trivial reserved.symm (ends_of_closed rfl)
  · exact follows_settleReserved trivial reserved.symm follows_store

theorem follows_parseSingle (request : ParseRequest) :
    (gateway.parseSingle request).Follows
      ((GatewayCall.parse document).protocol gateway)
      ((GatewayCall.parse document).Ends gateway) .idle := by
  unfold parseSingle
  refine (steady_fromExcept _).bind ?_ (fun _ => ends_of_closed rfl)
  intro _
  refine (steady_fromExcept _).bind ?_ (fun _ => ends_of_closed rfl)
  intro key
  refine (steady_fromExcept _).bind ?_ (fun _ => ends_of_closed rfl)
  intro projected
  apply follows_cacheLookups
  · intro cached
    unfold cachedParse
    refine (follows_recordCacheHit _ _ _).bind ?_ ?_
    · rintro correlationId after rfl
      exact follows_pure.mpr rfl
    · intro error after closed
      exact ends_of_closed closed
  · exact follows_parseUncached request projected key

/-- Calls one after the other: each starts where the last one left nothing
reserved. -/
theorem Ends.bind {program : GatewayM α} {next : α → GatewayM β}
    (first : program.Follows (call.protocol gateway) (call.Ends gateway)
      .idle)
    (resumed : ∀ value, (next value).Follows (call.protocol gateway)
      (call.Ends gateway) .idle) :
    (program >>= next).Follows (call.protocol gateway) (call.Ends gateway)
      .idle := by
  refine Follows.bind first ?_ ?_
  · rintro value after rfl
    exact resumed value
  · intro error after ended
    exact ended

theorem follows_parseChunks (request : ParseRequest) (first : ℕ)
    (chunks : List (ℕ × ℕ × Bytes)) :
    (gateway.parseChunks request first chunks).Follows
      ((GatewayCall.parse document).protocol gateway)
      ((GatewayCall.parse document).Ends gateway) .idle := by
  induction chunks with
  | nil => exact follows_pure.mpr rfl
  | cons chunk rest induction =>
      apply Ends.bind (follows_parseSingle _)
      intro response
      apply Ends.bind induction
      intro responses
      exact follows_pure.mpr rfl

theorem follows_parseLargeChunk (request : ParseRequest)
    (chunk : ℕ × ℕ × Bytes) :
    (gateway.parseLargeChunk request chunk).Follows
      ((GatewayCall.parse document).protocol gateway)
      ((GatewayCall.parse document).Ends gateway) .idle := by
  unfold parseLargeChunk
  dsimp only
  split_ifs
  · refine (steady_fromExcept _).bind ?_ (fun _ => ends_of_closed rfl)
    intro key
    refine (steady_cacheGet key).bind ?_ (fun _ => ends_of_closed rfl)
    rintro (none | cached)
    · refine (steady_fromExcept _).bind ?_ (fun _ => ends_of_closed rfl)
      intro singles
      exact follows_parseChunks request _ singles
    · exact follows_parseChunks request _ _
  · exact follows_parseChunks request _ _

theorem follows_parseLargeChunks (request : ParseRequest)
    (chunks : List (ℕ × ℕ × Bytes)) :
    (gateway.parseLargeChunks request chunks).Follows
      ((GatewayCall.parse document).protocol gateway)
      ((GatewayCall.parse document).Ends gateway) .idle := by
  induction chunks with
  | nil => exact follows_pure.mpr rfl
  | cons chunk rest induction =>
      apply Ends.bind (follows_parseLargeChunk request chunk)
      intro responses
      apply Ends.bind induction
      intro rest
      exact follows_pure.mpr rfl

theorem follows_parse (request : ParseRequest) :
    (gateway.parse request).Follows
      ((GatewayCall.parse document).protocol gateway)
      ((GatewayCall.parse document).Ends gateway) .idle := by
  unfold parse
  dsimp only
  split_ifs
  · unfold parseLargeDocument
    refine (steady_fromExcept _).bind ?_ (fun _ => ends_of_closed rfl)
    intro chunks
    apply Ends.bind (follows_parseLargeChunks request chunks)
    intro responses
    refine (steady_fromExcept _).bind ?_ (fun _ => ends_of_closed rfl)
    intro raw
    exact follows_pure.mpr rfl
  · exact follows_parseSingle request

/-- Every gateway call follows the budget protocol. -/
theorem follows_call (call : GatewayCall) :
    (gateway.call call).Follows (call.protocol gateway) (call.Ends gateway)
      .idle := by
  cases call with
  | generate request =>
      apply Ends.bind (follows_generate request)
      intro response
      exact follows_pure.mpr rfl
  | embed request =>
      apply Ends.bind (follows_embed request)
      intro response
      exact follows_pure.mpr rfl
  | parse request =>
      apply Ends.bind (follows_parse request)
      intro response
      exact follows_pure.mpr rfl

end UpstageGateway

end RagBench
