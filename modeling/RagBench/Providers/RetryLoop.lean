import RagBench.Execution
import RagBench.Providers.Gateway

/-!
# The retry loop

`_request` sends its request again after a transport error, a 429 and a 5xx.
It ends as its last answer says, unless no delay can be computed for an attempt
that should be repeated.
-/

namespace RagBench

namespace PyFloat

/-- `left <= right`. -/
def le (left right : PyFloat) : Bool :=
  left.lt right || left.equals right

/-- `min(limit, max(0.0, delay))`, also where the delay is infinite or NaN. -/
theorem clamp_within {limit : PyFloat} (delay : PyFloat)
    (nonnegative : (finite 0).le limit = true) :
    (finite 0).le (limit.min ((finite 0).max delay)) = true ∧
      (limit.min ((finite 0).max delay)).le limit = true := by
  have positive : (finite 0).le ((finite 0).max delay) = true := by
    unfold PyFloat.max
    split_ifs with larger
    · rw [le, larger, Bool.true_or]
    · rfl
  unfold PyFloat.min
  split_ifs with smaller
  · exact ⟨positive, by rw [le, smaller, Bool.true_or]⟩
  · refine ⟨nonnegative, ?_⟩
    cases limit with
    | finite value => simp [le, equals]
    | infinity => rfl
    | negativeInfinity => rfl
    | nan => cases nonnegative

end PyFloat

/-! ## Surroundings -/

/-- What happens around a request.  Every field takes the number of requests
that were sent before. -/
structure Surroundings where
  answers : ℕ → Except PyException HttpResponse
  transport : ∀ sent error, answers sent = .error error →
    error.isInstance requestErrorClass = true
  jitter : ℕ → PyFloat → PyFloat
  clock : ℕ → Timestamp

namespace Surroundings

variable (surroundings : Surroundings)

def respond (sent : ℕ) :
    (op : GatewayOp) → Except PyException (GatewayReply op) × ℕ
  | .post _ => (surroundings.answers sent, sent + 1)
  | .jitter upper => (.ok (surroundings.jitter sent upper), sent)
  | .now => (.ok (surroundings.clock sent), sent)
  | .sleep _ => (.ok (), sent)
  | _ => (.error (.runtimeError "not an operation of a request"), sent)

/-- The operations, with the number of requests sent as the state. -/
def Performs (sent : ℕ) (op : GatewayOp)
    (outcome : Except PyException (GatewayReply op)) (after : ℕ) : Prop :=
  surroundings.respond sent op = (outcome, after)

end Surroundings

/-- The awaited operations of a request. -/
abbrev RequestTrace := List (Awaited GatewayOp GatewayReply PyException)

/-- The operation sends a request. -/
def GatewayOp.isPost : GatewayOp → Bool
  | .post _ => true
  | _ => false

def RequestTrace.requests (events : RequestTrace) : ℕ :=
  events.countP fun event => event.op.isPost

/-- The arguments of `self._sleep`. -/
def RequestTrace.waits (events : RequestTrace) : List PyFloat :=
  events.filterMap fun event =>
    match event.op with
    | .sleep seconds => some seconds
    | _ => none

namespace UpstageGateway

/-- A run of `_request`. -/
def runRequest (gateway : UpstageGateway) (surroundings : Surroundings)
    (request : HttpRequest) (maxRetries : Option ℕ) :
    RequestTrace × Except PyException HttpResponse × ℕ :=
  Program.execute surroundings.respond (gateway.request request maxRetries) 0

end UpstageGateway

/-! ## Answers -/

/-- A transport error, 429 or 5xx. -/
def Transient : Except PyException HttpResponse → Prop
  | .error _ => True
  | .ok response => ¬ response.accepted ∧
      (response.statusCode = 429 ∨ 500 ≤ response.statusCode)

/-- What a call makes of the answer that it does not retry. -/
def lastOutcome : Except PyException HttpResponse →
    Except PyException HttpResponse
  | .error error => .error error
  | .ok response =>
      if response.accepted then .ok response
      else .error (providerHttpError response.statusCode)

/-- The `Retry-After` that `_backoff` gets for an answer. -/
def retryAfterOf : Except PyException HttpResponse → Option String
  | .error _ => none
  | .ok response => response.retryAfter

/-- `float` or `parsedate_to_datetime` reads the header. -/
def ReadsDelay (platform : Platform) (header : String) : Prop :=
  (platform.parseFloat header).isSome = true ∨
    ∃ parsed, platform.parsedateToDatetime header = .ok parsed

/-- Neither reads it, and it counts as absent. -/
def IgnoresHeader (platform : Platform) (header : String) : Prop :=
  platform.parseFloat header = none ∧
    ∃ error, platform.parsedateToDatetime header = .error error ∧
      (error.isInstance .typeError = true ∨
        error.isInstance .valueError = true)

/-- The header gives the delay, or else the power of two of the attempt. -/
def HasDelay (platform : Platform) (attempt : ℕ) :
    Option String → Prop
  | none => attempt < 1024
  | some header => ReadsDelay platform header ∨
      IgnoresHeader platform header ∧ attempt < 1024

/-- At most one request more than the limit is sent.  The answers are transient
up to the last one, which decides the outcome, and every wait is in range. -/
structure FaithfulRetries (surroundings : Surroundings) (retryLimit : ℕ)
    (maxBackoff : PyFloat) (events : RequestTrace)
    (result : Except PyException HttpResponse) : Prop where
  ends : ∃ last ≤ retryLimit, events.requests = last + 1 ∧
    (∀ attempt < last, Transient (surroundings.answers attempt)) ∧
    (last < retryLimit → ¬ Transient (surroundings.answers last)) ∧
    result = lastOutcome (surroundings.answers last)
  waits : ∀ seconds ∈ events.waits,
    (PyFloat.finite 0).le seconds = true ∧ seconds.le maxBackoff = true
  reachable : result ≠ .error (.runtimeError "unreachable retry state")

/-! ## Delays -/

section Delays

variable {surroundings : Surroundings} {gateway : UpstageGateway}
  {sent attempt finish : ℕ} {events : RequestTrace}

/-- The end of a computation of a delay: nothing is sent and nobody waits. -/
structure Delays (maxBackoff : PyFloat) (sent : ℕ) (events : RequestTrace)
    (result : Except PyException PyFloat) (finish : ℕ) (possible : Prop) :
    Prop where
  unsent : finish = sent
  requests : events.requests = 0
  waits : events.waits = []
  delay : (possible ∧ ∃ delay, result = .ok delay ∧
      (PyFloat.finite 0).le delay = true ∧ delay.le maxBackoff = true) ∨
    ¬ possible ∧ ∃ error, result = .error error

/-- The power of two overflows from 1024 on. -/
theorem exponentialBackoff_delays {result : Except PyException PyFloat}
    (nonnegative : (PyFloat.finite 0).le gateway.maxBackoffSeconds = true)
    (executed : (gateway.exponentialBackoff attempt).Executes
      surroundings.Performs sent events result finish) :
    Delays gateway.maxBackoffSeconds sent events result finish
      (attempt < 1024) := by
  rw [UpstageGateway.exponentialBackoff] at executed
  rcases Program.executes_fromExcept_bind.mp executed with
    ⟨error, overflow, rfl, rfl, rfl⟩ | ⟨power, bounded, executed⟩
  · refine ⟨rfl, rfl, rfl, .inr ⟨?_, error, rfl⟩⟩
    intro small
    rw [UpstageGateway.powerOfTwo, if_pos small] at overflow
    cases overflow
  · have small : attempt < 1024 := by
      by_contra large
      rw [UpstageGateway.powerOfTwo, if_neg large] at bounded
      cases bounded
    rcases Program.executes_await_bind.mp executed with
      ⟨error, performed, rfl, rfl⟩ |
        ⟨drawn, middle, later, performed, rest, rfl⟩
    · cases performed
    · obtain ⟨rfl, rfl, rfl⟩ := Program.executes_pure.mp rest
      cases performed
      exact ⟨rfl, rfl, rfl, .inl ⟨small, _, rfl,
        PyFloat.clamp_within _ nonnegative⟩⟩

/-- What a header says. -/
theorem retryAfterSeconds_reads {header : String}
    {result : Except PyException (Option PyFloat)}
    (executed : (gateway.retryAfterSeconds header).Executes
      surroundings.Performs sent events result finish) :
    finish = sent ∧ events.requests = 0 ∧ events.waits = [] ∧
      ((ReadsDelay gateway.platform header ∧
          ∃ delay, result = .ok (some delay)) ∨
        (¬ ReadsDelay gateway.platform header ∧
          IgnoresHeader gateway.platform header ∧ result = .ok none) ∨
        ¬ ReadsDelay gateway.platform header ∧
          ¬ IgnoresHeader gateway.platform header ∧
          ∃ error, result = .error error) := by
  rw [UpstageGateway.retryAfterSeconds] at executed
  cases number : gateway.platform.parseFloat header with
  | some delay =>
      rw [number] at executed
      obtain ⟨rfl, rfl, rfl⟩ := Program.executes_pure.mp executed
      exact ⟨rfl, rfl, rfl, .inl ⟨.inl (by rw [number]; rfl), delay, rfl⟩⟩
  | none =>
      rw [number] at executed
      cases date : gateway.platform.parsedateToDatetime header with
      | ok parsed =>
          rw [date] at executed
          rcases Program.executes_await_bind.mp executed with
            ⟨error, performed, rfl, rfl⟩ |
              ⟨now, middle, later, performed, rest, rfl⟩
          · cases performed
          · obtain ⟨rfl, rfl, rfl⟩ := Program.executes_pure.mp rest
            cases performed
            exact ⟨rfl, rfl, rfl, .inl ⟨.inr ⟨parsed, date⟩, _, rfl⟩⟩
      | error error =>
          have unread : ¬ ReadsDelay gateway.platform header := by
            rintro (isNumber | ⟨parsed, isDate⟩)
            · rw [number] at isNumber
              cases isNumber
            · rw [date] at isDate
              cases isDate
          rw [date] at executed
          dsimp only at executed
          split_ifs at executed with caught
          · obtain ⟨rfl, rfl, rfl⟩ := Program.executes_pure.mp executed
            exact ⟨rfl, rfl, rfl,
              .inr (.inl ⟨unread, ⟨number, error, date, caught⟩, rfl⟩)⟩
          · obtain ⟨rfl, rfl, rfl⟩ := Program.executes_throw.mp executed
            refine ⟨rfl, rfl, rfl, .inr (.inr ⟨unread, ?_, error, rfl⟩)⟩
            rintro ⟨-, raised, date', caught'⟩
            rw [date] at date'
            cases date'
            exact caught caught'

theorem backoff_delays {retryAfter : Option String}
    {result : Except PyException PyFloat}
    (nonnegative : (PyFloat.finite 0).le gateway.maxBackoffSeconds = true)
    (executed : (gateway.backoff attempt retryAfter).Executes
      surroundings.Performs sent events result finish) :
    Delays gateway.maxBackoffSeconds sent events result finish
      (HasDelay gateway.platform attempt retryAfter) := by
  cases retryAfter with
  | none => exact exponentialBackoff_delays nonnegative executed
  | some header =>
      rw [UpstageGateway.backoff] at executed
      rcases Program.executes_bind.mp executed with
        ⟨error, first, rfl⟩ | ⟨early, delay, middle, later, first, rest, rfl⟩
      · obtain ⟨rfl, unsent, unwaited, ⟨-, _, same⟩ | ⟨-, -, same⟩ |
          ⟨unread, kept, -⟩⟩ := retryAfterSeconds_reads first
        · cases same
        · cases same
        · exact ⟨rfl, unsent, unwaited, .inr ⟨fun possible =>
            possible.elim unread (fun ignored => kept ignored.1),
            error, rfl⟩⟩
      · obtain ⟨rfl, unsent, unwaited, ⟨reads, seconds, same⟩ |
          ⟨unread, ignored, same⟩ | ⟨-, -, _, same⟩⟩ :=
            retryAfterSeconds_reads first
        · cases same
          obtain ⟨rfl, rfl, rfl⟩ := Program.executes_pure.mp rest
          rw [List.append_nil]
          exact ⟨rfl, unsent, unwaited, .inl ⟨.inl reads, _, rfl,
            PyFloat.clamp_within _ nonnegative⟩⟩
        · cases same
          have drawn := exponentialBackoff_delays nonnegative rest
          refine ⟨drawn.unsent, ?_, ?_, ?_⟩
          · rw [RequestTrace.requests, List.countP_append]
            exact congrArg₂ (· + ·) unsent drawn.requests
          · rw [RequestTrace.waits, List.filterMap_append]
            exact congrArg₂ (· ++ ·) unwaited drawn.waits
          · have same : HasDelay gateway.platform attempt (some header) ↔
                attempt < 1024 :=
              ⟨fun possible => possible.elim
                (fun reads => absurd reads unread) And.right,
                fun small => .inr ⟨ignored, small⟩⟩
            rw [same]
            exact drawn.delay
        · cases same

end Delays

/-! ## The loop -/

@[simp] theorem RequestTrace.requests_cons
    (event : Awaited GatewayOp GatewayReply PyException)
    (events : RequestTrace) :
    RequestTrace.requests (event :: events) =
      events.requests + if event.op.isPost then 1 else 0 :=
  List.countP_cons ..

@[simp] theorem RequestTrace.requests_append (early late : RequestTrace) :
    RequestTrace.requests (early ++ late) =
      early.requests + late.requests :=
  List.countP_append

@[simp] theorem RequestTrace.waits_append (early late : RequestTrace) :
    RequestTrace.waits (early ++ late) = early.waits ++ late.waits :=
  List.filterMap_append

section Loop

variable {surroundings : Surroundings} {gateway : UpstageGateway}
  {request : HttpRequest} {retryLimit attempt remaining finish : ℕ}
  {events : RequestTrace} {result : Except PyException HttpResponse}

/-- The attempt ends the loop, fails for want of a delay, or is followed by
another one. -/
inductive Attempted (surroundings : Surroundings) (gateway : UpstageGateway)
    (retryLimit attempt : ℕ) (events : RequestTrace)
    (result : Except PyException HttpResponse)
    (again : RequestTrace → Prop) : Prop where
  | last (requests : events.requests = 1) (waits : events.waits = [])
      (decided : attempt < retryLimit →
        ¬ Transient (surroundings.answers attempt))
      (outcome : result = lastOutcome (surroundings.answers attempt))
  | undelayed (requests : events.requests = 1) (waits : events.waits = [])
      (within : attempt < retryLimit)
      (transient : Transient (surroundings.answers attempt))
      (missing : ¬ HasDelay gateway.platform attempt
        (retryAfterOf (surroundings.answers attempt)))
      (raised : ∃ error, result = .error error)
  | again (later : RequestTrace) (delay : PyFloat)
      (requests : events.requests = later.requests + 1)
      (waits : events.waits = delay :: later.waits)
      (within : attempt < retryLimit)
      (transient : Transient (surroundings.answers attempt))
      (delayed : HasDelay gateway.platform attempt
        (retryAfterOf (surroundings.answers attempt)))
      (inRange : (PyFloat.finite 0).le delay = true ∧
        delay.le gateway.maxBackoffSeconds = true)
      (goesOn : again later)

/-- The wait for the next attempt, and that attempt. -/
theorem retry_attempted {next : GatewayM HttpResponse} {request : HttpRequest}
    (nonnegative : (PyFloat.finite 0).le gateway.maxBackoffSeconds = true)
    (within : attempt < retryLimit)
    (transient : Transient (surroundings.answers attempt))
    (executed : Program.Executes surroundings.Performs
      (do
        let delay ← gateway.backoff attempt
          (retryAfterOf (surroundings.answers attempt))
        GatewayM.sleep delay
        next) (attempt + 1) events result finish) :
    Attempted surroundings gateway retryLimit attempt
      (⟨.post request, surroundings.answers attempt⟩ :: events) result
      fun later => next.Executes surroundings.Performs (attempt + 1) later
        result finish := by
  rcases Program.executes_bind.mp executed with
    ⟨error, first, rfl⟩ | ⟨early, delay, middle, later, first, rest, rfl⟩
  · obtain ⟨rfl, unsent, unwaited, ⟨-, _, same, -⟩ | ⟨missing, -⟩⟩ :=
      backoff_delays nonnegative first
    · cases same
    · exact .undelayed (by simp [unsent, GatewayOp.isPost]) unwaited within
        transient missing ⟨error, rfl⟩
  · obtain ⟨rfl, unsent, unwaited, ⟨delayed, _, same, inRange⟩ |
      ⟨-, _, same⟩⟩ := backoff_delays nonnegative first
    · cases same
      rcases Program.executes_await_bind.mp rest with
        ⟨error, performed, rfl, rfl⟩ |
          ⟨woken, middle, last, performed, goesOn, rfl⟩
      · cases performed
      · cases performed
        refine .again last delay ?_ ?_ within transient delayed inRange goesOn
        · simp [unsent, GatewayOp.isPost]
        · exact (RequestTrace.waits_append early _).trans
            (congrArg (· ++ (delay :: RequestTrace.waits last)) unwaited)
    · cases same

theorem requestFrom_attempted
    (nonnegative : (PyFloat.finite 0).le gateway.maxBackoffSeconds = true)
    (bounded : attempt ≤ retryLimit)
    (executed : (gateway.requestFrom request retryLimit attempt
      (remaining + 1)).Executes surroundings.Performs attempt events result
        finish) :
    Attempted surroundings gateway retryLimit attempt events result
      fun later => (gateway.requestFrom request retryLimit (attempt + 1)
        remaining).Executes surroundings.Performs (attempt + 1) later result
          finish := by
  rw [UpstageGateway.requestFrom] at executed
  rcases Program.executes_bind.mp executed with
    ⟨error, first, rfl⟩ | ⟨early, answer, middle, later, first, rest, rfl⟩
  · obtain ⟨outcome, -, same⟩ := Program.executes_attempt.mp first
    cases same
  obtain ⟨outcome, awaited, same⟩ := Program.executes_attempt.mp first
  cases same
  obtain ⟨performed, rfl⟩ := Program.executes_await.mp awaited
  obtain ⟨answered, rfl⟩ := Prod.mk.inj performed
  subst answered
  cases answer : surroundings.answers attempt with
  | error error =>
      have transport := surroundings.transport attempt error answer
      rw [answer] at rest
      dsimp only at rest
      split_ifs at rest with retried
      · have transient : Transient (surroundings.answers attempt) := by
          rw [answer]
          trivial
        rw [← answer]
        refine retry_attempted nonnegative retried.2 transient ?_
        rw [answer]
        exact rest
      · obtain ⟨rfl, rfl, rfl⟩ := Program.executes_throw.mp rest
        refine .last rfl rfl ?_ (by rw [answer]; rfl)
        exact fun within => absurd ⟨transport, within⟩ retried
  | ok response =>
      rw [answer] at rest
      dsimp only at rest
      split_ifs at rest with accepted client exhausted
      · obtain ⟨rfl, rfl, rfl⟩ := Program.executes_pure.mp rest
        refine .last rfl rfl ?_ (by rw [answer]; exact (if_pos accepted).symm)
        rw [answer]
        exact fun _ transient => transient.1 accepted
      · obtain ⟨rfl, rfl, rfl⟩ := Program.executes_throw.mp rest
        refine .last rfl rfl ?_ (by rw [answer]; exact (if_neg accepted).symm)
        rw [answer]
        intro _ transient
        rcases transient.2 with limited | server
        · exact client.1 limited
        · omega
      · obtain ⟨rfl, rfl, rfl⟩ := Program.executes_throw.mp rest
        refine .last rfl rfl ?_ (by rw [answer]; exact (if_neg accepted).symm)
        omega
      · have transient : Transient (surroundings.answers attempt) := by
          rw [answer]
          refine ⟨accepted, ?_⟩
          omega
        rw [← answer]
        refine retry_attempted nonnegative (by omega) transient ?_
        rw [answer]
        exact rest

/-- The last attempt of the loop, and what came before it. -/
structure LoopEnds (surroundings : Surroundings) (gateway : UpstageGateway)
    (retryLimit attempt : ℕ) (events : RequestTrace)
    (result : Except PyException HttpResponse) (last : ℕ) : Prop where
  bounds : attempt ≤ last ∧ last ≤ retryLimit
  requests : attempt + events.requests = last + 1
  waits : ∀ seconds ∈ events.waits, (PyFloat.finite 0).le seconds = true ∧
    seconds.le gateway.maxBackoffSeconds = true
  earlier : ∀ other, attempt ≤ other → other < last →
    Transient (surroundings.answers other) ∧
      HasDelay gateway.platform other
        (retryAfterOf (surroundings.answers other))
  ends : (last < retryLimit → ¬ Transient (surroundings.answers last)) ∧
      result = lastOutcome (surroundings.answers last) ∨
    last < retryLimit ∧ Transient (surroundings.answers last) ∧
      ¬ HasDelay gateway.platform last
        (retryAfterOf (surroundings.answers last))

/-- By induction on the attempts that are left. -/
theorem requestFrom_ends
    (nonnegative : (PyFloat.finite 0).le gateway.maxBackoffSeconds = true)
    (some : 0 < remaining) (left : attempt + remaining = retryLimit + 1)
    (executed : (gateway.requestFrom request retryLimit attempt
      remaining).Executes surroundings.Performs attempt events result
        finish) :
    ∃ last, LoopEnds surroundings gateway retryLimit attempt events result
      last := by
  induction remaining generalizing attempt events with
  | zero => cases some
  | succ remaining induction =>
      have bounded : attempt ≤ retryLimit := by omega
      cases requestFrom_attempted nonnegative bounded executed with
      | last requests waits decided outcome =>
          refine ⟨attempt, ⟨le_rfl, bounded⟩, by rw [requests], ?_, ?_,
            .inl ⟨decided, outcome⟩⟩
          · rw [waits]
            exact nofun
          · exact fun other after before => absurd before (by omega)
      | undelayed requests waits within transient missing raised =>
          refine ⟨attempt, ⟨le_rfl, bounded⟩, by rw [requests], ?_, ?_,
            .inr ⟨within, transient, missing⟩⟩
          · rw [waits]
            exact nofun
          · exact fun other after before => absurd before (by omega)
      | again later delay requests waits within transient delayed inRange
          goesOn =>
          obtain ⟨last, ended⟩ := induction (by omega) (by omega) goesOn
          have := ended.bounds
          have := ended.requests
          refine ⟨last, ⟨by omega, by omega⟩, by omega, ?_, ?_, ended.ends⟩
          · rw [waits]
            exact List.forall_mem_cons.mpr ⟨inRange, ended.waits⟩
          · intro other after before
            rcases eq_or_lt_of_le after with rfl | later
            · exact ⟨transient, delayed⟩
            · exact ended.earlier other later before

/-- Neither an answer nor a client error is the error behind the loop. -/
theorem lastOutcome_ne_unreachable (surroundings : Surroundings)
    (attempt : ℕ) : lastOutcome (surroundings.answers attempt) ≠
      .error (.runtimeError "unreachable retry state") := by
  cases answer : surroundings.answers attempt with
  | error error =>
      rintro ⟨⟩
      exact absurd (surroundings.transport attempt _ answer) (by decide)
  | ok response =>
      unfold lastOutcome
      dsimp only
      split_ifs
      · exact nofun
      · intro same
        have classes : providerHttpErrorClass = .runtimeError :=
          congrArg PyException.cls (Except.error.inj same)
        exact absurd classes (by decide)

/-- Every attempt that should be repeated finds a delay. -/
def RetriesDelayed (surroundings : Surroundings) (gateway : UpstageGateway)
    (retryLimit : ℕ) : Prop :=
  ∀ attempt < retryLimit,
    (∀ earlier ≤ attempt, Transient (surroundings.answers earlier)) →
      HasDelay gateway.platform attempt
        (retryAfterOf (surroundings.answers attempt))

theorem LoopEnds.faithful {last : ℕ}
    (ended : LoopEnds surroundings gateway retryLimit 0 events result last)
    (delays : RetriesDelayed surroundings gateway retryLimit) :
    FaithfulRetries surroundings retryLimit gateway.maxBackoffSeconds events
      result := by
  have before : ∀ attempt < last,
      Transient (surroundings.answers attempt) :=
    fun attempt earlier =>
      (ended.earlier attempt (Nat.zero_le _) earlier).1
  have counted : events.requests = last + 1 := by
    have := ended.requests
    omega
  rcases ended.ends with ⟨decided, rfl⟩ | ⟨within, transient, missing⟩
  · exact ⟨⟨last, ended.bounds.2, counted, before, decided, rfl⟩, ended.waits,
      lastOutcome_ne_unreachable surroundings last⟩
  · refine absurd (delays last within fun earlier atMost => ?_) missing
    rcases eq_or_lt_of_le atMost with rfl | earlier
    · exact transient
    · exact before _ earlier

/-- The number of requests tells which attempt was the last one. -/
theorem LoopEnds.delayed {last : ℕ}
    (ended : LoopEnds surroundings gateway retryLimit 0 events result last)
    (faithful : FaithfulRetries surroundings retryLimit
      gateway.maxBackoffSeconds events result) :
    RetriesDelayed surroundings gateway retryLimit := by
  intro attempt within transients
  obtain ⟨final, -, counted, -, decided, -⟩ := faithful.ends
  obtain rfl : final = last := by
    have := ended.requests
    omega
  by_cases passed : attempt < final
  · exact (ended.earlier attempt (Nat.zero_le _) passed).2
  · have transient := transients final (by omega)
    exact absurd transient (decided (by omega))

end Loop

namespace UpstageGateway

variable {gateway : UpstageGateway} {surroundings : Surroundings}

theorem runRequest_ends (surroundings : Surroundings)
    (nonnegative : (PyFloat.finite 0).le gateway.maxBackoffSeconds = true)
    (request : HttpRequest) (maxRetries : Option ℕ) :
    ∃ last, LoopEnds surroundings gateway
      (maxRetries.getD gateway.maxRetries) 0
      (gateway.runRequest surroundings request maxRetries).1
      (gateway.runRequest surroundings request maxRetries).2.1 last :=
  requestFrom_ends nonnegative (Nat.succ_pos _) (Nat.zero_add _)
    (Program.executes_execute (fun _ _ => rfl) _ 0)

/-- A call retries faithfully if and only if every retry finds a delay. -/
theorem request_faithful_iff
    (nonnegative : (PyFloat.finite 0).le gateway.maxBackoffSeconds = true)
    (request : HttpRequest) (maxRetries : Option ℕ) :
    FaithfulRetries surroundings (maxRetries.getD gateway.maxRetries)
        gateway.maxBackoffSeconds
        (gateway.runRequest surroundings request maxRetries).1
        (gateway.runRequest surroundings request maxRetries).2.1 ↔
      RetriesDelayed surroundings gateway
        (maxRetries.getD gateway.maxRetries) := by
  obtain ⟨last, ended⟩ :=
    runRequest_ends surroundings nonnegative request maxRetries
  exact ⟨ended.delayed, ended.faithful⟩

/-! ## Too many retries -/

/-- The provider is never available. -/
def unavailable : Surroundings where
  answers := fun _ => .ok { statusCode := 503, json := .ok .null }
  transport := nofun
  jitter := fun _ upper => upper
  clock := fun _ => 0

theorem unavailable_transient (attempt : ℕ) :
    Transient (unavailable.answers attempt) :=
  ⟨by decide, .inr (by decide)⟩

theorem request_faithful_sample :
    (PyFloat.finite 0).le sampleGateway.maxBackoffSeconds = true ∧
      FaithfulRetries unavailable 5 (.finite 8)
        (sampleGateway.runRequest unavailable
          { path := "embeddings", correlationId := ⟨0⟩ } (some 5)).1
        (sampleGateway.runRequest unavailable
          { path := "embeddings", correlationId := ⟨0⟩ } (some 5)).2.1 := by
  have nonnegative :
      (PyFloat.finite 0).le sampleGateway.maxBackoffSeconds = true := by
    decide
  refine ⟨nonnegative, (request_faithful_iff nonnegative _ (some 5)).mpr ?_⟩
  intro attempt within _
  exact within.trans (by decide)

/-- After 1025 failures the next delay is out of range for a float. -/
theorem overflowing_retries :
    ¬ ∀ (gateway : UpstageGateway) (surroundings : Surroundings)
      (request : HttpRequest) (maxRetries : Option ℕ),
      (PyFloat.finite 0).le gateway.maxBackoffSeconds = true →
      FaithfulRetries surroundings (maxRetries.getD gateway.maxRetries)
        gateway.maxBackoffSeconds
        (gateway.runRequest surroundings request maxRetries).1
        (gateway.runRequest surroundings request maxRetries).2.1 := by
  intro always
  have nonnegative :
      (PyFloat.finite 0).le sampleGateway.maxBackoffSeconds = true := by
    decide
  let request : HttpRequest := { path := "embeddings", correlationId := ⟨0⟩ }
  obtain ⟨last, ended⟩ :=
    runRequest_ends unavailable nonnegative request (some 1025)
  have delays := ended.delayed
    (always sampleGateway unavailable request (some 1025) nonnegative)
  have small : 1024 < 1024 := delays 1024 (Nat.lt_succ_self _)
    fun earlier _ => unavailable_transient earlier
  exact absurd small (lt_irrefl _)

end UpstageGateway

end RagBench
