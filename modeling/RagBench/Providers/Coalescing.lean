import RagBench.Providers.BudgetCap
import RagBench.Providers.CacheKeys
import RagBench.Providers.Singleflight

/-!
# Request coalescing

Gateway calls that share a `MemoryProviderStore`.  A call looks into the cache,
takes the singleflight lock of its key, looks again, and only after that second
miss reserves, posts and stores.  So a key has one request in flight, and none
after its response was stored.
-/

namespace RagBench

open Program (Protocol)

/-! ## The store -/

/-- An entry of `MemoryProviderStore`. -/
structure StoredResponse where
  response : JsonObject
  responseHash : String
  expiresAt : Option Timestamp

structure MemoryProviderStore where
  entries : Dict String StoredResponse

namespace MemoryProviderStore

/-- `get` at the time `now`. -/
def get (store : MemoryProviderStore) (platform : Platform) (now : Timestamp)
    (key : String) :
    Except PyException (Option CachedResponse) × MemoryProviderStore :=
  match store.entries.get? key with
  | none => (.ok none, store)
  | some cached =>
      if ∃ expiry ∈ cached.expiresAt, expiry ≤ now then (.ok none, store)
      else
        match platform.canonicalJsonHash (.object cached.response) with
        | .error error => (.error error, store)
        | .ok hash =>
            if cached.responseHash ≠ hash then
              (.ok none, { entries := store.entries.erase key })
            else (.ok (some ⟨cached.response⟩), store)

def put (store : MemoryProviderStore) (platform : Platform) (key : String)
    (response : JsonObject) : Except PyException Unit × MemoryProviderStore :=
  match platform.canonicalJsonHash (.object response) with
  | .error error => (.error error, store)
  | .ok hash =>
      (.ok (), { entries := store.entries.set key ⟨response, hash, none⟩ })

/-- The entry of the key does not expire and its hash is right. -/
def Intact (store : MemoryProviderStore) (platform : Platform)
    (key : String) : Prop :=
  ∃ cached, store.entries.get? key = some cached ∧
    cached.expiresAt = none ∧
    platform.canonicalJsonHash (.object cached.response) =
      .ok cached.responseHash

variable {store : MemoryProviderStore} {platform : Platform} {key : String}

theorem Intact.get (intact : store.Intact platform key) (now : Timestamp) :
    ∃ cached, store.get platform now key = (.ok (some cached), store) := by
  obtain ⟨cached, found, lasting, hashed⟩ := intact
  refine ⟨⟨cached.response⟩, ?_⟩
  unfold MemoryProviderStore.get
  rw [found]
  dsimp only
  rw [lasting, if_neg (by simp), hashed]
  exact if_neg (fun wrong => wrong rfl)

theorem put_ok {response : JsonObject}
    (success : (store.put platform key response).1 = .ok ()) :
    (store.put platform key response).2.Intact platform key := by
  unfold put at success ⊢
  split at success
  · cases success
  · rename_i hash hashed
    exact ⟨_, Dict.get?_set_self _ _ _, rfl, hashed⟩

/-- Other keys are stored as before. -/
theorem put_other {response : JsonObject} {other : String}
    (different : key ≠ other) :
    (store.put platform key response).2.entries.get? other =
      store.entries.get? other := by
  unfold put
  split
  · rfl
  · exact Dict.get?_set_of_ne _ _ different

theorem get_other {now : Timestamp} {other : String}
    (different : key ≠ other) :
    (store.get platform now key).2.entries.get? other =
      store.entries.get? other := by
  unfold MemoryProviderStore.get
  split
  · rfl
  · split_ifs
    · rfl
    · split
      · rfl
      · split_ifs
        · exact (Dict.get?_erase _ _ _).trans (if_neg different)
        · rfl

theorem Intact.of_same {after : MemoryProviderStore}
    (intact : store.Intact platform key)
    (same : after.entries.get? key = store.entries.get? key) :
    after.Intact platform key := by
  obtain ⟨cached, found, rest⟩ := intact
  exact ⟨cached, same.trans found, rest⟩

end MemoryProviderStore

/-- The operations of the lock, which the store does not perform. -/
def GatewayOp.isLock : GatewayOp → Bool
  | .enterSingleflight _ => true
  | .exitSingleflight _ => true
  | _ => false

/-- The operations on the cache. -/
def GatewayOp.isCache : GatewayOp → Bool
  | .cacheGet _ => true
  | .cachePut _ _ _ _ => true
  | _ => false

/-- What an awaited operation does to the store.  Any operation may raise, and
HTTP, the clock and the budget may answer anything. -/
inductive StoreStep (platform : Platform) (before : MemoryProviderStore) :
    (op : GatewayOp) → Except PyException (GatewayReply op) →
      MemoryProviderStore → Prop where
  | cacheGet (key : String) (now : Timestamp) :
      StoreStep platform before (.cacheGet key)
        (before.get platform now key).1 (before.get platform now key).2
  | cachePut (key : String) (operation : Operation) (modelId : String)
      (response : JsonObject) :
      StoreStep platform before (.cachePut key operation modelId response)
        (before.put platform key response).1
        (before.put platform key response).2
  | raised (op : GatewayOp) (error : PyException) (unlocked : ¬ op.isLock) :
      StoreStep platform before op (.error error) before
  | elsewhere (op : GatewayOp) (outcome : Except PyException (GatewayReply op))
      (unlocked : ¬ op.isLock) (uncached : ¬ op.isCache) :
      StoreStep platform before op outcome before

/-! ## The system -/

/-- Gateway calls on one store. -/
structure Coalescing (ι : Type) where
  store : MemoryProviderStore
  locks : Singleflight ι
  tasks : ι → GatewayM GatewayResult

inductive CoalescingEvent (ι : Type) where
  /-- A task has started to wait for a lock. -/
  | arrived (task : ι) (key : String)
  | resumed (completion : Completion ι GatewayOp GatewayReply PyException)
  /-- Somebody else changed the entry of a key. -/
  | tampered (key : String)

namespace Coalescing

variable {ι : Type}

section System

variable [DecidableEq ι]

def start (store : MemoryProviderStore) (gateways : ι → UpstageGateway)
    (calls : ι → GatewayCall) : Coalescing ι :=
  { store := store
    locks := .init
    tasks := fun task => (gateways task).call (calls task) }

inductive Step (platform : Platform) (before : Coalescing ι) :
    CoalescingEvent ι → Coalescing ι → Prop where
  | arrive {task : ι} {key : String}
      {next : Except PyException Unit → GatewayM GatewayResult}
      (suspended : before.tasks task = .call (.enterSingleflight key) next)
      (outside : before.locks.frames task = .outside) :
      Step platform before (.arrived task key)
        { before with locks := before.locks.arrive task key }
  | enter {task : ι} {key : String} {object : ℕ}
      {next : Except PyException Unit → GatewayM GatewayResult}
      (suspended : before.tasks task = .call (.enterSingleflight key) next)
      (waiting : before.locks.frames task = .waiting key object)
      (free : (before.locks.registry.objects object).locked = false) :
      Step platform before
        (.resumed ⟨task, .enterSingleflight key, .ok ()⟩)
        { before with
          locks := before.locks.acquire task key object
          tasks := Function.update before.tasks task (next (.ok ())) }
  | abandon {task : ι} {key : String} {object : ℕ}
      {next : Except PyException Unit → GatewayM GatewayResult}
      (suspended : before.tasks task = .call (.enterSingleflight key) next)
      (waiting : before.locks.frames task = .waiting key object)
      (error : PyException) :
      Step platform before
        (.resumed ⟨task, .enterSingleflight key, .error error⟩)
        { before with
          locks := before.locks.leave task key object false
          tasks := Function.update before.tasks task (next (.error error)) }
  | exit {task : ι} {key : String} {object : ℕ}
      {next : Except PyException Unit → GatewayM GatewayResult}
      (suspended : before.tasks task = .call (.exitSingleflight key) next)
      (holding : before.locks.frames task = .holding key object) :
      Step platform before (.resumed ⟨task, .exitSingleflight key, .ok ()⟩)
        { before with
          locks := before.locks.leave task key object true
          tasks := Function.update before.tasks task (next (.ok ())) }
  | perform {task : ι} {op : GatewayOp}
      {next : Except PyException (GatewayReply op) → GatewayM GatewayResult}
      {outcome : Except PyException (GatewayReply op)}
      {store : MemoryProviderStore}
      (suspended : before.tasks task = .call op next)
      (performed : StoreStep platform before.store op outcome store) :
      Step platform before (.resumed ⟨task, op, outcome⟩)
        { before with
          store := store
          tasks := Function.update before.tasks task (next outcome) }
  | tamper {key : String} {store : MemoryProviderStore}
      (others : ∀ other ≠ key,
        store.entries.get? other = before.store.entries.get? other) :
      Step platform before (.tampered key) { before with store := store }

end System

/-- The task holds the lock of the key. -/
def Holds (system : Coalescing ι) (task : ι) (key : String) : Prop :=
  ∃ object, system.locks.frames task = .holding key object

/-- The HTTP request of the task is in flight. -/
def Posting (system : Coalescing ι) (task : ι) (request : HttpRequest) :
    Prop :=
  ∃ next, system.tasks task = .call (.post request) next

/-- The task is opening a reservation. -/
def Reserving (system : Coalescing ι) (task : ι) : Prop :=
  ∃ correlationId projectedCost hardLimit next, system.tasks task =
    .call (.reserveAtomic correlationId projectedCost hardLimit) next

/-- A response of the key was put, and its entry was left alone since. -/
def StoredSince (key : String) (events : List (CoalescingEvent ι)) : Prop :=
  ∃ early late task operation modelId response,
    events = early ++ .resumed
      ⟨task, .cachePut key operation modelId response, .ok ()⟩ :: late ∧
    ∀ event ∈ late, event ≠ .tampered key

/-- What requests owe to the keys of the calls they are sent for. -/
structure Coalesced (gateways : ι → UpstageGateway)
    (events : List (CoalescingEvent ι)) (system : Coalescing ι) : Prop where
  keyed : ∀ task request, system.Posting task request →
    ∃ (key : String) (call : GatewayCall), system.Holds task key ∧
      call.cacheKey (gateways task).platform = .ok key ∧
      request = call.httpRequest request.correlationId
  reserved : ∀ task, system.Reserving task → ∃ key, system.Holds task key
  single : ∀ task task' request request' key, system.Posting task request →
    system.Posting task' request' → system.Holds task key →
    system.Holds task' key → task = task'
  answered : ∀ key, StoredSince key events → ∀ task, system.Holds task key →
    (∀ request, ¬ system.Posting task request) ∧ ¬ system.Reserving task

end Coalescing

/-! ## The protocol of a call -/

/-- Where a call stands with the lock of a key and the cache under it. -/
inductive CoalescingPhase where
  | outside
  | entered (key : String)
  /-- The second lookup found nothing. -/
  | missed (key : String)
  | stored (key : String)

namespace CoalescingPhase

/-- The key whose lock the call holds. -/
def key? : CoalescingPhase → Option String
  | .outside => none
  | .entered key => some key
  | .missed key => some key
  | .stored key => some key

/-- What the call may await in a phase. -/
def Allows (platform : Platform) (phase : CoalescingPhase) : GatewayOp → Prop
  | .enterSingleflight _ => phase = .outside
  | .exitSingleflight key => phase.key? = some key
  | .post request => ∃ (key : String) (call : GatewayCall),
      phase = .missed key ∧ call.cacheKey platform = .ok key ∧
        request = call.httpRequest request.correlationId
  | .reserveAtomic _ _ _ => ∃ key, phase = .missed key
  | .cachePut key _ _ _ => phase = .missed key
  | _ => True

/-- How an outcome moves the phase.  Leaving the lock never raises. -/
def Moves (phase : CoalescingPhase) : (op : GatewayOp) →
    Except PyException (GatewayReply op) → CoalescingPhase → Prop
  | .enterSingleflight key, .ok _, after => after = .entered key
  | .exitSingleflight _, .ok _, after => after = .outside
  | .exitSingleflight _, .error _, _ => False
  | .cacheGet key, .ok none, after =>
      (phase = .entered key ∧ after = .missed key) ∨
        (phase ≠ .entered key ∧ after = phase)
  | .cachePut key _ _ _, .ok _, after => after = .stored key
  | _, _, after => after = phase

def protocol (platform : Platform) :
    Protocol GatewayOp GatewayReply PyException CoalescingPhase :=
  { allows := Allows platform
    moves := Moves }

end CoalescingPhase

namespace UpstageGateway

open CoalescingPhase GatewayM Program

variable {gateway : UpstageGateway} {platform : Platform}
  {phase : CoalescingPhase} {key : String} {α β : Type}

private theorem ignoresDelays_coalescing :
    IgnoresDelays (CoalescingPhase.protocol platform) phase :=
  { now := ⟨trivial, fun _ _ moved => moved⟩
    jitter := fun _ => ⟨trivial, fun _ _ moved => moved⟩
    sleep := fun _ => ⟨trivial, fun _ _ moved => moved⟩ }

/-- A request that the protocol lets the call post. -/
def Keyed (platform : Platform) (key : String) (http : HttpRequest) : Prop :=
  ∃ call : GatewayCall, call.cacheKey platform = .ok key ∧
    http = call.httpRequest http.correlationId

theorem leaves_requestFrom {http : HttpRequest}
    (keyed : Keyed platform key http) (retryLimit attempt remaining : ℕ) :
    (gateway.requestFrom http retryLimit attempt remaining).Leaves
      (CoalescingPhase.protocol platform) (.missed key) := by
  induction remaining generalizing attempt with
  | zero => exact leaves_throw _
  | succ remaining induction =>
      have again : ∀ retryAfter,
          ((gateway.backoff attempt retryAfter) >>= fun delay => do
            sleep delay
            gateway.requestFrom http retryLimit (attempt + 1) remaining).Leaves
              (CoalescingPhase.protocol platform) (.missed key) := by
        intro retryAfter
        refine (leaves_backoff ignoresDelays_coalescing attempt
          retryAfter).bind ?_ (fun _ => rfl)
        intro delay
        exact (leaves_await (ignoresDelays_coalescing.sleep delay)).bind
          (fun _ => induction _) (fun _ => rfl)
      obtain ⟨call, keyed, same⟩ := keyed
      have posted : (post http).attempt.Leaves
          (CoalescingPhase.protocol platform) (.missed key) :=
        Follows.attempt (leaves_await
          ⟨⟨key, call, rfl, keyed, same⟩, fun _ _ moved => moved⟩)
          (fun _ _ moved => moved)
      unfold requestFrom
      refine posted.bind ?_ (fun _ => rfl)
      rintro (error | response)
      · dsimp only
        split_ifs
        · exact again none
        · exact leaves_throw _
      · dsimp only
        split_ifs
        · exact leaves_pure _
        · exact leaves_throw _
        · exact leaves_throw _
        · exact again response.retryAfter

private theorem leaves_requestReserved {http : HttpRequest}
    (keyed : Keyed platform key http) (reservation : Reservation)
    (maxRetries : Option ℕ) :
    (gateway.requestReserved reservation http maxRetries).Leaves
      (CoalescingPhase.protocol platform) (.missed key) := by
  apply Follows.catching (leaves_requestFrom keyed _ _ _)
  · intro response after reached
    exact reached
  · rintro error after rfl
    have released : (release reservation.id).Leaves
        (CoalescingPhase.protocol platform) (.missed key) :=
      leaves_await ⟨trivial, fun _ _ moved => moved⟩
    exact released.bind (fun _ => leaves_throw _) (fun _ => rfl)

private theorem leaves_reserve (projected : ℚ) :
    (gateway.reserve projected).Leaves (CoalescingPhase.protocol platform)
      (.missed key) := by
  have minted : uuid4.Leaves (CoalescingPhase.protocol platform)
      (.missed key) :=
    leaves_await ⟨trivial, fun _ _ moved => moved⟩
  refine minted.bind ?_ (fun _ => rfl)
  intro correlationId
  have reserved : (reserveAtomic correlationId projected
      gateway.hardLimit).Leaves (CoalescingPhase.protocol platform)
        (.missed key) :=
    leaves_await ⟨⟨key, rfl⟩, fun _ _ moved => moved⟩
  split_ifs
  · exact leaves_throw _
  · exact reserved.bind (fun _ => leaves_pure _) (fun _ => rfl)

private theorem leaves_recordCacheHit (operation : Operation)
    (modelId : String) (usage : Usage) :
    (gateway.recordCacheHit operation modelId usage).Leaves
      (CoalescingPhase.protocol platform) phase := by
  have minted : uuid4.Leaves (CoalescingPhase.protocol platform) phase :=
    leaves_await ⟨trivial, fun _ _ moved => moved⟩
  refine minted.bind ?_ (fun _ => rfl)
  intro correlationId
  refine (leaves_fromExcept _).bind ?_ (fun _ => rfl)
  intro _
  have recorded : (GatewayM.recordCacheHit correlationId operation modelId
      usage).Leaves (CoalescingPhase.protocol platform) phase :=
    leaves_await ⟨trivial, fun _ _ moved => moved⟩
  exact recorded.bind (fun _ => leaves_pure _) (fun _ => rfl)

private theorem leaves_settle (reservationId : Uuid) (operation : Operation)
    (modelId : String) (usage : Usage) (reconciliationRequired : Bool) :
    (settle reservationId operation modelId usage false
      reconciliationRequired).Leaves (CoalescingPhase.protocol platform)
        phase :=
  leaves_await ⟨trivial, fun _ _ moved => moved⟩

/-! ## Under the lock -/

/-- The call still holds the lock of the key. -/
def Keeps (key : String) {α : Type} (_ : Except PyException α)
    (phase : CoalescingPhase) : Prop :=
  phase.key? = some key

/-- The end of a paid call: the response is put under the key. -/
private theorem follows_put {operation : Operation} {modelId : String}
    {raw : JsonObject} (value : α) :
    (cachePut key operation modelId raw >>= fun _ =>
      (pure value : GatewayM α)).Follows (CoalescingPhase.protocol platform)
        (Keeps key) (.missed key) := by
  have put : (cachePut key operation modelId raw).Follows
      (CoalescingPhase.protocol platform) (Keeps key) (.missed key) := by
    refine follows_await.mpr ⟨rfl, ?_⟩
    rintro (error | done) after moved
    · obtain rfl : after = .missed key := moved
      rfl
    · obtain rfl : after = .stored key := moved
      rfl
  refine put.bind ?_ ?_
  · intro _ after kept
    exact kept
  · intro _ after kept
    exact kept

private theorem follows_generateMissed {request : GenerateRequest}
    {maxOutputTokens : ℤ}
    (bound : request.maxOutputTokens = some maxOutputTokens)
    (keyed : cacheKeyForGenerate platform request = .ok key) :
    (gateway.generateUncached request maxOutputTokens key).Follows
      (CoalescingPhase.protocol platform) (Keeps key) (.missed key) := by
  unfold generateUncached
  refine (leaves_fromExcept _).bind ?_ (fun _ => rfl)
  intro projected
  refine (leaves_reserve projected).bind ?_ (fun _ => rfl)
  rintro ⟨correlationId, reservation⟩
  refine (leaves_requestReserved ⟨.generate request, keyed, ?_⟩ reservation
    none).bind ?_ (fun _ => rfl)
  · simp only [GatewayCall.httpRequest, bound, Option.getD_some]
  · intro response
    dsimp only
    split
    · refine (leaves_fromExcept _).bind ?_ (fun _ => rfl)
      intro usage
      exact (leaves_settle _ _ _ _ _).bind (fun _ => rfl) (fun _ => rfl)
    · exact (leaves_settle _ _ _ _ _).bind (fun _ => follows_put _)
        (fun _ => rfl)

private theorem follows_embedMissed {request : EmbedRequest} {projected : ℚ}
    (keyed : cacheKeyForEmbed platform request = .ok key) :
    (gateway.embedUncached request projected key).Follows
      (CoalescingPhase.protocol platform) (Keeps key) (.missed key) := by
  unfold embedUncached
  refine (leaves_reserve projected).bind ?_ (fun _ => rfl)
  rintro ⟨correlationId, reservation⟩
  refine (leaves_requestReserved ⟨.embed request, keyed, rfl⟩ reservation
    none).bind ?_ (fun _ => rfl)
  intro response
  dsimp only
  split
  · exact (leaves_settle _ _ _ _ _).bind (fun _ => rfl) (fun _ => rfl)
  · exact (leaves_settle _ _ _ _ _).bind (fun _ => follows_put _)
      (fun _ => rfl)

private theorem follows_parseMissed {request : ParseRequest} {projected : ℚ}
    (keyed : parseCacheKey platform request = .ok key) :
    (gateway.parseUncached request projected key).Follows
      (CoalescingPhase.protocol platform) (Keeps key) (.missed key) := by
  unfold parseUncached
  refine (leaves_reserve projected).bind ?_ (fun _ => rfl)
  rintro ⟨correlationId, reservation⟩
  refine (leaves_requestReserved ⟨.parse request, keyed, rfl⟩ reservation
    (some 0)).bind ?_ (fun _ => rfl)
  intro response
  dsimp only
  split
  · exact (leaves_settle _ _ _ _ _).bind (fun _ => rfl) (fun _ => rfl)
  · exact (leaves_settle _ _ _ _ _).bind (fun _ => follows_put _)
      (fun _ => rfl)

/-- A lookup outside the lock moves nothing. -/
private theorem leaves_firstLookup (key : String) :
    (cacheGet key).Leaves (CoalescingPhase.protocol platform) .outside := by
  refine leaves_await ⟨trivial, ?_⟩
  rintro (error | none | cached) after moved
  · exact moved
  · rcases moved with ⟨impossible, -⟩ | ⟨-, same⟩
    · cases impossible
    · exact same
  · exact moved

/-- Where the second lookup leaves the call. -/
def LookedUp (key : String) :
    Except PyException (Option CachedResponse) → CoalescingPhase → Prop
  | .ok none, phase => phase = .missed key
  | _, phase => phase = .entered key

private theorem follows_secondLookup (key : String) :
    (cacheGet key).Follows (CoalescingPhase.protocol platform) (LookedUp key)
      (.entered key) := by
  refine follows_await.mpr ⟨trivial, ?_⟩
  rintro (error | none | cached) after moved
  · exact moved
  · rcases moved with ⟨-, missed⟩ | ⟨impossible, -⟩
    · exact missed
    · exact absurd rfl impossible
  · exact moved

/-- The two lookups around the lock: only the second miss goes on. -/
theorem leaves_cacheLookups {hit : CachedResponse → GatewayM α}
    {miss : GatewayM α}
    (cached : ∀ response phase,
      (hit response).Leaves (CoalescingPhase.protocol platform) phase)
    (uncached : miss.Follows (CoalescingPhase.protocol platform) (Keeps key)
      (.missed key)) :
    (cacheGet key >>= fun first =>
      match first with
      | some response => hit response
      | none => withSingleflight key (cacheGet key >>= fun second =>
          match second with
          | some response => hit response
          | none => miss)).Leaves (CoalescingPhase.protocol platform)
        .outside := by
  refine (leaves_firstLookup key).bind ?_ (fun _ => rfl)
  rintro (none | response)
  · have body : (cacheGet key >>= fun second =>
        match second with
        | some response => hit response
        | none => miss).Follows (CoalescingPhase.protocol platform)
          (Keeps key) (.entered key) := by
      refine (follows_secondLookup key).bind ?_ ?_
      · rintro (none | response) after looked
        · obtain rfl : after = .missed key := looked
          exact uncached
        · obtain rfl : after = .entered key := looked
          exact (cached response _).weaken
            fun _ after same => congrArg CoalescingPhase.key? same
      · rintro error after rfl
        rfl
    have entering : (enterSingleflight key).Follows
        (CoalescingPhase.protocol platform)
        (fun outcome after =>
          match outcome with
          | .ok _ => after = .entered key
          | .error _ => after = .outside) .outside := by
      refine follows_await.mpr ⟨rfl, ?_⟩
      rintro (error | done) after moved
      · exact moved
      · exact moved
    refine entering.bind ?_ (fun _ _ left => left)
    rintro _ after rfl
    refine body.finalizing ?_
    intro outcome after kept
    refine follows_await.mpr ⟨kept, ?_⟩
    rintro (error | done) last moved
    · exact moved.elim
    · exact moved
  · exact cached response .outside

theorem leaves_generate (request : GenerateRequest) :
    (gateway.generate request).Leaves
      (CoalescingPhase.protocol gateway.platform) .outside := by
  unfold generate
  refine (follows_fromExcept_is _).bind ?_ ?_
  · rintro maxOutputTokens after ⟨checked, rfl⟩
    refine (follows_fromExcept_is _).bind ?_ ?_
    · rintro key after ⟨keyed, rfl⟩
      refine leaves_cacheLookups ?_ (follows_generateMissed
        (checkedOutputBound_ok.mp checked.symm).1 keyed.symm)
      intro response phase
      unfold cachedGeneration
      refine (leaves_fromExcept _).bind ?_ (fun _ => rfl)
      intro result
      refine (leaves_fromExcept _).bind ?_ (fun _ => rfl)
      intro usage
      exact (leaves_recordCacheHit _ _ _).bind (fun _ => leaves_pure _)
        (fun _ => rfl)
    · rintro error after ⟨-, rfl⟩
      rfl
  · rintro error after ⟨-, rfl⟩
    rfl

theorem leaves_embed (request : EmbedRequest) :
    (gateway.embed request).Leaves
      (CoalescingPhase.protocol gateway.platform) .outside := by
  unfold embed
  refine (leaves_fromExcept _).bind ?_ (fun _ => rfl)
  intro _
  refine (follows_fromExcept_is _).bind ?_ ?_
  · rintro key after ⟨keyed, rfl⟩
    refine (leaves_await ignoresDelays_coalescing.now).bind ?_ (fun _ => rfl)
    intro time
    refine (leaves_fromExcept _).bind ?_ (fun _ => rfl)
    intro projected
    refine leaves_cacheLookups ?_ (follows_embedMissed keyed.symm)
    intro response phase
    unfold cachedEmbedding
    refine (leaves_fromExcept _).bind ?_ (fun _ => rfl)
    intro result
    exact (leaves_recordCacheHit _ _ _).bind (fun _ => leaves_pure _)
      (fun _ => rfl)
  · rintro error after ⟨-, rfl⟩
    rfl

theorem leaves_parseSingle (request : ParseRequest) :
    (gateway.parseSingle request).Leaves
      (CoalescingPhase.protocol gateway.platform) .outside := by
  unfold parseSingle
  refine (leaves_fromExcept _).bind ?_ (fun _ => rfl)
  intro _
  refine (follows_fromExcept_is _).bind ?_ ?_
  · rintro key after ⟨keyed, rfl⟩
    refine (leaves_fromExcept _).bind ?_ (fun _ => rfl)
    intro projected
    refine leaves_cacheLookups ?_ (follows_parseMissed keyed.symm)
    intro response phase
    unfold cachedParse
    exact (leaves_recordCacheHit _ _ _).bind (fun _ => leaves_pure _)
      (fun _ => rfl)
  · rintro error after ⟨-, rfl⟩
    rfl

theorem leaves_parseChunks (request : ParseRequest) (first : ℕ)
    (chunks : List (ℕ × ℕ × Bytes)) :
    (gateway.parseChunks request first chunks).Leaves
      (CoalescingPhase.protocol gateway.platform) .outside := by
  induction chunks with
  | nil => exact leaves_pure _
  | cons chunk rest induction =>
      refine (leaves_parseSingle _).bind ?_ (fun _ => rfl)
      intro response
      exact Leaves.bind induction (fun _ => leaves_pure _) (fun _ => rfl)

theorem leaves_parseLargeChunk (request : ParseRequest)
    (chunk : ℕ × ℕ × Bytes) :
    (gateway.parseLargeChunk request chunk).Leaves
      (CoalescingPhase.protocol gateway.platform) .outside := by
  unfold parseLargeChunk
  dsimp only
  split_ifs
  · refine (leaves_fromExcept _).bind ?_ (fun _ => rfl)
    intro key
    refine (leaves_firstLookup key).bind ?_ (fun _ => rfl)
    rintro (none | cached)
    · refine (leaves_fromExcept _).bind ?_ (fun _ => rfl)
      intro singles
      exact leaves_parseChunks request _ singles
    · exact leaves_parseChunks request _ _
  · exact leaves_parseChunks request _ _

theorem leaves_parseLargeChunks (request : ParseRequest)
    (chunks : List (ℕ × ℕ × Bytes)) :
    (gateway.parseLargeChunks request chunks).Leaves
      (CoalescingPhase.protocol gateway.platform) .outside := by
  induction chunks with
  | nil => exact leaves_pure _
  | cons chunk rest induction =>
      refine (leaves_parseLargeChunk request chunk).bind ?_ (fun _ => rfl)
      intro responses
      exact Leaves.bind induction (fun _ => leaves_pure _) (fun _ => rfl)

theorem leaves_parse (request : ParseRequest) :
    (gateway.parse request).Leaves
      (CoalescingPhase.protocol gateway.platform) .outside := by
  unfold parse
  dsimp only
  split_ifs
  · unfold parseLargeDocument
    refine (leaves_fromExcept _).bind ?_ (fun _ => rfl)
    intro chunks
    refine (leaves_parseLargeChunks request chunks).bind ?_ (fun _ => rfl)
    intro responses
    exact (leaves_fromExcept _).bind (fun _ => leaves_pure _) (fun _ => rfl)
  · exact leaves_parseSingle request

/-- Every gateway call follows the protocol and gives its lock back. -/
theorem leaves_call (call : GatewayCall) :
    (gateway.call call).Leaves (CoalescingPhase.protocol gateway.platform)
      .outside := by
  cases call with
  | generate request =>
      exact (leaves_generate request).bind (fun _ => leaves_pure _)
        (fun _ => rfl)
  | embed request =>
      exact (leaves_embed request).bind (fun _ => leaves_pure _)
        (fun _ => rfl)
  | parse request =>
      exact (leaves_parse request).bind (fun _ => leaves_pure _)
        (fun _ => rfl)

end UpstageGateway

/-! ## The store under the operations -/

namespace MemoryProviderStore

variable {store : MemoryProviderStore} {platform : Platform} {key : String}

theorem put_error {response : JsonObject} {error : PyException}
    (failed : (store.put platform key response).1 = .error error) :
    (store.put platform key response).2 = store := by
  unfold put at failed ⊢
  split at failed
  · rfl
  · cases failed

/-- Intact entries stay, whatever the calls do. -/
theorem Intact.step {op : GatewayOp}
    {outcome : Except PyException (GatewayReply op)}
    {after : MemoryProviderStore} (intact : store.Intact platform key)
    (performed : StoreStep platform store op outcome after) :
    after.Intact platform key := by
  cases performed with
  | cacheGet other now =>
      by_cases same : other = key
      · subst same
        obtain ⟨cached, hit⟩ := intact.get now
        rw [hit]
        exact intact
      · exact intact.of_same (get_other same)
  | cachePut other operation modelId response =>
      by_cases same : other = key
      · subst same
        cases answer : (store.put platform other response).1 with
        | ok done => exact put_ok answer
        | error error =>
            rw [put_error answer]
            exact intact
      · exact intact.of_same (put_other same)
  | raised => exact intact
  | elsewhere => exact intact

end MemoryProviderStore

/-! ## The invariant of the system -/

namespace Coalescing

open CoalescingPhase Program

variable {ι : Type}

/-- A put is the last event, or nothing touched the entry since. -/
theorem StoredSince.snoc_inv {key : String}
    {events : List (CoalescingEvent ι)} {event : CoalescingEvent ι}
    (stored : StoredSince key (events ++ [event])) :
    (∃ task operation modelId response, event = .resumed
      ⟨task, .cachePut key operation modelId response, .ok ()⟩) ∨
      StoredSince key events ∧ event ≠ .tampered key := by
  obtain ⟨early, late, task, operation, modelId, response, split, calm⟩ :=
    stored
  rcases List.eq_nil_or_concat late with rfl | ⟨middle, last, rfl⟩
  · obtain ⟨-, same⟩ := List.append_inj' split rfl
    exact .inl ⟨task, operation, modelId, response,
      (List.cons.inj same).1⟩
  · rw [List.concat_eq_append, ← List.cons_append, ← List.append_assoc]
      at split
    obtain ⟨rfl, same⟩ := List.append_inj' split rfl
    obtain rfl : event = last := (List.cons.inj same).1
    rw [List.concat_eq_append] at calm
    exact .inr ⟨⟨early, middle, task, operation, modelId, response, rfl,
      fun other member => calm other (List.mem_append_left _ member)⟩,
      calm event (by simp)⟩

/-- The calls follow the protocol, their phases agree with the locks, and a
key that was stored is in the cache and missed by nobody. -/
structure Tracked (platform : Platform) (gateways : ι → UpstageGateway)
    (events : List (CoalescingEvent ι)) (system : Coalescing ι)
    (phases : ι → CoalescingPhase) : Prop where
  sound : system.locks.Sound
  held : ∀ task key,
    (phases task).key? = some key ↔ system.Holds task key
  intact : ∀ key, StoredSince key events → system.store.Intact platform key
  found : ∀ key, StoredSince key events → ∀ task, phases task ≠ .missed key
  follows : ∀ task, (system.tasks task).Follows
    (CoalescingPhase.protocol (gateways task).platform)
    (fun _ after => after = .outside) (phases task)

variable {platform : Platform} {gateways : ι → UpstageGateway}
  {events : List (CoalescingEvent ι)} {system : Coalescing ι}
  {phases : ι → CoalescingPhase}

theorem Tracked.exclusive
    (tracked : Tracked platform gateways events system phases)
    {task task' : ι} {key : String} (holds : system.Holds task key)
    (holds' : system.Holds task' key) : task = task' := by
  obtain ⟨object, holding⟩ := holds
  obtain ⟨object', holding'⟩ := holds'
  exact tracked.sound.mutual_exclusion holding holding'

/-- A suspended call awaits what its phase allows. -/
theorem Tracked.allowed
    (tracked : Tracked platform gateways events system phases) {task : ι}
    {op : GatewayOp}
    {next : Except PyException (GatewayReply op) → GatewayM GatewayResult}
    (suspended : system.tasks task = .call op next) :
    CoalescingPhase.Allows (gateways task).platform (phases task) op := by
  have followed := tracked.follows task
  rw [suspended] at followed
  exact followed.1

/-- What the invariant says about requests. -/
theorem Tracked.coalesced
    (tracked : Tracked platform gateways events system phases) :
    Coalesced gateways events system := by
  constructor
  · rintro task request ⟨next, suspended⟩
    obtain ⟨key, call, phase, keyed, same⟩ := tracked.allowed suspended
    exact ⟨key, call, (tracked.held task key).mp (by rw [phase]; rfl), keyed,
      same⟩
  · rintro task ⟨correlationId, projectedCost, hardLimit, next, suspended⟩
    obtain ⟨key, phase⟩ := tracked.allowed suspended
    exact ⟨key, (tracked.held task key).mp (by rw [phase]; rfl)⟩
  · intro task task' request request' key _ _ holds holds'
    exact tracked.exclusive holds holds'
  · intro key stored task holds
    have phase := (tracked.held task key).mpr holds
    have notMissed := tracked.found key stored task
    constructor
    · rintro request ⟨next, suspended⟩
      obtain ⟨other, call, missed, -⟩ := tracked.allowed suspended
      rw [missed] at phase
      obtain rfl : other = key := Option.some.inj phase
      exact notMissed missed
    · rintro ⟨correlationId, projectedCost, hardLimit, next, suspended⟩
      obtain ⟨other, missed⟩ := tracked.allowed suspended
      rw [missed] at phase
      obtain rfl : other = key := Option.some.inj phase
      exact notMissed missed

theorem Tracked.tamper
    (tracked : Tracked platform gateways events system phases) {key : String}
    {store : MemoryProviderStore}
    (others : ∀ other ≠ key,
      store.entries.get? other = system.store.entries.get? other) :
    Tracked platform gateways (events ++ [.tampered key])
      { system with store := store } phases := by
  have earlier {name : String}
      (stored : StoredSince name (events ++ [.tampered key])) :
      StoredSince name events ∧ name ≠ key := by
    rcases stored.snoc_inv with ⟨_, _, _, _, same⟩ | ⟨earlier, different⟩
    · cases same
    · exact ⟨earlier, fun same => different (by rw [same])⟩
  refine ⟨tracked.sound, tracked.held, ?_,
    fun name stored => tracked.found name (earlier stored).1, tracked.follows⟩
  intro name stored
  obtain ⟨before, different⟩ := earlier stored
  exact (tracked.intact name before).of_same (others name different)

section Steps

variable [DecidableEq ι] {task : ι}

/-- The resumed call goes on in the phase its outcome moves it to. -/
theorem Tracked.resumed
    (tracked : Tracked platform gateways events system phases)
    {op : GatewayOp} {outcome : Except PyException (GatewayReply op)}
    {next : Except PyException (GatewayReply op) → GatewayM GatewayResult}
    {moved : CoalescingPhase}
    (suspended : system.tasks task = .call op next)
    (moves : CoalescingPhase.Moves (phases task) op outcome moved)
    (other : ι) :
    (Function.update system.tasks task (next outcome) other).Follows
      (CoalescingPhase.protocol (gateways other).platform)
      (fun _ after => after = .outside)
      (Function.update phases task moved other) := by
  by_cases same : other = task
  · subst same
    have followed := tracked.follows other
    rw [suspended] at followed
    rw [Function.update_self, Function.update_self]
    exact followed.2 outcome moved moves
  · rw [Function.update_of_ne same, Function.update_of_ne same]
    exact tracked.follows other

/-- The task and its lock change together. -/
theorem Tracked.held_update
    (tracked : Tracked platform gateways events system phases)
    (task : ι) (moved : CoalescingPhase) (frame : Hold)
    (agree : ∀ key, moved.key? = some key ↔
      ∃ object, frame = .holding key object) (other : ι) (key : String) :
    (Function.update phases task moved other).key? = some key ↔
      ∃ object, Function.update system.locks.frames task frame other =
        .holding key object := by
  by_cases same : other = task
  · subst same
    rw [Function.update_self, Function.update_self]
    exact agree key
  · rw [Function.update_of_ne same, Function.update_of_ne same]
    exact tracked.held other key

/-- Locks come and go without a word about the cache. -/
theorem Tracked.lockEvent
    (tracked : Tracked platform gateways events system phases)
    (task : ι) (event : CoalescingEvent ι) (moved : CoalescingPhase)
    (silent : ∀ task key operation modelId response, event ≠ .resumed
      ⟨task, .cachePut key operation modelId response, .ok ()⟩)
    (notMissed : ∀ key, moved ≠ .missed key) (key : String)
    (stored : StoredSince key (events ++ [event])) :
    system.store.Intact platform key ∧
      ∀ other, Function.update phases task moved other ≠ .missed key := by
  rcases stored.snoc_inv with
    ⟨putter, operation, modelId, response, same⟩ | ⟨earlier, -⟩
  · exact absurd same (silent putter key operation modelId response)
  · refine ⟨tracked.intact key earlier, fun other => ?_⟩
    by_cases same : other = task
    · subst same
      rw [Function.update_self]
      exact notMissed key
    · rw [Function.update_of_ne same]
      exact tracked.found key earlier other

theorem Tracked.arrive
    (tracked : Tracked platform gateways events system phases) {key : String}
    (outside : system.locks.frames task = .outside) :
    Tracked platform gateways (events ++ [.arrived task key])
      { system with locks := system.locks.arrive task key } phases := by
  have nowhere : (phases task).key? = none := by
    cases holds : (phases task).key? with
    | none => rfl
    | some other =>
        obtain ⟨object, holding⟩ := (tracked.held task other).mp holds
        rw [outside] at holding
        cases holding
  have earlier {name : String}
      (stored : StoredSince name (events ++ [.arrived task key])) :
      StoredSince name events := by
    rcases stored.snoc_inv with ⟨_, _, _, _, same⟩ | ⟨earlier, -⟩
    · cases same
    · exact earlier
  refine ⟨tracked.sound.arrive outside key, ?_,
    fun name stored => tracked.intact name (earlier stored),
    fun name stored => tracked.found name (earlier stored), tracked.follows⟩
  intro other name
  have updated := tracked.held_update task (phases task)
    (.waiting key (system.locks.registry.setdefault key).1)
    (by simp [nowhere]) other name
  rwa [Function.update_eq_self] at updated

theorem Tracked.enter
    (tracked : Tracked platform gateways events system phases) {key : String}
    {object : ℕ} {next : Except PyException Unit → GatewayM GatewayResult}
    (suspended : system.tasks task = .call (.enterSingleflight key) next)
    (waiting : system.locks.frames task = .waiting key object)
    (free : (system.locks.registry.objects object).locked = false) :
    Tracked platform gateways
      (events ++ [.resumed ⟨task, .enterSingleflight key, .ok ()⟩])
      { system with
        locks := system.locks.acquire task key object
        tasks := Function.update system.tasks task (next (.ok ())) }
      (Function.update phases task (.entered key)) := by
  have quiet := tracked.lockEvent task
    (.resumed ⟨task, .enterSingleflight key, .ok ()⟩) (.entered key)
    (by simp) (by simp)
  refine ⟨tracked.sound.acquire waiting free, tracked.held_update _ _ _ ?_,
    fun name stored => (quiet name stored).1,
    fun name stored => (quiet name stored).2,
    tracked.resumed suspended rfl⟩
  intro name
  simp [CoalescingPhase.key?]

theorem Tracked.abandon
    (tracked : Tracked platform gateways events system phases) {key : String}
    {object : ℕ} {next : Except PyException Unit → GatewayM GatewayResult}
    (suspended : system.tasks task = .call (.enterSingleflight key) next)
    (waiting : system.locks.frames task = .waiting key object)
    (error : PyException) :
    Tracked platform gateways
      (events ++ [.resumed ⟨task, .enterSingleflight key, .error error⟩])
      { system with
        locks := system.locks.leave task key object false
        tasks := Function.update system.tasks task (next (.error error)) }
      (Function.update phases task .outside) := by
  have outside : phases task = .outside := tracked.allowed suspended
  have quiet := tracked.lockEvent task
    (.resumed ⟨task, .enterSingleflight key, .error error⟩) (.outside)
    (by simp) (by simp)
  have left : (system.locks.leave task key object false).Sound :=
    tracked.sound.leave (by rw [waiting]; rfl) (fun never => by cases never)
  refine ⟨left, tracked.held_update _ _ _ ?_,
    fun name stored => (quiet name stored).1,
    fun name stored => (quiet name stored).2, tracked.resumed suspended ?_⟩
  · intro name
    simp [CoalescingPhase.key?]
  · exact outside.symm

theorem Tracked.exit
    (tracked : Tracked platform gateways events system phases) {key : String}
    {object : ℕ} {next : Except PyException Unit → GatewayM GatewayResult}
    (suspended : system.tasks task = .call (.exitSingleflight key) next)
    (holding : system.locks.frames task = .holding key object) :
    Tracked platform gateways
      (events ++ [.resumed ⟨task, .exitSingleflight key, .ok ()⟩])
      { system with
        locks := system.locks.leave task key object true
        tasks := Function.update system.tasks task (next (.ok ())) }
      (Function.update phases task .outside) := by
  have quiet := tracked.lockEvent task
    (.resumed ⟨task, .exitSingleflight key, .ok ()⟩) (.outside)
    (by simp) (by simp)
  have left : (system.locks.leave task key object true).Sound :=
    tracked.sound.leave (by rw [holding]; rfl) (fun _ => holding)
  refine ⟨left, tracked.held_update _ _ _ ?_,
    fun name stored => (quiet name stored).1,
    fun name stored => (quiet name stored).2, tracked.resumed suspended rfl⟩
  intro name
  simp [CoalescingPhase.key?]

/-- An operation that keeps the phase, and puts nothing. -/
theorem Tracked.steady
    (tracked : Tracked platform gateways events system phases)
    {op : GatewayOp} {outcome : Except PyException (GatewayReply op)}
    {next : Except PyException (GatewayReply op) → GatewayM GatewayResult}
    {store : MemoryProviderStore}
    (suspended : system.tasks task = .call op next)
    (performed : StoreStep platform system.store op outcome store)
    (moves : CoalescingPhase.Moves (phases task) op outcome (phases task))
    (silent : ∀ putter key operation modelId response,
      CoalescingEvent.resumed (⟨task, op, outcome⟩ : Completion ι _ _ _) ≠
        .resumed ⟨putter, .cachePut key operation modelId response, .ok ()⟩) :
    Tracked platform gateways (events ++ [.resumed ⟨task, op, outcome⟩])
      { system with
        store := store
        tasks := Function.update system.tasks task (next outcome) }
      phases := by
  have earlier {name : String}
      (stored : StoredSince name
        (events ++ [.resumed ⟨task, op, outcome⟩])) :
      StoredSince name events := by
    rcases stored.snoc_inv with
      ⟨putter, operation, modelId, response, same⟩ | ⟨earlier, -⟩
    · exact absurd same (silent putter name operation modelId response)
    · exact earlier
  refine ⟨tracked.sound, tracked.held,
    fun name stored => (tracked.intact name (earlier stored)).step performed,
    fun name stored => tracked.found name (earlier stored), ?_⟩
  intro other
  have followed := tracked.resumed suspended moves other
  rwa [Function.update_eq_self] at followed

/-- The second lookup has missed, so the key is not stored. -/
theorem Tracked.miss
    (tracked : Tracked platform gateways events system phases) {key : String}
    {next : Except PyException (Option CachedResponse) →
      GatewayM GatewayResult} {now : Timestamp}
    (suspended : system.tasks task = .call (.cacheGet key) next)
    (missing : (system.store.get platform now key).1 = .ok none)
    (entered : phases task = .entered key) :
    Tracked platform gateways
      (events ++ [.resumed ⟨task, .cacheGet key, .ok none⟩])
      { system with
        store := (system.store.get platform now key).2
        tasks := Function.update system.tasks task (next (.ok none)) }
      (Function.update phases task (.missed key)) := by
  have earlier {name : String}
      (stored : StoredSince name
        (events ++ [.resumed ⟨task, .cacheGet key, .ok none⟩])) :
      StoredSince name events := by
    rcases stored.snoc_inv with ⟨_, _, _, _, same⟩ | ⟨earlier, -⟩
    · cases same
    · exact earlier
  refine ⟨tracked.sound, ?_, ?_, ?_,
    tracked.resumed suspended (.inl ⟨entered, rfl⟩)⟩
  · intro other name
    have held := tracked.held_update task (.missed key)
      (system.locks.frames task) (fun name => by
        have before := tracked.held task name
        rw [entered] at before
        exact before) other name
    rwa [Function.update_eq_self] at held
  · intro name stored
    exact (tracked.intact name (earlier stored)).step (.cacheGet key now)
  · intro name stored other
    by_cases same : other = task
    · subst same
      rw [Function.update_self]
      intro missed
      obtain rfl : key = name := by
        cases missed
        rfl
      obtain ⟨cached, hit⟩ := (tracked.intact key (earlier stored)).get now
      rw [hit] at missing
      cases missing
    · rw [Function.update_of_ne same]
      exact tracked.found name (earlier stored) other

/-- The response is put; nobody else had missed the key. -/
theorem Tracked.put
    (tracked : Tracked platform gateways events system phases) {key : String}
    {operation : Operation} {modelId : String} {response : JsonObject}
    {next : Except PyException Unit → GatewayM GatewayResult}
    (suspended : system.tasks task =
      .call (.cachePut key operation modelId response) next)
    (success : (system.store.put platform key response).1 = .ok ()) :
    Tracked platform gateways
      (events ++ [.resumed
        ⟨task, .cachePut key operation modelId response, .ok ()⟩])
      { system with
        store := (system.store.put platform key response).2
        tasks := Function.update system.tasks task (next (.ok ())) }
      (Function.update phases task (.stored key)) := by
  have missed : phases task = .missed key := tracked.allowed suspended
  refine ⟨tracked.sound, ?_, ?_, ?_, tracked.resumed suspended rfl⟩
  · intro other name
    have held := tracked.held_update task (.stored key)
      (system.locks.frames task) (fun name => by
        have before := tracked.held task name
        rw [missed] at before
        exact before) other name
    rwa [Function.update_eq_self] at held
  · intro name stored
    rcases stored.snoc_inv with ⟨_, _, _, _, same⟩ | ⟨earlier, -⟩
    · cases same
      exact MemoryProviderStore.put_ok success
    · exact (tracked.intact name earlier).step
        (.cachePut key operation modelId response)
  · intro name stored other
    by_cases same : other = task
    · subst same
      rw [Function.update_self]
      intro impossible
      cases impossible
    · rw [Function.update_of_ne same]
      intro otherMissed
      rcases stored.snoc_inv with ⟨_, _, _, _, put⟩ | ⟨earlier, -⟩
      · cases put
        have holds := (tracked.held task key).mp (by rw [missed]; rfl)
        have holds' := (tracked.held other key).mp (by rw [otherMissed]; rfl)
        exact same (tracked.exclusive holds' holds)
      · exact tracked.found name earlier other otherMissed

theorem Tracked.perform
    (tracked : Tracked platform gateways events system phases)
    {op : GatewayOp} {outcome : Except PyException (GatewayReply op)}
    {next : Except PyException (GatewayReply op) → GatewayM GatewayResult}
    {store : MemoryProviderStore}
    (suspended : system.tasks task = .call op next)
    (performed : StoreStep platform system.store op outcome store) :
    ∃ moved, Tracked platform gateways
      (events ++ [.resumed ⟨task, op, outcome⟩])
      { system with
        store := store
        tasks := Function.update system.tasks task (next outcome) }
      moved := by
  cases performed with
  | cacheGet key now =>
      have step : StoreStep platform system.store (.cacheGet key) _ _ :=
        .cacheGet key now
      generalize answer : (system.store.get platform now key).1 = outcome
        at step ⊢
      match outcome with
      | .error error =>
          exact ⟨phases, tracked.steady suspended step rfl (by simp)⟩
      | .ok (some cached) =>
          exact ⟨phases, tracked.steady suspended step rfl (by simp)⟩
      | .ok none =>
          by_cases entered : phases task = .entered key
          · exact ⟨_, tracked.miss suspended answer entered⟩
          · exact ⟨phases, tracked.steady suspended step
              (.inr ⟨entered, rfl⟩) (by simp)⟩
  | cachePut key operation modelId response =>
      have step : StoreStep platform system.store
          (.cachePut key operation modelId response) _ _ :=
        .cachePut key operation modelId response
      generalize answer : (system.store.put platform key response).1 = outcome
        at step ⊢
      match outcome with
      | .error error =>
          exact ⟨phases, tracked.steady suspended step rfl (by simp)⟩
      | .ok () => exact ⟨_, tracked.put suspended answer⟩
  | raised op error unlocked =>
      have moves : CoalescingPhase.Moves (phases task) op (.error error)
          (phases task) := by
        cases op <;> first | rfl | exact absurd rfl unlocked
      refine ⟨phases, tracked.steady suspended (.raised op error unlocked)
        moves ?_⟩
      intro putter key operation modelId response same
      cases same
  | elsewhere op outcome unlocked uncached =>
      have moves : CoalescingPhase.Moves (phases task) op outcome
          (phases task) := by
        cases op <;> first
          | rfl
          | exact absurd rfl unlocked
          | exact absurd rfl uncached
      refine ⟨phases, tracked.steady suspended
        (.elsewhere op outcome unlocked uncached) moves ?_⟩
      intro putter key operation modelId response same
      cases same
      exact uncached rfl

/-- The invariant survives every step. -/
theorem Tracked.step
    (tracked : Tracked platform gateways events system phases)
    {event : CoalescingEvent ι} {after : Coalescing ι}
    (performed : Step platform system event after) :
    ∃ moved, Tracked platform gateways (events ++ [event]) after moved := by
  cases performed with
  | arrive suspended outside => exact ⟨_, tracked.arrive outside⟩
  | enter suspended waiting free =>
      exact ⟨_, tracked.enter suspended waiting free⟩
  | abandon suspended waiting error =>
      exact ⟨_, tracked.abandon suspended waiting error⟩
  | exit suspended holding => exact ⟨_, tracked.exit suspended holding⟩
  | perform suspended performed => exact tracked.perform suspended performed
  | tamper others => exact ⟨_, tracked.tamper others⟩

/-- Whatever the schedule, failures and cancellations: one request for a key
at a time, and none after its response was put. -/
theorem requests_coalesced {platform : Platform}
    {gateways : ι → UpstageGateway} {calls : ι → GatewayCall}
    {store : MemoryProviderStore} {events : List (CoalescingEvent ι)}
    {system : Coalescing ι}
    (run : Run (Step platform) (start store gateways calls) events system) :
    Coalesced gateways events system := by
  have tracked : ∃ phases, Tracked platform gateways events system phases := by
    refine run.invariant (fun _ => True) (fun _ _ => trivial)
      (fun history system =>
        ∃ phases, Tracked platform gateways history system phases)
      ⟨fun _ => .outside, .init, ?_, ?_, ?_, ?_⟩ ?_
    · intro task key
      constructor
      · intro impossible
        cases impossible
      · rintro ⟨object, holding⟩
        cases holding
    · rintro key ⟨early, late, _, _, _, _, split, -⟩
      simp at split
    · intro key _ task impossible
      cases impossible
    · intro task
      exact UpstageGateway.leaves_call (calls task)
    · rintro history before event after ⟨phases, tracked⟩ _ performed
      exact tracked.step performed
  obtain ⟨phases, tracked⟩ := tracked
  exact tracked.coalesced

end Steps

/-- Two tasks ask the same question; the first one holds the lock. -/
theorem sample_requests_coalesced :
    ∃ events system,
      Run (Step samplePlatform)
        (start ⟨.empty⟩ (fun _ : Bool => sampleGateway) fun _ => sampleCall)
        events system ∧
      system.Holds true "hash" ∧
      Coalesced (fun _ => sampleGateway) events system := by
  have lookup : StoreStep samplePlatform ⟨.empty⟩ (.cacheGet "hash")
      (.ok none) ⟨.empty⟩ :=
    .cacheGet "hash" 0
  have first : Step samplePlatform
      (start ⟨.empty⟩ (fun _ : Bool => sampleGateway) fun _ => sampleCall)
      (.resumed ⟨true, .cacheGet "hash", .ok none⟩) _ :=
    .perform rfl lookup
  have lookedUp := Run.single first
  have arrived := Run.snoc lookedUp
    (@Step.arrive _ _ _ _ true "hash" _ rfl rfl)
  have entered := Run.snoc arrived
    (@Step.enter _ _ _ _ true "hash" 0 _ rfl rfl rfl)
  exact ⟨_, _, entered, ⟨0, rfl⟩, requests_coalesced entered⟩

end Coalescing

end RagBench
