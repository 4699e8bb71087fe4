import RagBench.Core.Hashing
import RagBench.Providers.Gateway

/-!
# Cache keys and payloads

The key of a request and the payload sent for it are built from the same
request by different code.  Equal keys give back the request fields they were
hashed from, and with them the payload.  One field escapes:
`cache_key_for_generate` writes `max_output_tokens` over the provider parameter
of that name, which the payload still carries.
-/

namespace RagBench

open Json (Same)

/-- The hash of the platform is `canonical_json_hash`. -/
def Platform.HashesCanonically (platform : Platform) (floats : FloatText) :
    Prop :=
  ∀ value, platform.canonicalJsonHash value =
    (PyValue.ofJson value).canonicalJsonHash floats platform.sha256Hex

namespace GatewayCall

def operation : GatewayCall → Operation
  | .generate _ => .generate
  | .embed _ => .embed
  | .parse _ => .parse

def providerParams : GatewayCall → JsonObject
  | .generate request => request.providerParams
  | .embed request => request.providerParams
  | .parse request => request.providerParams

/-- What the gateway checks before it computes the key. -/
def checks : GatewayCall → Except PyException Unit
  | .generate request => do
      let _ ← UpstageGateway.checkedOutputBound request
  | .embed request =>
      rejectReservedParams request.providerParams ["input", "model"]
  | .parse request =>
      rejectReservedParams request.providerParams
        ["document", "mode", "model", "output_formats"]

def cacheKey (platform : Platform) : GatewayCall → Except PyException String
  | .generate request => cacheKeyForGenerate platform request
  | .embed request => cacheKeyForEmbed platform request
  | .parse request => parseCacheKey platform request

/-- What the gateway posts; `max_output_tokens` is set in accepted requests. -/
def httpRequest (correlationId : Uuid) : GatewayCall → HttpRequest
  | .generate request =>
      { path := "chat/completions"
        correlationId := correlationId
        json := some (UpstageGateway.generatePayload request
          (request.maxOutputTokens.getD 0)) }
  | .embed request =>
      { path := "embeddings"
        correlationId := correlationId
        json := some (UpstageGateway.embedPayload request) }
  | .parse request =>
      { path := "document-digitization"
        correlationId := correlationId
        data := some (mergeParams [("model", .str request.modelId)]
          (parseParams request))
        document := some request.content }

/-- A parse request names the hash of its document. -/
def NamesDocument (platform : Platform) : GatewayCall → Prop
  | .parse request =>
      request.documentSha256 = platform.sha256Hex request.content
  | _ => True

/-- A request the gateway accepts.  The parameters are a dictionary. -/
structure Accepted (platform : Platform) (call : GatewayCall) : Prop where
  checked : call.checks = .ok ()
  unique : (call.providerParams.map Prod.fst).Nodup
  document : call.NamesDocument platform

/-- The provider parameter that the key of a generation loses. -/
def outputOverride : GatewayCall → Option Json
  | .generate request => Json.get? request.providerParams "max_output_tokens"
  | _ => none

end GatewayCall

/-- Equal payloads: bodies are compared as dictionaries. -/
structure HttpRequest.Same (left right : HttpRequest) : Prop where
  path : left.path = right.path
  json : Option.Rel Json.Same (left.json.map .object) (right.json.map .object)
  data : Option.Rel Json.Same (left.data.map .object) (right.data.map .object)
  document : left.document = right.document

/-! ## Merged parameters -/

theorem nodup_mergeParams {base params : JsonObject}
    (unique : (base.map Prod.fst).Nodup) :
    ((mergeParams base params).map Prod.fst).Nodup := by
  induction params generalizing base with
  | nil => exact unique
  | cons entry rest induction =>
      exact induction (Dict.nodup_assign unique entry.1 entry.2)

/-- Parameters win over the base. -/
theorem lookup_mergeParams {base params : JsonObject}
    (unique : (params.map Prod.fst).Nodup) (key : String) :
    Dict.lookup key (mergeParams base params) =
      (Dict.lookup key params).or (Dict.lookup key base) := by
  induction params generalizing base with
  | nil => rfl
  | cons entry rest induction =>
      obtain ⟨fresh, restUnique⟩ := List.nodup_cons.mp unique
      refine (induction restUnique).trans ?_
      rw [Dict.lookup_assign, Dict.lookup]
      by_cases same : entry.1 = key
      · rw [if_pos same, if_pos same,
          Dict.lookup_eq_none_iff.mpr (same ▸ fresh)]
        rfl
      · rw [if_neg same, if_neg same]

private theorem rel_or {α β : Type} {relation : α → β → Prop}
    {left left' : Option α} {right right' : Option β}
    (first : Option.Rel relation left right)
    (second : Option.Rel relation left' right') :
    Option.Rel relation (left.or left') (right.or right') := by
  cases first with
  | some related => exact .some related
  | none => exact second

theorem rejectReservedParams_ok {params : JsonObject}
    {reserved : List String} :
    rejectReservedParams params reserved = .ok () ↔
      ∀ key ∈ reserved, Dict.lookup key params = none := by
  have absent : (reserved.filter fun key => key ∈ params.map Prod.fst) = [] ↔
      ∀ key ∈ reserved, Dict.lookup key params = none := by
    simp [List.filter_eq_nil_iff, Dict.lookup_eq_none_iff]
  rw [← absent, rejectReservedParams]
  split <;> simp_all

/-! ## What a key determines -/

section Keys

variable {platform : Platform} {floats : FloatText} {key : String}

theorem str_of_rel {left right : String}
    (found : Option.Rel Json.Same (some (.str left)) (some (.str right))) :
    left = right := by
  cases found with
  | some same =>
      cases same
      rfl

theorem int_of_rel {left right : ℤ}
    (found : Option.Rel Json.Same (some (.int left)) (some (.int right))) :
    left = right := by
  cases found with
  | some same =>
      cases same
      rfl

private theorem optionalText_of_rel {left right : Option String}
    (found : Option.Rel Json.Same (some (optionalText left))
      (some (optionalText right))) : left = right := by
  cases found with
  | some same =>
      cases left with
      | none =>
          cases right with
          | none => rfl
          | some text => cases same
      | some text =>
          cases right with
          | none => cases same
          | some other =>
              cases same
              rfl

/-- Equal digests are digests of the same parts. -/
theorem CacheKeyParts.digest_inj
    (hashes : platform.HashesCanonically floats)
    (collisionFree : Function.Injective platform.sha256Hex)
    {left right : CacheKeyParts}
    (leftDigest : left.digest platform = .ok key)
    (rightDigest : right.digest platform = .ok key) :
    left.operation = right.operation ∧ left.modelId = right.modelId ∧
      (Json.object left.providerParams).Same (.object right.providerParams) ∧
      left.promptHash = right.promptHash ∧
      left.contextHash = right.contextHash ∧
      left.documentSha256 = right.documentSha256 := by
  rw [digest, hashes] at leftDigest rightDigest
  have fields := (PyValue.same_of_hash_eq collisionFree leftDigest
    rightDigest).lookup (by simp) (by simp)
  refine ⟨str_of_rel (fields "operation"), str_of_rel (fields "model_id"), ?_,
    optionalText_of_rel (fields "prompt_hash"),
    optionalText_of_rel (fields "context_hash"),
    optionalText_of_rel (fields "document_sha256")⟩
  cases fields "provider_params" with
  | some same => exact same

/-- Equal text hashes are hashes of the same text. -/
theorem textHash_inj (hashes : platform.HashesCanonically floats)
    (collisionFree : Function.Injective platform.sha256Hex)
    {left right : String}
    (leftHash : platform.canonicalJsonHash (.str left) = .ok key)
    (rightHash : platform.canonicalJsonHash (.str right) = .ok key) :
    left = right := by
  rw [hashes] at leftHash rightHash
  cases PyValue.same_of_hash_eq collisionFree leftHash rightHash
  rfl

theorem texts_of_same {left right : List String}
    (same : (Json.array (left.map .str)).Same (.array (right.map .str))) :
    left = right := by
  cases same with
  | array items =>
      induction left generalizing right with
      | nil =>
          cases right with
          | nil => rfl
          | cons => cases items
      | cons text rest induction =>
          cases right with
          | nil => cases items
          | cons other others =>
              cases items with
              | cons first items =>
                  cases first
                  rw [induction items]

theorem textsHash_inj (hashes : platform.HashesCanonically floats)
    (collisionFree : Function.Injective platform.sha256Hex)
    {left right : List String}
    (leftHash : platform.canonicalJsonHash (.array (left.map .str)) =
      .ok key)
    (rightHash : platform.canonicalJsonHash (.array (right.map .str)) =
      .ok key) : left = right := by
  rw [hashes] at leftHash rightHash
  exact texts_of_same (PyValue.same_of_hash_eq collisionFree leftHash rightHash)

/-- The parts a key of the call is the digest of. -/
def GatewayCall.KeyedBy (platform : Platform) (parts : CacheKeyParts) :
    GatewayCall → Prop
  | .generate request =>
      parts.operation = "generate" ∧ parts.modelId = request.modelId ∧
        parts.providerParams = mergeParams request.providerParams
          [("max_output_tokens",
            (request.maxOutputTokens.map Json.int).getD .null)] ∧
        (∃ hash, parts.promptHash = some hash ∧
          platform.canonicalJsonHash (.str request.prompt) = .ok hash) ∧
        ∃ hash, parts.contextHash = some hash ∧
          platform.canonicalJsonHash (.array (request.context.map .str)) =
            .ok hash
  | .embed request =>
      parts.operation = "embed" ∧ parts.modelId = request.modelId ∧
        parts.providerParams = request.providerParams ∧
        ∃ hash, parts.promptHash = some hash ∧
          platform.canonicalJsonHash (.array (request.texts.map .str)) =
            .ok hash
  | .parse request =>
      parts.operation = "parse" ∧ parts.modelId = request.modelId ∧
        parts.providerParams = parseParams request ∧
        parts.documentSha256 = some request.documentSha256

theorem GatewayCall.cacheKey_ok {call : GatewayCall}
    (keyed : call.cacheKey platform = .ok key) :
    ∃ parts, call.KeyedBy platform parts ∧ parts.digest platform = .ok key := by
  cases call with
  | generate request =>
      obtain ⟨promptHash, promptHashed, keyed⟩ := bind_eq_ok.mp keyed
      obtain ⟨contextHash, contextHashed, digested⟩ := bind_eq_ok.mp keyed
      exact ⟨_, ⟨rfl, rfl, rfl, ⟨promptHash, rfl, promptHashed⟩,
        ⟨contextHash, rfl, contextHashed⟩⟩, digested⟩
  | embed request =>
      obtain ⟨promptHash, promptHashed, digested⟩ := bind_eq_ok.mp keyed
      exact ⟨_, ⟨rfl, rfl, rfl, promptHash, rfl, promptHashed⟩, digested⟩
  | parse request => exact ⟨_, ⟨rfl, rfl, rfl, rfl⟩, keyed⟩

theorem mergeParams_same_iff {base params params' : JsonObject}
    (baseUnique : (base.map Prod.fst).Nodup)
    (unique : (params.map Prod.fst).Nodup)
    (unique' : (params'.map Prod.fst).Nodup) :
    (Json.object (mergeParams base params)).Same
        (.object (mergeParams base params')) ↔
      ∀ name, Option.Rel Json.Same
        ((Dict.lookup name params).or (Dict.lookup name base))
        ((Dict.lookup name params').or (Dict.lookup name base)) := by
  constructor
  · intro same name
    have found := same.lookup (nodup_mergeParams baseUnique)
      (nodup_mergeParams baseUnique) name
    rwa [lookup_mergeParams unique, lookup_mergeParams unique'] at found
  · intro found
    refine Json.same_of_lookup (nodup_mergeParams baseUnique)
      (nodup_mergeParams baseUnique) fun name => ?_
    rw [lookup_mergeParams unique, lookup_mergeParams unique']
    exact found name

/-- The key object of a generation without its last assignment. -/
theorem params_of_generate_key {params params' : JsonObject}
    {bound bound' : Option ℤ}
    (unique : (params.map Prod.fst).Nodup)
    (unique' : (params'.map Prod.fst).Nodup)
    (merged : (Json.object (mergeParams params
        [("max_output_tokens", (bound.map Json.int).getD .null)])).Same
      (.object (mergeParams params'
        [("max_output_tokens", (bound'.map Json.int).getD .null)]))) :
    bound = bound' ∧ ∀ name ≠ "max_output_tokens",
      Option.Rel Json.Same (Dict.lookup name params)
        (Dict.lookup name params') := by
  have found (name : String) := merged.lookup (nodup_mergeParams unique)
    (nodup_mergeParams unique') name
  have single (value : Json) :
      ([("max_output_tokens", value)].map Prod.fst).Nodup :=
    List.nodup_singleton _
  simp only [lookup_mergeParams (single _)] at found
  constructor
  · have bounds := found "max_output_tokens"
    rw [Dict.lookup, if_pos rfl, Dict.lookup, if_pos rfl] at bounds
    cases bounds with
    | some same => cases bound <;> cases bound' <;> cases same <;> rfl
  · intro name different
    have absent (value : Json) :
        Dict.lookup name [("max_output_tokens", value)] = none :=
      if_neg different.symm
    have others := found name
    rw [absent, absent] at others
    exact others

section Payloads

theorem generate_payload_iff
    (hashes : platform.HashesCanonically floats)
    (collisionFree : Function.Injective platform.sha256Hex)
    {left right : GenerateRequest}
    (leftUnique : (left.providerParams.map Prod.fst).Nodup)
    (rightUnique : (right.providerParams.map Prod.fst).Nodup)
    (leftKey : cacheKeyForGenerate platform left = .ok key)
    (rightKey : cacheKeyForGenerate platform right = .ok key) :
    (Json.object (UpstageGateway.generatePayload left
        (left.maxOutputTokens.getD 0))).Same
      (.object (UpstageGateway.generatePayload right
        (right.maxOutputTokens.getD 0))) ↔
      Option.Rel Json.Same
        (Json.get? left.providerParams "max_output_tokens")
        (Json.get? right.providerParams "max_output_tokens") := by
  obtain ⟨parts, ⟨-, model, params, ⟨_, prompt, promptHashed⟩, _, context,
    contextHashed⟩, digested⟩ :=
      @GatewayCall.cacheKey_ok _ _ (.generate left) leftKey
  obtain ⟨parts', ⟨-, model', params', ⟨_, prompt', promptHashed'⟩, _,
    context', contextHashed'⟩, digested'⟩ :=
      @GatewayCall.cacheKey_ok _ _ (.generate right) rightKey
  obtain ⟨-, models, merged, prompts, contexts, -⟩ :=
    CacheKeyParts.digest_inj hashes collisionFree digested digested'
  rw [model, model'] at models
  rw [prompt, prompt', Option.some_inj] at prompts
  rw [context, context', Option.some_inj] at contexts
  rw [params, params'] at merged
  subst prompts contexts
  have samePrompt := textHash_inj hashes collisionFree promptHashed
    promptHashed'
  have sameContext := textsHash_inj hashes collisionFree contextHashed
    contextHashed'
  obtain ⟨bounds, others⟩ :=
    params_of_generate_key leftUnique rightUnique merged
  unfold UpstageGateway.generatePayload
  rw [models, samePrompt, sameContext, bounds,
    mergeParams_same_iff (by simp) leftUnique rightUnique]
  constructor
  · intro same
    simpa [Dict.lookup, Json.get?] using same "max_output_tokens"
  · intro override name
    refine rel_or ?_ (Json.Same.refl_option _)
    by_cases same : name = "max_output_tokens"
    · rw [same]
      exact override
    · exact others name same

theorem embed_payload_same
    (hashes : platform.HashesCanonically floats)
    (collisionFree : Function.Injective platform.sha256Hex)
    {left right : EmbedRequest}
    (leftUnique : (left.providerParams.map Prod.fst).Nodup)
    (rightUnique : (right.providerParams.map Prod.fst).Nodup)
    (leftKey : cacheKeyForEmbed platform left = .ok key)
    (rightKey : cacheKeyForEmbed platform right = .ok key) :
    (Json.object (UpstageGateway.embedPayload left)).Same
      (.object (UpstageGateway.embedPayload right)) := by
  obtain ⟨parts, ⟨-, model, params, _, texts, textsHashed⟩, digested⟩ :=
    @GatewayCall.cacheKey_ok _ _ (.embed left) leftKey
  obtain ⟨parts', ⟨-, model', params', _, texts', textsHashed'⟩, digested'⟩ :=
    @GatewayCall.cacheKey_ok _ _ (.embed right) rightKey
  obtain ⟨-, models, merged, prompts, -, -⟩ :=
    CacheKeyParts.digest_inj hashes collisionFree digested digested'
  rw [model, model'] at models
  rw [texts, texts', Option.some_inj] at prompts
  rw [params, params'] at merged
  subst prompts
  have sameTexts := textsHash_inj hashes collisionFree textsHashed
    textsHashed'
  unfold UpstageGateway.embedPayload
  rw [models, sameTexts,
    mergeParams_same_iff (by simp) leftUnique rightUnique]
  exact fun name => rel_or (merged.lookup leftUnique rightUnique name)
    (Json.Same.refl_option _)

theorem parse_payload_same
    (hashes : platform.HashesCanonically floats)
    (collisionFree : Function.Injective platform.sha256Hex)
    {left right : ParseRequest}
    (leftHash : left.documentSha256 = platform.sha256Hex left.content)
    (rightHash : right.documentSha256 = platform.sha256Hex right.content)
    (leftKey : parseCacheKey platform left = .ok key)
    (rightKey : parseCacheKey platform right = .ok key) :
    (Json.object (mergeParams [("model", .str left.modelId)]
        (parseParams left))).Same
      (.object (mergeParams [("model", .str right.modelId)]
        (parseParams right))) ∧ left.content = right.content := by
  obtain ⟨parts, ⟨-, model, params, document⟩, digested⟩ :=
    @GatewayCall.cacheKey_ok _ _ (.parse left) leftKey
  obtain ⟨parts', ⟨-, model', params', document'⟩, digested'⟩ :=
    @GatewayCall.cacheKey_ok _ _ (.parse right) rightKey
  obtain ⟨-, models, merged, -, -, documents⟩ :=
    CacheKeyParts.digest_inj hashes collisionFree digested digested'
  rw [model, model'] at models
  rw [params, params'] at merged
  rw [document, document', Option.some_inj, leftHash, rightHash] at documents
  have unique (request : ParseRequest) :
      ((parseParams request).map Prod.fst).Nodup :=
    nodup_mergeParams (by simp)
  refine ⟨?_, collisionFree documents⟩
  rw [models, mergeParams_same_iff (by simp) (unique left) (unique right)]
  exact fun name => rel_or (merged.lookup (unique left) (unique right) name)
    (Json.Same.refl_option _)

end Payloads

/-- Calls with one key are calls of one operation. -/
theorem operation_of_key (hashes : platform.HashesCanonically floats)
    (collisionFree : Function.Injective platform.sha256Hex)
    {left right : GatewayCall} (leftKey : left.cacheKey platform = .ok key)
    (rightKey : right.cacheKey platform = .ok key) :
    left.operation = right.operation := by
  obtain ⟨parts, keyed, digested⟩ := GatewayCall.cacheKey_ok leftKey
  obtain ⟨parts', keyed', digested'⟩ := GatewayCall.cacheKey_ok rightKey
  have operations :=
    (CacheKeyParts.digest_inj hashes collisionFree digested digested').1
  cases left <;> cases right <;>
    first
      | rfl
      | (rw [keyed.1, keyed'.1] at operations
         exact absurd operations (by decide))

end Keys

/-- Equal keys come from one operation, and from equal payloads exactly when
the requests agree on a provider parameter `max_output_tokens`. -/
theorem cache_key_sound_iff {platform : Platform} {floats : FloatText}
    {key : String} (hashes : platform.HashesCanonically floats)
    (collisionFree : Function.Injective platform.sha256Hex)
    {left right : GatewayCall} (leftAccepted : left.Accepted platform)
    (rightAccepted : right.Accepted platform)
    (leftKey : left.cacheKey platform = .ok key)
    (rightKey : right.cacheKey platform = .ok key) (correlationId : Uuid) :
    left.operation = right.operation ∧
      ((left.httpRequest correlationId).Same
          (right.httpRequest correlationId) ↔
        Option.Rel Json.Same left.outputOverride right.outputOverride) := by
  have operations :=
    operation_of_key hashes collisionFree leftKey rightKey
  refine ⟨operations, ?_⟩
  cases left with
  | generate left =>
      cases right with
      | generate right =>
          have payloads := generate_payload_iff hashes collisionFree
            leftAccepted.unique rightAccepted.unique leftKey rightKey
          refine Iff.trans ⟨fun same => ?_, fun same => ?_⟩ payloads
          · cases same.json with
            | some bodies => exact bodies
          · exact ⟨rfl, .some same, .none, rfl⟩
      | embed | parse => cases operations
  | embed left =>
      cases right with
      | embed right =>
          have bodies := embed_payload_same hashes collisionFree
            leftAccepted.unique rightAccepted.unique leftKey rightKey
          exact ⟨fun _ => .none, fun _ => ⟨rfl, .some bodies, .none, rfl⟩⟩
      | generate | parse => cases operations
  | parse left =>
      cases right with
      | parse right =>
          obtain ⟨bodies, documents⟩ := parse_payload_same hashes
            collisionFree leftAccepted.document rightAccepted.document leftKey
            rightKey
          exact ⟨fun _ => .none, fun _ =>
            ⟨rfl, .none, .some bodies, congrArg some documents⟩⟩
      | generate | embed => cases operations

/-! ## A parameter that the key loses -/

/-- Each byte as a character in place of the digest. -/
def sampleSha256Hex (bytes : Bytes) : String :=
  String.ofList (bytes.map fun byte => Char.ofNat byte.toNat)

theorem sampleSha256Hex_injective : Function.Injective sampleSha256Hex := by
  intro left right same
  have characters := String.ofList_inj.mp same
  refine List.map_injective_iff.mpr ?_ characters
  intro byte other equal
  have values := congrArg Char.toNat equal
  have identity : ∀ number < 256, (Char.ofNat number).toNat = number := by
    decide +kernel
  rw [identity _ byte.toNat_lt, identity _ other.toNat_lt] at values
  exact UInt8.toNat_inj.mp values

def hashingPlatform : Platform :=
  { samplePlatform with
    sha256Hex := sampleSha256Hex
    canonicalJsonHash := fun value =>
      (PyValue.ofJson value).canonicalJsonHash sampleFloats sampleSha256Hex }

theorem hashingPlatform_hashes :
    hashingPlatform.HashesCanonically sampleFloats :=
  fun _ => rfl

def questionOf (providerParams : JsonObject) : GatewayCall :=
  .generate
    { modelId := "solar"
      prompt := "question"
      providerParams := providerParams
      inputTokens := 8
      maxOutputTokens := some 5 }

theorem questionOf_accepted {providerParams : JsonObject}
    (unique : (providerParams.map Prod.fst).Nodup)
    (allowed : ∀ name ∈ ["max_tokens", "messages", "model"],
      Dict.lookup name providerParams = none) :
    (questionOf providerParams).Accepted hashingPlatform :=
  { checked := bind_eq_ok.mpr
      ⟨5, bind_eq_ok.mpr ⟨(), rejectReservedParams_ok.mpr allowed, rfl⟩, rfl⟩
    unique := unique
    document := trivial }

theorem sample_cache_key_sound :
    ¬ ((questionOf [("max_output_tokens", .int 5)]).httpRequest ⟨0⟩).Same
      ((questionOf [("max_output_tokens", .int 6)]).httpRequest ⟨0⟩) := by
  have shared : (questionOf [("max_output_tokens", .int 5)]).cacheKey
      hashingPlatform =
        (questionOf [("max_output_tokens", .int 6)]).cacheKey
          hashingPlatform :=
    rfl
  obtain ⟨key, keyed⟩ : ∃ key,
      (questionOf [("max_output_tokens", .int 6)]).cacheKey hashingPlatform =
        .ok key :=
    ⟨_, rfl⟩
  have sound := cache_key_sound_iff hashingPlatform_hashes
    sampleSha256Hex_injective (questionOf_accepted (by simp) (by decide))
    (questionOf_accepted (by simp) (by decide)) (shared.trans keyed) keyed ⟨0⟩
  intro same
  cases sound.2.mp same with
  | some values => cases values

/-- The request with the parameter is sent with it, under the same key. -/
theorem overridden_output_bound_shares_key :
    (questionOf [("max_output_tokens", .int 5)]).Accepted hashingPlatform ∧
      (questionOf []).Accepted hashingPlatform ∧
      (∃ key, (questionOf [("max_output_tokens", .int 5)]).cacheKey
          hashingPlatform = .ok key ∧
        (questionOf []).cacheKey hashingPlatform = .ok key) ∧
      ¬ ((questionOf [("max_output_tokens", .int 5)]).httpRequest ⟨0⟩).Same
        ((questionOf []).httpRequest ⟨0⟩) := by
  have shared : (questionOf [("max_output_tokens", .int 5)]).cacheKey
      hashingPlatform = (questionOf []).cacheKey hashingPlatform :=
    rfl
  obtain ⟨key, keyed⟩ : ∃ key,
      (questionOf []).cacheKey hashingPlatform = .ok key :=
    ⟨_, rfl⟩
  refine ⟨questionOf_accepted (by simp) (by decide),
    questionOf_accepted (by simp) (by decide),
    ⟨key, shared.trans keyed, keyed⟩, ?_⟩
  intro same
  cases same.json with
  | some bodies =>
      have found := bodies.lookup (by decide) (by decide) "max_output_tokens"
      cases found

end RagBench
