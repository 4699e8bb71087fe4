import RagBench.Ingestion.ParseTrace

/-!
# Paid evidence under a checkpoint key

An attempt without a response puts a checkpoint without a raw response under
the same key.  Only what stops that write saves the evidence of an earlier
run.
-/

namespace RagBench

open Program

/-! ## What a run does about a document -/

/-- Some event of the document has the property. -/
def Did (events : List CorpusEvent) (document : DocumentRecord)
    (property : CorpusEvent → Bool) : Prop :=
  ∃ event ∈ events, about document.sha256 event = true ∧ property event = true

instance (events : List CorpusEvent) (document : DocumentRecord)
    (property : CorpusEvent → Bool) :
    Decidable (Did events document property) :=
  inferInstanceAs (Decidable (∃ event ∈ events, _ ∧ property event = true))

/-- The source of the document is opened. -/
def opens (event : CorpusEvent) : Bool :=
  match event.op with
  | .readSource _ => true
  | _ => false

/-- The gateway returns. -/
def answers (event : CorpusEvent) : Bool :=
  match event with
  | ⟨.parse _, .ok _⟩ => true
  | _ => false

/-- The exception of the source or of the gateway. -/
def attemptError (event : CorpusEvent) : Option PyException :=
  match event with
  | ⟨.readSource _, .error error⟩ => some error
  | ⟨.parse _, .error error⟩ => some error
  | _ => none

/-- The attempt ends with an exception that `except Exception` lets pass. -/
def cancels (event : CorpusEvent) : Bool :=
  (attemptError event).any fun error => !error.isInstance .exception

/-- The repository raises instead of storing. -/
def refuses (event : CorpusEvent) : Bool :=
  match event with
  | ⟨.put _, .error _⟩ => true
  | _ => false

theorem did_iff {events : List CorpusEvent} {document : DocumentRecord}
    {property : CorpusEvent → Bool} :
    Did events document property ↔
      ∃ event ∈ events.filter (about document.sha256),
        property event = true := by
  simp only [Did, List.mem_filter, and_assoc]

private theorem cancels_iff {event : CorpusEvent} :
    cancels event = true ↔ ∃ error, attemptError event = some error ∧
      error.isInstance .exception = false := by
  simp [cancels, Option.any_eq_true]

/-! ## The checkpoint under a key -/

/-- Only checkpoints of the same source can replace a checkpoint. -/
private theorem get_foldl_put (repository : ParseRepository)
    (checkpoints : List ParseCheckpoint) (key : CheckpointKey) :
    (checkpoints.foldl ParseRepository.put repository).get key =
      ((checkpoints.filter (·.sourceSha256 = key.sourceSha256)).foldl
        ParseRepository.put repository).get key := by
  induction checkpoints using List.reverseRecOn with
  | nil => rfl
  | append_singleton checkpoints checkpoint induction =>
      rw [List.foldl_append, List.filter_append, List.foldl_append]
      by_cases same : checkpoint.sourceSha256 = key.sourceSha256
      · rw [List.filter_cons_of_pos (by simpa using same)]
        simp only [List.foldl_cons, List.filter_nil, List.foldl_nil,
          ParseRepository.get_put, induction]
      · have different : checkpoint.key ≠ key :=
          fun equal => same (congrArg CheckpointKey.sourceSha256 equal)
        rw [List.filter_cons_of_neg (by simpa using same)]
        simp only [List.foldl_cons, List.filter_nil, List.foldl_nil,
          ParseRepository.get_put, if_neg different, induction]

private theorem filter_stored (sha256 : String) (events : List CorpusEvent) :
    (events.filterMap stored).filter (·.sourceSha256 = sha256) =
      (events.filter (about sha256)).filterMap stored := by
  rw [List.filter_filterMap, List.filterMap_filter]
  congr 1
  funext event
  obtain ⟨op, outcome⟩ := event
  cases op with
  | put checkpoint => cases outcome <;> simp [stored, about, Option.filter]
  | _ => simp [stored]

variable {parses : ParseRequest → GatewayHistory →
    Except PyException ParsedDocument → Prop}
  {parser : CorpusParser} {start finish : CorpusWorld}
  {events : List CorpusEvent} {snapshotId modeName : String} {resume : Bool}
  {result : Except PyException ParseSummary} {snapshot : CorpusSnapshot}
  {mode : ParseMode} {document : DocumentRecord}

/-- The raw response under a key. -/
def ParseRepository.Holds (repository : ParseRepository)
    (key : CheckpointKey) (raw : JsonObject) : Prop :=
  ∃ checkpoint, repository.get key = some checkpoint ∧
    checkpoint.rawResponse = some raw

/-- An attempt that is cut off before its checkpoint changes nothing. -/
private theorem holds_of_cancelled {repository : ParseRepository}
    {key : CheckpointKey} {raw : JsonObject} {own : List CorpusEvent}
    (none : own.filterMap stored = [])
    (before : repository.Holds key raw)
    (cancelled : ∃ event ∈ own, cancels event = true) :
    ((own.filterMap stored).foldl ParseRepository.put repository).Holds key
        raw ↔
      (¬∃ event ∈ own, opens event = true) ∨
        (∃ event ∈ own, cancels event = true) ∨
        ∃ event ∈ own, refuses event = true := by
  rw [none]
  exact ⟨fun _ => .inr (.inl cancelled), fun _ => before⟩

/-- An attempt without a response whose checkpoint is put. -/
private theorem holds_of_failed (early : List CorpusEvent)
    {repository : ParseRepository} {key : CheckpointKey} {raw : JsonObject}
    {checkpoint : ParseCheckpoint} {outcome : Except PyException Unit}
    (nothing : early.filterMap stored = [])
    (before : repository.Holds key raw)
    (here : checkpoint.key = key) (empty : checkpoint.rawResponse = none)
    (opened : ∃ event ∈ early, opens event = true)
    (quiet : ∀ event ∈ early, cancels event = false ∧ refuses event = false) :
    let own := early ++ [⟨.put checkpoint, outcome⟩]
    ((own.filterMap stored).foldl ParseRepository.put repository).Holds key
        raw ↔
      (¬∃ event ∈ own, opens event = true) ∨
        (∃ event ∈ own, cancels event = true) ∨
        ∃ event ∈ own, refuses event = true := by
  obtain ⟨event, member, reads⟩ := opened
  have opened : ∃ event ∈ early ++ [⟨.put checkpoint, outcome⟩],
      opens event = true := ⟨event, List.mem_append_left _ member, reads⟩
  have uncancelled : ¬∃ event ∈ early ++ [⟨.put checkpoint, outcome⟩],
      cancels event = true := by
    rintro ⟨event, member, cancelled⟩
    rcases List.mem_append.mp member with early | last
    · simp [(quiet event early).1] at cancelled
    · cases List.mem_singleton.mp last
      cases cancelled
  have refused : (∃ event ∈ early ++ [⟨.put checkpoint, outcome⟩],
      refuses event = true) ↔ ∃ error, outcome = .error error := by
    constructor
    · rintro ⟨event, member, refused⟩
      rcases List.mem_append.mp member with early | last
      · simp [(quiet event early).2] at refused
      · cases List.mem_singleton.mp last
        cases outcome with
        | ok value => cases refused
        | error error => exact ⟨error, rfl⟩
    · rintro ⟨error, rfl⟩
      exact ⟨_, List.mem_append_right _ List.mem_cons_self, rfl⟩
  simp only [opened, not_true, uncancelled, refused, false_or,
    List.filterMap_append, nothing, List.nil_append]
  cases outcome with
  | error error => exact ⟨fun _ => ⟨error, rfl⟩, fun _ => before⟩
  | ok value =>
      refine ⟨fun holds => ?_, fun ⟨_, same⟩ => by cases same⟩
      obtain ⟨found, at', kept⟩ := holds
      change (repository.put checkpoint).get key = some found at at'
      rw [ParseRepository.get_put, if_pos here] at at'
      cases at'
      rw [empty] at kept
      cases kept

/-- In a run without a response for a document, its evidence survives exactly
when the document is not attempted, or the failure cannot be recorded. -/
theorem paid_evidence_kept_iff
    (executed : (parser.parseCorpus snapshotId modeName resume).Executes
      (CorpusWorld.Performs parses) start events result finish)
    (found : parser.snapshot snapshotId = .ok snapshot)
    (member : document ∈ snapshot.documents)
    (selected : ParseMode.ofString modeName = .ok mode)
    {checkpoint : ParseCheckpoint} {raw : JsonObject}
    (before : start.repository.get (parser.key snapshotId mode document) =
      some checkpoint)
    (evidence : checkpoint.rawResponse = some raw)
    (unanswered : ¬Did events document answers) :
    finish.repository.Holds (parser.key snapshotId mode document) raw ↔
      ¬Did events document opens ∨ Did events document cancels ∨
        Did events document refuses := by
  have held : start.repository.Holds (parser.key snapshotId mode document)
      raw := ⟨checkpoint, before, evidence⟩
  have last : finish.repository.Holds (parser.key snapshotId mode document)
        raw ↔
      (((events.filter (about document.sha256)).filterMap stored).foldl
        ParseRepository.put start.repository).Holds
          (parser.key snapshotId mode document) raw := by
    rw [repository_of_trace executed, ParseRepository.Holds, get_foldl_put,
      ← filter_stored]
    rfl
  have trace := parseCorpus_trace executed found member selected
  rw [did_iff] at unanswered
  rw [did_iff, did_iff, did_iff, last]
  generalize events.filter (about document.sha256) = own at trace unanswered ⊢
  rcases trace with rfl | trace
  · have unopened : ¬∃ event ∈ ([] : List CorpusEvent), opens event = true :=
      fun ⟨_, listed, _⟩ => List.not_mem_nil listed
    exact ⟨fun _ => .inl unopened, fun _ => held⟩
  -- An exception that is caught cancels nothing.
  have noted : ∀ {event : CorpusEvent} {error : PyException},
      attemptError event = some error → error.isInstance .exception = true →
        cancels event = false := by
    intro event error failed caught
    simp [cancels, failed, caught]
  cases trace with
  | sourceCancelled uncaught =>
      exact holds_of_cancelled rfl held
        ⟨_, List.mem_cons_self, cancels_iff.mpr ⟨_, rfl, uncaught⟩⟩
  | sourceFailed caught =>
      exact holds_of_failed [_] rfl held rfl rfl
        ⟨_, List.mem_cons_self, rfl⟩
        (List.forall_mem_singleton.mpr ⟨noted rfl caught, rfl⟩)
  | sourceChanged =>
      exact holds_of_failed [_] rfl held rfl rfl
        ⟨_, List.mem_cons_self, rfl⟩
        (List.forall_mem_singleton.mpr ⟨rfl, rfl⟩)
  | parseCancelled uncaught =>
      exact holds_of_cancelled rfl held
        ⟨_, List.mem_cons_of_mem _ List.mem_cons_self,
          cancels_iff.mpr ⟨_, rfl, uncaught⟩⟩
  | parseFailed caught =>
      exact holds_of_failed [_, _] rfl held rfl rfl
        ⟨_, List.mem_cons_self, rfl⟩
        (List.forall_mem_cons.mpr ⟨⟨rfl, rfl⟩,
          List.forall_mem_singleton.mpr ⟨noted rfl caught, rfl⟩⟩)
  | answered =>
      exact absurd ⟨_, List.mem_cons_of_mem _ List.mem_cons_self, rfl⟩
        unanswered

/-! ## Responses paid in a run -/

/-- A gateway call may get any replies. -/
def UpstageGateway.ParseRuns (gateway : UpstageGateway)
    (request : ParseRequest) (history : GatewayHistory)
    (outcome : Except PyException ParsedDocument) : Prop :=
  (gateway.parse request).Executes (fun _ _ _ _ => True) () history outcome ()

/-- The provider has answered with success. -/
def pays (event : Awaited GatewayOp GatewayReply PyException) : Bool :=
  match event with
  | ⟨.post _, .ok response⟩ => response.accepted
  | _ => false

/-- Some response for the document was paid. -/
def CorpusWorld.Paid (world : CorpusWorld) (document : DocumentRecord) :
    Prop :=
  ∃ call ∈ world.calls, call.1.documentSha256 = document.sha256 ∧
    ∃ event ∈ call.2, pays event = true

/-- The gateway ends with an exception that `except Exception` catches. -/
def gatewayRaises (event : CorpusEvent) : Bool :=
  match event with
  | ⟨.parse _, .error error⟩ => error.isInstance .exception
  | _ => false

/-- A checkpoint that is put carries the raw response or a cost. -/
def recordsPayment (event : CorpusEvent) : Bool :=
  match event.op with
  | .put checkpoint => checkpoint.rawResponse.isSome || checkpoint.costUsd ≠ 0
  | _ => true

/-- Every call of the gateway is an event. -/
private theorem calls_of_trace {α : Type} {program : CorpusM α}
    {result : Except PyException α}
    (executed : program.Executes (CorpusWorld.Performs parses) start events
      result finish) :
    ∀ call ∈ finish.calls, call ∈ start.calls ∨
      ∃ outcome, ⟨.parse call.1, outcome⟩ ∈ events := by
  induction executed with
  | ret => exact fun _ member => .inl member
  | raise => exact fun _ member => .inl member
  | @call op outcome next state middle finish events result performed _
      induction =>
      intro call member
      rcases induction call member with early | ⟨value, later⟩
      · cases performed with
        | parse called =>
            rcases List.mem_append.mp early with before | new
            · exact .inl before
            · cases List.mem_singleton.mp new
              exact .inr ⟨_, List.mem_cons_self⟩
        | _ => exact .inl early
      · exact .inr ⟨value, List.mem_cons_of_mem _ later⟩

/-- A document with a paid response is recorded so exactly when no exception
leaves the gateway once a response is paid. -/
theorem paid_document_recorded_iff {gateway : UpstageGateway}
    (executed : (parser.parseCorpus snapshotId modeName resume).Executes
      (CorpusWorld.Performs gateway.ParseRuns) start events result finish)
    (found : parser.snapshot snapshotId = .ok snapshot)
    (member : document ∈ snapshot.documents)
    (selected : ParseMode.ofString modeName = .ok mode)
    (fresh : start.calls = []) :
    (finish.Paid document → ∀ event ∈ events,
        about document.sha256 event = true → recordsPayment event = true) ↔
      ¬(finish.Paid document ∧ Did events document gatewayRaises) := by
  have called : finish.Paid document →
      ∃ event ∈ events.filter (about document.sha256),
        ∃ request outcome, event = ⟨.parse request, outcome⟩ := by
    rintro ⟨call, listed, same, _⟩
    rcases calls_of_trace executed call listed with early | ⟨outcome, here⟩
    · rw [fresh] at early
      cases early
    · exact ⟨_, List.mem_filter.mpr ⟨here, by simpa [about] using same⟩,
        call.1, outcome, rfl⟩
  have recorded : (∀ event ∈ events, about document.sha256 event = true →
        recordsPayment event = true) ↔
      ∀ event ∈ events.filter (about document.sha256),
        recordsPayment event = true := by
    simp only [List.mem_filter, and_imp]
  have trace := parseCorpus_trace executed found member selected
  rw [recorded, did_iff]
  generalize events.filter (about document.sha256) = own at trace called ⊢
  -- Nothing is lost where all checkpoints carry the payment.
  have kept : (∀ event ∈ own, recordsPayment event = true) →
      (∀ event ∈ own, ¬gatewayRaises event = true) →
      ((finish.Paid document → ∀ event ∈ own, recordsPayment event = true) ↔
        ¬(finish.Paid document ∧ ∃ event ∈ own, gatewayRaises event = true)) := by
    intro all none
    refine ⟨fun _ => ?_, fun _ _ => all⟩
    rintro ⟨_, event, here, raises⟩
    exact none event here raises
  -- Nothing is paid where the gateway is not called.
  have unpaid : (∀ event ∈ own, ∀ request outcome,
        event ≠ ⟨.parse request, outcome⟩) →
      ((finish.Paid document → ∀ event ∈ own, recordsPayment event = true) ↔
        ¬(finish.Paid document ∧ ∃ event ∈ own, gatewayRaises event = true)) := by
    intro none
    have nothing : ¬finish.Paid document := by
      intro paid
      obtain ⟨event, here, request, outcome, same⟩ := called paid
      exact none event here request outcome same
    exact ⟨fun _ both => nothing both.1, fun _ paid => absurd paid nothing⟩
  rcases trace with rfl | trace
  · exact kept (List.forall_mem_nil _) (List.forall_mem_nil _)
  cases trace with
  | sourceCancelled =>
      refine unpaid (List.forall_mem_singleton.mpr ?_)
      rintro _ _ ⟨⟩
  | sourceFailed | sourceChanged =>
      refine unpaid (List.forall_mem_cons.mpr
        ⟨?_, List.forall_mem_singleton.mpr ?_⟩)
      · rintro _ _ ⟨⟩
      · rintro _ _ ⟨⟩
  | parseCancelled uncaught =>
      refine kept (List.forall_mem_cons.mpr
        ⟨rfl, List.forall_mem_singleton.mpr rfl⟩)
        (List.forall_mem_cons.mpr
          ⟨Bool.false_ne_true,
            List.forall_mem_singleton.mpr fun raises => ?_⟩)
      change PyException.isInstance _ _ = true at raises
      rw [uncaught] at raises
      cases raises
  | parseFailed caught =>
      constructor
      · rintro all ⟨paid, _⟩
        have last := all paid _ (List.mem_cons_of_mem _
          (List.mem_cons_of_mem _ List.mem_cons_self))
        simp [recordsPayment, CorpusParser.unpaidCheckpoint] at last
      · intro safe paid
        exact absurd ⟨paid, _, List.mem_cons_of_mem _ List.mem_cons_self,
          caught⟩ safe
  | answered evidence =>
      refine kept (List.forall_mem_cons.mpr ⟨rfl,
        List.forall_mem_cons.mpr ⟨rfl, fun event here => ?_⟩⟩)
        (List.forall_mem_cons.mpr ⟨Bool.false_ne_true,
          List.forall_mem_cons.mpr ⟨Bool.false_ne_true,
            fun event here => ?_⟩⟩)
      · obtain ⟨checkpoint, outcome, rfl, _, raw⟩ := evidence event here
        simp [recordsPayment, raw]
      · obtain ⟨checkpoint, outcome, rfl, _⟩ := evidence event here
        exact Bool.false_ne_true

/-! ## Sample runs -/

/-- A document of 101 pages, so of two chunks. -/
def longDocument : DocumentRecord :=
  { documentId := "long"
    sha256 := "hash"
    pageCount := 101
    localPath := "long.pdf" }

def longPlatform : Platform :=
  { samplePlatform with
    pdfPageCount := fun _ => .ok 101
    pdfPages := fun _ start _ => .ok [UInt8.ofNat start] }

def longSnapshot : CorpusSnapshot :=
  { snapshotId := "snapshot"
    documents := [longDocument]
    snapshotId_ne_empty := by decide
    unique := by decide }

def longParser : CorpusParser :=
  { platform := longPlatform
    priceBook := samplePriceBook
    priceSnapshotHash := "hash"
    modelId := "model"
    modelVersion := "model"
    hardBudgetUsd := 10
    vatBuffer := 0
    vatBuffer_nonneg := le_rfl
    snapshots := .ofList [("snapshot", longSnapshot)]
    verifiedAt := 0
    confirmedPlanHash := some "hash" }

theorem longParser_vatBuffer : 0 ≤ longParser.vatBuffer :=
  longParser.vatBuffer_nonneg

def longGateway : UpstageGateway :=
  { platform := longPlatform
    priceBook := samplePriceBook
    hardLimit := 10
    billingCostMultiplier := 1
    multiplierAtLeastOne := le_rfl
    maxRetries := 0
    maxBackoffSeconds := .finite 8 }

/-- Nothing is cached; `reply` answers for the provider. -/
def chunkReplies (reply : Option Bytes → HttpResponse) :
    Unit → (op : GatewayOp) → Except PyException (GatewayReply op) × Unit
  | _, .cacheGet _ => (.ok none, ())
  | _, .cachePut _ _ _ _ => (.ok (), ())
  | _, .enterSingleflight _ => (.ok (), ())
  | _, .exitSingleflight _ => (.ok (), ())
  | _, .uuid4 => (.ok ⟨1⟩, ())
  | _, .now => (.ok (0 : ℤ), ())
  | _, .jitter _ => (.ok (.finite 0), ())
  | _, .sleep _ => (.ok (), ())
  | _, .post request => (.ok (reply request.document), ())
  | _, .reserveAtomic correlationId projectedCost _ =>
      (.ok ⟨⟨2⟩, correlationId, projectedCost, .open⟩, ())
  | _, .settle _ _ _ _ _ _ => (.ok (), ())
  | _, .release _ => (.ok (), ())
  | _, .recordCacheHit _ _ _ _ => (.ok (), ())

/-- The environment of a corpus run; `parse` answers for the gateway. -/
def corpusReplies (parse : ParseRequest →
      GatewayHistory × Except PyException ParsedDocument) :
    CorpusWorld → (op : CorpusOp) →
      Except PyException (CorpusReply op) × CorpusWorld
  | world, .get key => (.ok (world.repository.get key), world)
  | world, .put checkpoint =>
      (.ok (), { world with repository := world.repository.put checkpoint })
  | world, .enterSingleflight _ => (.ok (), world)
  | world, .exitSingleflight _ => (.ok (), world)
  | world, .sourceMetadata _ => (.ok (0, 0), world)
  | world, .readSource _ => (.ok [], world)
  | world, .parse request =>
      ((parse request).2,
        { world with calls := world.calls ++ [(request, (parse request).1)] })
  | world, .settledCostUsd => (.ok (0 : ℚ), world)
  | world, .now => (.ok (0 : ℤ), world)
  | world, .elapsedMs => (.ok (0 : ℕ), world)

theorem performs_corpusReplies
    {parse : ParseRequest → GatewayHistory × Except PyException ParsedDocument}
    (called : ∀ request, parses request (parse request).1 (parse request).2)
    (world : CorpusWorld) (op : CorpusOp) :
    world.Performs parses op (corpusReplies parse world op).1
      (corpusReplies parse world op).2 := by
  cases op with
  | get => exact .get
  | put => exact .put
  | parse request => exact .parse (called request)
  | _ => exact .reply _ trivial

def longRun (parse : ParseRequest →
      GatewayHistory × Except PyException ParsedDocument)
    (world : CorpusWorld) :=
  execute (corpusReplies parse)
    (longParser.parseCorpus "snapshot" "standard" true) world

/-- The gateway alone, with the replies of the provider. -/
def longParse (reply : Option Bytes → HttpResponse) (request : ParseRequest) :
    GatewayHistory × Except PyException ParsedDocument :=
  let run := execute (chunkReplies reply) (longGateway.parse request) ()
  (run.1, run.2.1)

private theorem longParse_runs (reply : Option Bytes → HttpResponse)
    (request : ParseRequest) :
    longGateway.ParseRuns request (longParse reply request).1
      (longParse reply request).2 :=
  executes_execute (fun _ _ => trivial) _ _

/-- Only the first chunk is answered with success. -/
def failingReply (document : Option Bytes) : HttpResponse :=
  if document = some [0] then
    { statusCode := 200
      json := .ok (.object [("model", .str "model")]) }
  else
    { statusCode := 500
      json := .ok .null }

theorem second_chunk_failure_hides_payment :
    let run := longRun (longParse failingReply) ⟨.empty, []⟩
    (longParser.parseCorpus "snapshot" "standard" true).Executes
        (CorpusWorld.Performs longGateway.ParseRuns) ⟨.empty, []⟩ run.1 run.2.1
        run.2.2 ∧
      run.2.2.Paid longDocument ∧
      ∃ event ∈ run.1, about longDocument.sha256 event = true ∧
        recordsPayment event = false := by
  refine ⟨executes_execute (performs_corpusReplies
    (longParse_runs failingReply)) _ _, ?_, ?_⟩
  · unfold CorpusWorld.Paid
    decide +kernel
  · decide +kernel

/-- Every chunk is answered with success. -/
def answeringReply (_ : Option Bytes) : HttpResponse :=
  { statusCode := 200
    json := .ok (.object [("model", .str "model")]) }

theorem both_chunks_recorded :
    let run := longRun (longParse answeringReply) ⟨.empty, []⟩
    run.2.2.Paid longDocument → ∀ event ∈ run.1,
      about longDocument.sha256 event = true → recordsPayment event = true := by
  have executed := executes_execute (performs_corpusReplies
    (longParse_runs answeringReply))
    (longParser.parseCorpus "snapshot" "standard" true) ⟨.empty, []⟩
  have known : longParser.snapshot "snapshot" = .ok longSnapshot := rfl
  refine (paid_document_recorded_iff executed known List.mem_cons_self rfl
    rfl).mpr fun both => ?_
  exact absurd both.2 (by decide +kernel)

/-- A paid response that could not be normalized. -/
def owedCheckpoint : ParseCheckpoint :=
  { snapshotId := "snapshot"
    documentId := "long"
    sourceSha256 := "hash"
    expectedPages := 101
    providerModelId := "model"
    providerModelVersion := "model"
    mode := .standard
    status := .reconciliationRequired
    rawResponse := some [("model", .str "model")]
    rawResponseHash := some "hash"
    markdown := ""
    html := ""
    elements := []
    pageMappings := []
    latencyMs := 0
    costUsd := 101 / 100 }

def owedWorld : CorpusWorld :=
  { repository := ParseRepository.empty.put owedCheckpoint }

/-- The gateway ends with an exception. -/
def raisingParse (error : PyException) (_ : ParseRequest) :
    GatewayHistory × Except PyException ParsedDocument :=
  ([], .error error)

private theorem raisingRun_executes (error : PyException) :
    (longParser.parseCorpus "snapshot" "standard" true).Executes
      (CorpusWorld.Performs fun _ _ _ => True) owedWorld
      (longRun (raisingParse error) owedWorld).1
      (longRun (raisingParse error) owedWorld).2.1
      (longRun (raisingParse error) owedWorld).2.2 :=
  executes_execute (performs_corpusReplies fun _ => trivial) _ _

theorem failed_retry_destroys_evidence :
    let run := longRun (raisingParse (providerHttpError 500)) owedWorld
    (longParser.parseCorpus "snapshot" "standard" true).Executes
        (CorpusWorld.Performs fun _ _ _ => True) owedWorld run.1 run.2.1
        run.2.2 ∧
      owedWorld.repository.Holds (longParser.key "snapshot" .standard
        longDocument) [("model", .str "model")] ∧
      Did run.1 longDocument opens ∧ ¬Did run.1 longDocument answers ∧
      ¬run.2.2.repository.Holds (longParser.key "snapshot" .standard
        longDocument) [("model", .str "model")] := by
  refine ⟨raisingRun_executes _, ⟨owedCheckpoint, rfl, rfl⟩,
    by decide +kernel, by decide +kernel, ?_⟩
  rintro ⟨checkpoint, found, raw⟩
  have erased : ((longRun (raisingParse (providerHttpError 500))
      owedWorld).2.2.repository.get (longParser.key "snapshot" .standard
        longDocument)).all (·.rawResponse.isNone) = true := by
    decide +kernel
  rw [found] at erased
  simp [raw] at erased

theorem cancelled_retry_keeps_evidence :
    (longRun (raisingParse .cancelled) owedWorld).2.2.repository.Holds
      (longParser.key "snapshot" .standard longDocument)
      [("model", .str "model")] := by
  have known : longParser.snapshot "snapshot" = .ok longSnapshot := rfl
  have owed : owedWorld.repository.get (longParser.key "snapshot" .standard
      longDocument) = some owedCheckpoint := rfl
  refine (paid_evidence_kept_iff (raisingRun_executes .cancelled) known
    List.mem_cons_self rfl owed rfl (by decide +kernel)).mpr
    (.inr (.inl ?_))
  decide +kernel

end RagBench
