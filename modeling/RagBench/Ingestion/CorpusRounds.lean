import RagBench.Ingestion.CheckpointIntegrity
import RagBench.Related

/-!
# The rounds of a corpus run

Other writers may change the repository between two operations of a run, but
they leave intact checkpoints of the snapshot alone.  A round is about one
document, so what it does not store stays.
-/

namespace RagBench

open Program

/-! ## Other writers -/

/-- The repository may have changed before the operation. -/
def CorpusWorld.Interfered (others : ParseRepository → ParseRepository → Prop)
    (parses : ParseRequest → GatewayHistory →
      Except PyException ParsedDocument → Prop) (before : CorpusWorld)
    (op : CorpusOp) (outcome : Except PyException (CorpusReply op))
    (after : CorpusWorld) : Prop :=
  ∃ repository, others before.repository repository ∧
    CorpusWorld.Performs parses { before with repository := repository } op
      outcome after

/-- Intact checkpoints of the snapshot stay. -/
def KeepsIntact (platform : Platform) (snapshotId : String)
    (others : ParseRepository → ParseRepository → Prop) : Prop :=
  ∀ before after key checkpoint, others before after →
    key.snapshotId = snapshotId → before.get key = some checkpoint →
      checkpoint.cacheIntegrityOk platform = .ok true →
        after.get key = some checkpoint

/-- The test of a cache hit, as `plan_corpus` makes it. -/
structure CorpusParser.Passes (parser : CorpusParser)
    (document : DocumentRecord) (checkpoint : ParseCheckpoint) : Prop where
  intact : checkpoint.cacheIntegrityOk parser.platform = .ok true
  matching : parser.checkpointMatches checkpoint document = true

section Kept

variable {parser : CorpusParser} {snapshotId : String}
  {others : ParseRepository → ParseRepository → Prop}
  {parses : ParseRequest → GatewayHistory →
    Except PyException ParsedDocument → Prop}
  {start finish : CorpusWorld} {events : List CorpusEvent}

/-- An operation that does not store under the key keeps what is intact. -/
theorem CorpusWorld.Interfered.keeps {before after : CorpusWorld}
    {op : CorpusOp} {outcome : Except PyException (CorpusReply op)}
    (keeps : KeepsIntact parser.platform snapshotId others)
    (performed : CorpusWorld.Interfered others parses before op outcome after)
    {key : CheckpointKey} (named : key.snapshotId = snapshotId)
    (quiet : ∀ stored, op = .put stored → stored.key ≠ key)
    {checkpoint : ParseCheckpoint}
    (intact : checkpoint.cacheIntegrityOk parser.platform = .ok true)
    (found : before.repository.get key = some checkpoint) :
    after.repository.get key = some checkpoint := by
  obtain ⟨repository, changed, performed⟩ := performed
  have kept := keeps _ _ _ _ changed named found intact
  cases performed with
  | get | parse | reply | raise => exact kept
  | put =>
      rw [ParseRepository.get_put, if_neg (quiet _ rfl)]
      exact kept

/-- The same for a program. -/
theorem kept_of_quiet {α : Type} {program : CorpusM α}
    {result : Except PyException α}
    (executed : program.Executes (CorpusWorld.Interfered others parses) start
      events result finish)
    (keeps : KeepsIntact parser.platform snapshotId others)
    {key : CheckpointKey} (named : key.snapshotId = snapshotId)
    (quiet : ∀ event ∈ events, ∀ stored, event.op = .put stored →
      stored.key ≠ key)
    {checkpoint : ParseCheckpoint}
    (intact : checkpoint.cacheIntegrityOk parser.platform = .ok true)
    (found : start.repository.get key = some checkpoint) :
    finish.repository.get key = some checkpoint :=
  executed.preserves (fun world => world.repository.get key = some checkpoint)
    (fun _ op outcome _ member performed held =>
      performed.keeps keeps named (quiet ⟨op, outcome⟩ member) intact held)
    found

/-- The same for a program that may not store under the key. -/
theorem kept_of_allowed {α : Type} {program : CorpusM α}
    {result : Except PyException α} {allowed : CorpusOp → Prop}
    {post : Except PyException α → Unit → Prop}
    (executed : program.Executes (CorpusWorld.Interfered others parses) start
      events result finish)
    (followed : program.Follows (Protocol.only allowed) post ())
    (keeps : KeepsIntact parser.platform snapshotId others)
    {key : CheckpointKey} (named : key.snapshotId = snapshotId)
    (quiet : ∀ stored, allowed (.put stored) → stored.key ≠ key)
    {checkpoint : ParseCheckpoint}
    (intact : checkpoint.cacheIntegrityOk parser.platform = .ok true)
    (found : start.repository.get key = some checkpoint) :
    finish.repository.get key = some checkpoint := by
  refine kept_of_quiet executed keeps named ?_ intact found
  intro event member stored same
  exact quiet stored (same ▸ executed.allowed followed event member)

/-- A reply to `get` is what is stored then. -/
theorem CorpusWorld.Interfered.reply {before after : CorpusWorld}
    {key : CheckpointKey} {found : Option ParseCheckpoint}
    (performed : CorpusWorld.Interfered others parses before (.get key)
      (.ok found) after) : after.repository.get key = found := by
  obtain ⟨repository, -, performed⟩ := performed
  cases performed with
  | get => rfl
  | reply value external => cases external

/-- A read finds what is intact, and keeps it. -/
theorem CorpusWorld.Interfered.reads {before after : CorpusWorld}
    {key : CheckpointKey} {found : Option ParseCheckpoint}
    (keeps : KeepsIntact parser.platform snapshotId others)
    (performed : CorpusWorld.Interfered others parses before (.get key)
      (.ok found) after) (named : key.snapshotId = snapshotId)
    {checkpoint : ParseCheckpoint}
    (intact : checkpoint.cacheIntegrityOk parser.platform = .ok true)
    (held : before.repository.get key = some checkpoint) :
    found = some checkpoint := by
  rw [← performed.reply]
  exact performed.keeps keeps named (fun _ same => by cases same) intact held

end Kept

theorem CorpusParser.usable_eq_true {parser : CorpusParser} {resume : Bool}
    {found : Option ParseCheckpoint} :
    parser.usable resume found = .ok true ↔ resume = true ∧
      ∃ checkpoint, found = some checkpoint ∧
        checkpoint.cacheIntegrityOk parser.platform = .ok true := by
  unfold CorpusParser.usable
  cases found with
  | none => simp
  | some checkpoint => cases resume <;> simp

/-! ## Planning -/

/-- An entry of a plan, and the document it is made of. -/
structure Planned (parser : CorpusParser) (snapshotId : String)
    (mode : ParseMode) (resume : Bool) (start finish : CorpusWorld)
    (document : DocumentRecord) (item : PlannedDocument) : Prop where
  documentId : item.documentId = document.documentId
  sourceSha256 : item.sourceSha256 = document.sha256
  pages : item.pages = document.pageCount
  hit : item.cacheHit = true → resume = true ∧ ∃ checkpoint,
    finish.repository.get (parser.key snapshotId mode document) =
      some checkpoint ∧ parser.Passes document checkpoint
  resumed : resume = true → ∀ checkpoint,
    start.repository.get (parser.key snapshotId mode document) =
      some checkpoint → parser.Passes document checkpoint →
        item.cacheHit = true

section Planning

variable {parser : CorpusParser} {snapshotId : String} {mode : ParseMode}
  {resume : Bool} {others : ParseRepository → ParseRepository → Prop}
  {parses : ParseRequest → GatewayHistory →
    Except PyException ParsedDocument → Prop}
  {start finish : CorpusWorld} {events : List CorpusEvent}

/-- Planning keeps what is intact. -/
theorem kept_of_planning {α : Type} {program : CorpusM α}
    {result : Except PyException α}
    (executed : program.Executes (CorpusWorld.Interfered others parses) start
      events result finish)
    (leaves : program.Leaves (Protocol.only Planning) ())
    (keeps : KeepsIntact parser.platform snapshotId others)
    {key : CheckpointKey} (named : key.snapshotId = snapshotId)
    {checkpoint : ParseCheckpoint}
    (intact : checkpoint.cacheIntegrityOk parser.platform = .ok true)
    (found : start.repository.get key = some checkpoint) :
    finish.repository.get key = some checkpoint :=
  kept_of_allowed executed leaves keeps named (fun _ => False.elim) intact
    found

/-- An entry is still right for a longer run around its making. -/
theorem Planned.widen {earlier later : CorpusWorld}
    {document : DocumentRecord} {item : PlannedDocument}
    (planned : Planned parser snapshotId mode resume start finish document
      item)
    (before : ∀ checkpoint, parser.Passes document checkpoint →
      earlier.repository.get (parser.key snapshotId mode document) =
        some checkpoint →
      start.repository.get (parser.key snapshotId mode document) =
        some checkpoint)
    (after : ∀ checkpoint, parser.Passes document checkpoint →
      finish.repository.get (parser.key snapshotId mode document) =
        some checkpoint →
      later.repository.get (parser.key snapshotId mode document) =
        some checkpoint) :
    Planned parser snapshotId mode resume earlier later document item where
  documentId := planned.documentId
  sourceSha256 := planned.sourceSha256
  pages := planned.pages
  hit := fun cached => by
    obtain ⟨resumed, checkpoint, found, passes⟩ := planned.hit cached
    exact ⟨resumed, checkpoint, after checkpoint passes found, passes⟩
  resumed := fun resumed checkpoint found passes =>
    planned.resumed resumed checkpoint (before checkpoint passes found) passes

theorem planDocument_planned {document : DocumentRecord}
    {entry : PlannedDocument × Bool}
    (keeps : KeepsIntact parser.platform snapshotId others)
    (executed : (parser.planDocument snapshotId mode resume
      document).Executes (CorpusWorld.Interfered others parses) start events
      (.ok entry) finish) :
    Planned parser snapshotId mode resume start finish document entry.1 := by
  rcases executes_await_bind.mp executed with ⟨_, _, same, _⟩ |
    ⟨found, middle, _, reading, checking, _⟩
  · cases same
  rcases executes_fromExcept_bind.mp checking with ⟨_, _, same, _⟩ |
    ⟨intact, checked, looking⟩
  · cases same
  rcases executes_await_bind.mp looking with ⟨_, _, same, _⟩ |
    ⟨metadata, last, _, stating, returned, _⟩
  · cases same
  obtain ⟨_, same, rfl⟩ := executes_pure.mp returned
  obtain rfl := Except.ok.inj same
  refine ⟨rfl, rfl, rfl, fun cached => ?_, fun resumed checkpoint held
    passes => ?_⟩
  · obtain ⟨usable, matching⟩ := (Bool.and_eq_true _ _).mp cached
    obtain rfl := usable
    obtain ⟨resumed, checkpoint, rfl, valid⟩ :=
      CorpusParser.usable_eq_true.mp checked
    refine ⟨resumed, checkpoint, ?_, valid, by simpa using matching⟩
    exact stating.keeps keeps rfl (fun _ same => by cases same) valid
      reading.reply
  · obtain rfl := reading.reads keeps rfl passes.intact held
    have usable := CorpusParser.usable_eq_true.mpr
      ⟨resumed, checkpoint, rfl, passes.intact⟩
    obtain rfl := Except.ok.inj (checked.symm.trans usable)
    exact (Bool.and_eq_true _ _).mpr ⟨rfl, passes.matching⟩

theorem planDocuments_planned {documents : List DocumentRecord}
    {entries : List (PlannedDocument × Bool)}
    (keeps : KeepsIntact parser.platform snapshotId others)
    (executed : (parser.planDocuments snapshotId mode resume
      documents).Executes (CorpusWorld.Interfered others parses) start events
      (.ok entries) finish) :
    List.Forall₂ (Planned parser snapshotId mode resume start finish)
      documents (entries.map Prod.fst) := by
  induction documents generalizing start events entries with
  | nil =>
      obtain ⟨_, same, _⟩ := executes_pure.mp executed
      obtain rfl := Except.ok.inj same
      exact .nil
  | cons document documents induction =>
      rcases executes_bind.mp executed with ⟨_, _, same⟩ |
        ⟨early, entry, middle, later, planning, continuing, _⟩
      · cases same
      rcases executes_bind.mp continuing with ⟨_, _, same⟩ |
        ⟨_, later_entries, last, _, rest, returned, _⟩
      · cases same
      obtain ⟨_, same, rfl⟩ := executes_pure.mp returned
      obtain rfl := Except.ok.inj same
      have here := planDocument_planned keeps planning
      refine .cons (here.widen (fun _ _ held => held) fun checkpoint passes
        held => ?_) ((induction rest).imp fun document item planned =>
          planned.widen (fun checkpoint passes held => ?_)
            fun _ _ held => held)
      · exact kept_of_planning rest (planDocuments_leaves documents) keeps rfl
          passes.intact held
      · exact kept_of_planning planning (planDocument_leaves _) keeps rfl
          passes.intact held

/-- The entries of a plan, for the documents of the snapshot. -/
theorem plan_planned {modeName : String} {plan : ParsePlan}
    (keeps : KeepsIntact parser.platform snapshotId others)
    (executed : (parser.plan snapshotId modeName resume).Executes
      (CorpusWorld.Interfered others parses) start events (.ok plan)
      finish) :
    ∃ snapshot, ParseMode.ofString modeName = .ok plan.mode ∧
      parser.snapshot snapshotId = .ok snapshot ∧
      List.Forall₂ (Planned parser snapshotId plan.mode resume start finish)
        snapshot.documents plan.documents := by
  obtain ⟨selected, snapshot, entries, chosen, found, rfl, listed, second,
    third, _, _, _, comparing, planning, settling, _⟩ :=
      plan_executes executed
  refine ⟨snapshot, chosen, found, ?_⟩
  rw [listed]
  refine (planDocuments_planned keeps planning).imp
    fun document item planned => planned.widen
      (fun checkpoint passes held => ?_) fun checkpoint passes held => ?_
  · exact kept_of_planning comparing (requireParity_leaves snapshot plan.mode)
      keeps rfl passes.intact held
  · exact settling.keeps keeps rfl (fun _ same => by cases same)
      passes.intact held

end Planning

/-! ## What a round is about -/

/-- The operations of an attempt on a source file. -/
def Attempting (sha256 : String) : CorpusOp → Prop
  | .put checkpoint => checkpoint.sourceSha256 = sha256
  | .readSource document => document.sha256 = sha256
  | .parse request => request.documentSha256 = sha256
  | .elapsedMs => True
  | _ => False

/-- The operations of the round of a source file. -/
def Concerns (sha256 : String) : CorpusOp → Prop
  | .get key => key.sourceSha256 = sha256
  | .enterSingleflight _ | .exitSingleflight _ => True
  | op => Attempting sha256 op

theorem Attempting.concerns {sha256 : String} {op : CorpusOp}
    (attempting : Attempting sha256 op) : Concerns sha256 op := by
  cases op with
  | get | enterSingleflight | exitSingleflight => cases attempting
  | _ => exact attempting

section Rounds

variable {parser : CorpusParser} {snapshotId : String}
  {snapshot : CorpusSnapshot} {document : DocumentRecord} {mode : ParseMode}
  {resume : Bool}

theorem leaves_attempt {α : Type} {program : CorpusM α}
    {allowed : CorpusOp → Prop}
    (leaves : program.Leaves (Protocol.only allowed) ()) :
    program.attempt.Leaves (Protocol.only allowed) () :=
  Follows.attempt leaves fun _ _ _ => rfl

private theorem recordFailure_leaves (response : Option ParsedDocument)
    (error : PyException) :
    (parser.recordFailure snapshotId document mode response error).Leaves
      (Protocol.only (Attempting document.sha256)) () := by
  unfold CorpusParser.recordFailure
  split_ifs
  · refine (leaves_await_only trivial).bind (fun latency => ?_) fun _ => rfl
    refine Follows.bind (follows_fromExcept_is _) ?_ fun _ _ _ => rfl
    rintro checkpoint ⟨⟩ ⟨built, -⟩
    have same : checkpoint.sourceSha256 = document.sha256 := by
      cases response with
      | none =>
          obtain rfl := Except.ok.inj built
          rfl
      | some response =>
          unfold CorpusParser.paidCheckpoint at built
          obtain ⟨hash, -, built⟩ := bind_eq_ok.mp built.symm
          obtain ⟨mappings, -, built⟩ := bind_eq_ok.mp built
          obtain ⟨cost, -, built⟩ := bind_eq_ok.mp built
          obtain rfl := Except.ok.inj built
          rfl
    exact Leaves.bind (leaves_await_only same) (fun _ => leaves_pure _)
      (fun _ => Eq.refl ())
  · exact leaves_throw _

private theorem requestParse_leaves :
    (parser.requestParse document mode).Leaves
      (Protocol.only (Attempting document.sha256)) () := by
  have reads : (parser.readVerifiedSource document).Leaves
      (Protocol.only (Attempting document.sha256)) () := by
    unfold CorpusParser.readVerifiedSource
    refine Leaves.bind (leaves_await_only (Eq.refl document.sha256))
      (fun payload => ?_) (fun _ => Eq.refl ())
    split_ifs
    · exact leaves_throw _
    · exact leaves_pure _
  refine reads.bind (fun content => ?_) fun _ => rfl
  exact leaves_await_only rfl

private theorem store_leaves (response : ParsedDocument) :
    (parser.store snapshot document mode response).Leaves
      (Protocol.only (Attempting document.sha256)) () := by
  refine (leaves_await_only trivial).bind (fun latency => ?_) fun _ => rfl
  refine Follows.bind (follows_fromExcept_is _) ?_ fun _ _ _ => rfl
  rintro checkpoint ⟨⟩ ⟨built, -⟩
  have key := (normalize_ok built.symm).key
  exact leaves_await_only (congrArg CheckpointKey.sourceSha256 key)

theorem attempt_leaves :
    (parser.attempt snapshotId snapshot document mode).Leaves
      (Protocol.only (Attempting document.sha256)) () := by
  unfold CorpusParser.attempt
  refine (leaves_attempt requestParse_leaves).bind (fun outcome => ?_)
    fun _ => rfl
  cases outcome with
  | error error => exact recordFailure_leaves _ _
  | ok response =>
      refine (leaves_attempt (store_leaves response)).bind (fun stored => ?_)
        fun _ => rfl
      cases stored with
      | ok => exact leaves_pure _
      | error error => exact recordFailure_leaves _ _

/-- The round of an item is about its source file. -/
theorem parsePlanned_leaves (item : PlannedDocument) :
    (parser.parsePlanned snapshotId snapshot mode resume item).Leaves
      (Protocol.only (Concerns item.sourceSha256)) () := by
  refine Follows.bind (follows_fromExcept_is _) ?_ fun _ _ _ => rfl
  rintro document ⟨⟩ ⟨looked, -⟩
  have same : document.sha256 = item.sourceSha256 := by
    cases found : snapshot.documents.find? (·.sha256 = item.sourceSha256) with
    | none =>
        rw [found] at looked
        cases looked
    | some other =>
        rw [found] at looked
        obtain rfl := Except.ok.inj looked
        simpa using List.find?_some found
  rw [← same]
  refine (leaves_fromExcept _).bind (fun identity => ?_) fun _ => rfl
  refine (leaves_await_only trivial).bind (fun _ => ?_) fun _ => rfl
  have parses : (parser.parseDocument snapshotId snapshot document mode
      resume).Leaves (Protocol.only (Concerns document.sha256)) () := by
    unfold CorpusParser.parseDocument
    refine Leaves.bind (leaves_await_only (Eq.refl document.sha256))
      (fun existing => ?_) (fun _ => Eq.refl ())
    refine (leaves_fromExcept _).bind (fun usable => ?_) fun _ => rfl
    split_ifs
    · exact leaves_pure _
    · exact attempt_leaves.only_weaken fun _ => Attempting.concerns
  refine Follows.finalizing parses fun outcome _ _ => ?_
  refine (leaves_await_only trivial).weaken fun result _ _ => ?_
  cases result <;> rfl

end Rounds

/-! ## How a round ends -/

/-- The end of the round of a document, after `found` was read under the lock.
-/
inductive Rounded (parser : CorpusParser) (snapshotId : String)
    (mode : ParseMode) (resume : Bool) (document : DocumentRecord)
    (found : Option ParseCheckpoint) (finish : CorpusWorld) :
    ParseRound → Prop where
  | cached {checkpoint : ParseCheckpoint} (resumed : resume = true)
      (read : found = some checkpoint)
      (intact : checkpoint.cacheIntegrityOk parser.platform = .ok true)
      (held : finish.repository.get (parser.key snapshotId mode document) =
        some checkpoint) :
      Rounded parser snapshotId mode resume document found finish .cached
  | succeeded {checkpoint : ParseCheckpoint}
      (unusable : parser.usable resume found = .ok false)
      (held : finish.repository.get (parser.key snapshotId mode document) =
        some checkpoint)
      (passes : parser.Passes document checkpoint) :
      Rounded parser snapshotId mode resume document found finish .succeeded
  | failed {failure : ParseFailure}
      (unusable : parser.usable resume found = .ok false)
      (named : failure.documentId = document.documentId) :
      Rounded parser snapshotId mode resume document found finish
        (.failed failure)

section Outcomes

variable {parser : CorpusParser} {snapshotId : String}
  {snapshot : CorpusSnapshot} {document : DocumentRecord} {mode : ParseMode}
  {resume : Bool} {others : ParseRepository → ParseRepository → Prop}
  {parses : ParseRequest → GatewayHistory →
    Except PyException ParsedDocument → Prop}
  {start finish : CorpusWorld} {events : List CorpusEvent}

theorem recordFailure_round {σ : Type}
    {perform : σ → (op : CorpusOp) → Except PyException (CorpusReply op) →
      σ → Prop} {first last : σ} {response : Option ParsedDocument}
    {error : PyException} {round : ParseRound}
    (executed : (parser.recordFailure snapshotId document mode response
      error).Executes perform first events (.ok round) last) :
    ∃ failure, round = .failed failure ∧
      failure.documentId = document.documentId := by
  unfold CorpusParser.recordFailure at executed
  split_ifs at executed
  · rcases executes_await_bind.mp executed with ⟨_, _, same, _⟩ |
      ⟨latency, _, _, _, building, _⟩
    · cases same
    rcases executes_fromExcept_bind.mp building with ⟨_, _, same, _⟩ |
      ⟨checkpoint, _, saving⟩
    · cases same
    rcases executes_await_bind.mp saving with ⟨_, _, same, _⟩ |
      ⟨_, _, _, _, returned, _⟩
    · cases same
    obtain ⟨_, same, _⟩ := executes_pure.mp returned
    obtain rfl := Except.ok.inj same
    exact ⟨_, rfl, rfl⟩
  · obtain ⟨_, same, _⟩ := executes_throw.mp executed
    cases same

/-- A response of an attempt is one of the gateway. -/
theorem requestParse_response {response : ParsedDocument}
    (executed : (parser.requestParse document mode).Executes
      (CorpusWorld.Interfered others parses) start events (.ok response)
      finish) :
    ∃ request history, parses request history (.ok response) := by
  rcases executes_bind.mp executed with ⟨_, _, same⟩ |
    ⟨_, content, _, _, _, parsing, _⟩
  · cases same
  obtain ⟨⟨repository, _, performed⟩, _⟩ := executes_await.mp parsing
  cases performed with
  | parse called => exact ⟨_, _, called⟩
  | reply value external => cases external

/-- What a stored response leaves in the repository. -/
theorem store_normalized {response : ParsedDocument}
    (named : snapshot.snapshotId = snapshotId)
    (executed : (parser.store snapshot document mode response).Executes
      (CorpusWorld.Interfered others parses) start events (.ok ()) finish) :
    ∃ checkpoint latencyMs,
      parser.normalize snapshot document mode response latencyMs =
        .ok checkpoint ∧
      finish.repository.get (parser.key snapshotId mode document) =
        some checkpoint := by
  rcases executes_await_bind.mp executed with ⟨_, _, same, _⟩ |
    ⟨latencyMs, _, _, _, building, _⟩
  · cases same
  rcases executes_fromExcept_bind.mp building with ⟨_, _, same, _⟩ |
    ⟨checkpoint, built, saving⟩
  · cases same
  obtain ⟨⟨repository, _, performed⟩, _⟩ := executes_await.mp saving
  refine ⟨checkpoint, latencyMs, built, ?_⟩
  cases performed with
  | put =>
      rw [ParseRepository.get_put, if_pos]
      rw [(normalize_ok built).key, named]
      rfl
  | reply value external => cases external

variable {floats : FloatText}

/-- What is stored for a response passes the test of a cache hit. -/
theorem store_held {response : ParsedDocument}
    (hashes : parser.platform.HashesCanonically floats)
    (digests : ∀ bytes, parser.platform.sha256Hex bytes ≠ "")
    (unique : (Json.object response.rawResponse).UniqueKeys)
    (named : snapshot.snapshotId = snapshotId)
    (executed : (parser.store snapshot document mode response).Executes
      (CorpusWorld.Interfered others parses) start events (.ok ()) finish) :
    ∃ checkpoint, finish.repository.get
        (parser.key snapshotId mode document) = some checkpoint ∧
      parser.Passes document checkpoint := by
  obtain ⟨checkpoint, latencyMs, normalized, held⟩ :=
    store_normalized named executed
  obtain ⟨intact, matching⟩ :=
    (normalize_ok normalized).passes hashes digests unique
  exact ⟨checkpoint, held, intact, matching⟩

theorem attempt_outcome {round : ParseRound}
    (hashes : parser.platform.HashesCanonically floats)
    (digests : ∀ bytes, parser.platform.sha256Hex bytes ≠ "")
    (unique : ∀ request history response,
      parses request history (.ok response) →
        (Json.object response.rawResponse).UniqueKeys)
    (named : snapshot.snapshotId = snapshotId)
    (executed : (parser.attempt snapshotId snapshot document mode).Executes
      (CorpusWorld.Interfered others parses) start events (.ok round)
      finish) :
    (round = .succeeded ∧ ∃ checkpoint, finish.repository.get
        (parser.key snapshotId mode document) = some checkpoint ∧
      parser.Passes document checkpoint) ∨
    ∃ failure, round = .failed failure ∧
      failure.documentId = document.documentId := by
  rcases executes_bind.mp executed with ⟨_, _, same⟩ |
    ⟨_, outcome, _, _, trying, continuing, _⟩
  · cases same
  obtain ⟨_, requesting, same⟩ := executes_attempt.mp trying
  obtain rfl := Except.ok.inj same
  cases outcome with
  | error error => exact .inr (recordFailure_round continuing)
  | ok response =>
      obtain ⟨request, history, called⟩ := requestParse_response requesting
      rcases executes_bind.mp continuing with ⟨_, _, same⟩ |
        ⟨_, stored, _, _, saving, ending, _⟩
      · cases same
      obtain ⟨_, storing, same⟩ := executes_attempt.mp saving
      obtain rfl := Except.ok.inj same
      cases stored with
      | ok =>
          obtain ⟨_, same, rfl⟩ := executes_pure.mp ending
          exact .inl ⟨Except.ok.inj same, store_held hashes digests
            (unique request history response called) named storing⟩
      | error error => exact .inr (recordFailure_round ending)

/-- The round of a document reads its checkpoint once. -/
theorem parseDocument_rounded {round : ParseRound}
    (hashes : parser.platform.HashesCanonically floats)
    (digests : ∀ bytes, parser.platform.sha256Hex bytes ≠ "")
    (unique : ∀ request history response,
      parses request history (.ok response) →
        (Json.object response.rawResponse).UniqueKeys)
    (named : snapshot.snapshotId = snapshotId)
    (keeps : KeepsIntact parser.platform snapshotId others)
    (executed : (parser.parseDocument snapshotId snapshot document mode
      resume).Executes (CorpusWorld.Interfered others parses) start events
      (.ok round) finish) :
    ∃ found later, events =
        ⟨.get (parser.key snapshotId mode document), .ok found⟩ :: later ∧
      (∀ event ∈ later, Attempting document.sha256 event.op) ∧
      (∀ checkpoint, checkpoint.cacheIntegrityOk parser.platform = .ok true →
        start.repository.get (parser.key snapshotId mode document) =
          some checkpoint → found = some checkpoint) ∧
      Rounded parser snapshotId mode resume document found finish round := by
  rcases executes_await_bind.mp executed with ⟨_, _, same, _⟩ |
    ⟨found, middle, later, reading, checking, rfl⟩
  · cases same
  have stays : ∀ checkpoint, checkpoint.cacheIntegrityOk parser.platform =
      .ok true → start.repository.get (parser.key snapshotId mode document) =
        some checkpoint → found = some checkpoint :=
    fun _ intact held => reading.reads keeps rfl intact held
  rcases executes_fromExcept_bind.mp checking with ⟨_, _, same, _⟩ |
    ⟨usable, checked, going⟩
  · cases same
  cases usable with
  | true =>
      obtain ⟨rfl, same, rfl⟩ := executes_pure.mp going
      obtain rfl := Except.ok.inj same
      obtain ⟨resumed, checkpoint, rfl, intact⟩ :=
        CorpusParser.usable_eq_true.mp checked
      exact ⟨_, [], rfl, List.forall_mem_nil _, stays,
        .cached resumed rfl intact reading.reply⟩
  | false =>
      refine ⟨found, later, rfl, Executes.allowed going attempt_leaves, stays,
        ?_⟩
      rcases attempt_outcome hashes digests unique named going with
        ⟨rfl, checkpoint, held, passes⟩ | ⟨failure, rfl, same⟩
      · exact .succeeded checked held passes
      · exact .failed checked same

theorem Rounded.widen {document : DocumentRecord}
    {found : Option ParseCheckpoint} {round : ParseRound} {later : CorpusWorld}
    (rounded : Rounded parser snapshotId mode resume document found finish
      round)
    (kept : ∀ checkpoint, checkpoint.cacheIntegrityOk parser.platform =
        .ok true →
      finish.repository.get (parser.key snapshotId mode document) =
        some checkpoint →
      later.repository.get (parser.key snapshotId mode document) =
        some checkpoint) :
    Rounded parser snapshotId mode resume document found later round := by
  cases rounded with
  | cached resumed read intact held =>
      exact .cached resumed read intact (kept _ intact held)
  | succeeded unusable held passes =>
      exact .succeeded unusable (kept _ passes.intact held) passes
  | failed unusable named => exact .failed unusable named

theorem parsePlanned_rounded {round : ParseRound} {item : PlannedDocument}
    (hashes : parser.platform.HashesCanonically floats)
    (digests : ∀ bytes, parser.platform.sha256Hex bytes ≠ "")
    (unique : ∀ request history response,
      parses request history (.ok response) →
        (Json.object response.rawResponse).UniqueKeys)
    (named : snapshot.snapshotId = snapshotId)
    (keeps : KeepsIntact parser.platform snapshotId others)
    (executed : (parser.parsePlanned snapshotId snapshot mode resume
      item).Executes (CorpusWorld.Interfered others parses) start events
      (.ok round) finish) :
    ∃ document found,
      snapshot.documents.find? (·.sha256 = item.sourceSha256) =
        some document ∧
      (∀ outcome, ⟨.get (parser.key snapshotId mode document), outcome⟩ ∈
        events → outcome = .ok found) ∧
      ⟨.get (parser.key snapshotId mode document), .ok found⟩ ∈ events ∧
      (∀ checkpoint, checkpoint.cacheIntegrityOk parser.platform = .ok true →
        start.repository.get (parser.key snapshotId mode document) =
          some checkpoint → found = some checkpoint) ∧
      Rounded parser snapshotId mode resume document found finish round := by
  rcases executes_fromExcept_bind.mp executed with ⟨_, _, same, _⟩ |
    ⟨document, looked, continuing⟩
  · cases same
  rcases executes_fromExcept_bind.mp continuing with ⟨_, _, same, _⟩ |
    ⟨identity, _, entering⟩
  · cases same
  rcases executes_await_bind.mp entering with ⟨_, _, same, _⟩ |
    ⟨_, middle, _, entered, running, rfl⟩
  · cases same
  obtain ⟨early, outcome, last, late, closed, parsing, exiting, same, rfl⟩ :=
    executes_finalizing.mp running
  obtain ⟨exited, rfl⟩ := executes_await.mp exiting
  cases closed with
  | error error => cases same
  | ok =>
      obtain rfl := same
      obtain ⟨found, later, rfl, attempting, stays, rounded⟩ :=
        parseDocument_rounded hashes digests unique named keeps parsing
      have quiet : ∀ {op : CorpusOp}, (∀ stored, op ≠ .put stored) →
          ∀ stored, op = .put stored →
            stored.key ≠ parser.key snapshotId mode document :=
        fun different stored same => absurd same (different stored)
      refine ⟨document, found, ?_, ?_, by simp, ?_, rounded.widen ?_⟩
      · split at looked
        · next other listed =>
            rw [listed, Except.ok.inj looked]
        · cases looked
      · intro other member
        simp only [List.cons_append, List.mem_cons, List.mem_append,
          List.not_mem_nil, or_false] at member
        rcases member with same | same | listed | same
        · cases same
        · cases same
          rfl
        · cases attempting _ listed
        · cases same
      · intro checkpoint intact held
        exact stays checkpoint intact (entered.keeps keeps rfl
          (quiet fun _ => by simp) intact held)
      · intro checkpoint intact held
        exact exited.keeps keeps rfl (quiet fun _ => by simp) intact held

/-- The loop is about the files of the entries without a cache hit. -/
theorem parseDocuments_concerns {σ : Type}
    {perform : σ → (op : CorpusOp) → Except PyException (CorpusReply op) →
      σ → Prop} {first last : σ} {items : List PlannedDocument}
    {tally : ParseTally} {result : Except PyException ParseTally}
    (executed : (parser.parseDocuments snapshotId snapshot mode resume items
      tally).Executes perform first events result last) :
    ∀ event ∈ events, ∃ item ∈ items, item.cacheHit = false ∧
      Concerns item.sourceSha256 event.op := by
  induction items generalizing first events tally with
  | nil =>
      obtain ⟨rfl, _, _⟩ := executes_pure.mp executed
      exact List.forall_mem_nil _
  | cons item items induction =>
      have later : ∀ {event : CorpusEvent}, (∃ item ∈ items,
          item.cacheHit = false ∧ Concerns item.sourceSha256 event.op) →
          ∃ other ∈ item :: items, other.cacheHit = false ∧
            Concerns other.sourceSha256 event.op := by
        rintro event ⟨other, member, missed, concerns⟩
        exact ⟨other, List.mem_cons_of_mem _ member, missed, concerns⟩
      rw [CorpusParser.parseDocuments] at executed
      split_ifs at executed with cached
      · exact fun event member => later (induction executed event member)
      have missed : item.cacheHit = false := by simpa using cached
      have here := fun {early : List CorpusEvent} {outcome} {middle : σ}
          (planned : (parser.parsePlanned snapshotId snapshot mode resume
            item).Executes perform first early outcome middle) =>
        planned.allowed (parsePlanned_leaves item)
      rcases executes_bind.mp executed with ⟨_, planned, _⟩ |
        ⟨early, round, middle, rest, planned, continuing, rfl⟩
      · exact fun event member => ⟨item, List.mem_cons_self, missed,
          here planned event member⟩
      · refine List.forall_mem_append.mpr ⟨fun event member =>
          ⟨item, List.mem_cons_self, missed, here planned event member⟩,
          fun event member => later (induction continuing event member)⟩

/-- The parts of a run after its plan. -/
theorem parseCorpus_executes {σ : Type}
    {perform : σ → (op : CorpusOp) → Except PyException (CorpusReply op) →
      σ → Prop} {first last : σ} {modeName : String}
    {result : Except PyException ParseSummary}
    (executed : (parser.parseCorpus snapshotId modeName resume).Executes
      perform first events result last) :
    (∃ error, (parser.plan snapshotId modeName resume).Executes perform first
      events (.error error) last ∧ result = .error error) ∨
    ∃ plan second early outcome loop,
      (parser.plan snapshotId modeName resume).Executes perform first early
        (.ok plan) second ∧
      events = early ++ ⟨.now, outcome⟩ :: loop ∧
      ((loop = [] ∧ ∃ error, result = .error error) ∨
        ∃ third known tally, perform second .now outcome third ∧
          parser.snapshot snapshotId = .ok known ∧
          (parser.parseDocuments snapshotId known plan.mode resume
            plan.documents
            { dynamicCacheHits := (plan.documents.filter (·.cacheHit)).length
              dynamicCachedPages := ((plan.documents.filter
                (·.cacheHit)).map (·.pages)).sum }).Executes perform third
            loop tally last ∧
          result = tally.map (CorpusParser.summarize plan)) := by
  rcases executes_bind.mp executed with ⟨error, planning, rfl⟩ |
    ⟨early, plan, second, _, planning, checking, rfl⟩
  · exact .inl ⟨error, planning, rfl⟩
  refine .inr ?_
  rcases executes_await_bind.mp checking with ⟨error, _, rfl, rfl⟩ |
    ⟨now, third, loop, read, verifying, rfl⟩
  · exact ⟨plan, second, early, _, [], planning, rfl,
      .inl ⟨rfl, error, rfl⟩⟩
  refine ⟨plan, second, early, _, loop, planning, rfl, ?_⟩
  rcases executes_fromExcept_bind.mp verifying with ⟨error, _, rfl, rfl, _⟩ |
    ⟨_, _, authorizing⟩
  · exact .inl ⟨rfl, error, rfl⟩
  rcases executes_fromExcept_bind.mp authorizing with
    ⟨error, _, rfl, rfl, _⟩ | ⟨_, _, looking⟩
  · exact .inl ⟨rfl, error, rfl⟩
  rcases executes_fromExcept_bind.mp looking with ⟨error, _, rfl, rfl, _⟩ |
    ⟨known, found, looping⟩
  · exact .inl ⟨rfl, error, rfl⟩
  refine .inr ⟨third, known, ?_⟩
  rcases executes_bind.mp looping with ⟨error, parsing, rfl⟩ |
    ⟨_, tally, _, _, parsing, ending, rfl⟩
  · exact ⟨.error error, read, found, parsing, rfl⟩
  · obtain ⟨rfl, rfl, rfl⟩ := executes_pure.mp ending
    rw [List.append_nil]
    exact ⟨.ok tally, read, found, parsing, rfl⟩

/-- A plan that is authorized, and the loop over its documents. -/
theorem parseCorpus_runs {σ : Type}
    {perform : σ → (op : CorpusOp) → Except PyException (CorpusReply op) →
      σ → Prop} {first second third last : σ} {modeName : String}
    {plan : ParsePlan} {tally : ParseTally} {now : Timestamp}
    {early loop : List CorpusEvent}
    (planning : (parser.plan snapshotId modeName resume).Executes perform
      first early (.ok plan) second)
    (read : perform second .now (.ok now) third)
    (verified : parser.priceBook.verifyPaidBatch parser.verifiedAt now =
      .ok ())
    (confirmed : parser.confirmedPlanHash = some plan.planHash)
    (affordable : 0 < plan.postRunRemainingBudgetUsd)
    (known : parser.snapshot snapshotId = .ok snapshot)
    (looping : (parser.parseDocuments snapshotId snapshot plan.mode resume
      plan.documents
      { dynamicCacheHits := (plan.documents.filter (·.cacheHit)).length
        dynamicCachedPages := ((plan.documents.filter
          (·.cacheHit)).map (·.pages)).sum }).Executes perform third loop
      (.ok tally) last) :
    (parser.parseCorpus snapshotId modeName resume).Executes perform first
      (early ++ ⟨.now, .ok now⟩ :: loop)
      (.ok (CorpusParser.summarize plan tally)) last := by
  have authorized : parser.authorize plan = .ok () := by
    unfold CorpusParser.authorize
    rw [if_neg (not_not.mpr confirmed), if_neg (not_le.mpr affordable)]
  refine executes_bind.mpr (.inr ⟨early, plan, second, _, planning, ?_, rfl⟩)
  refine executes_await_bind.mpr (.inr ⟨now, third, loop, read, ?_, rfl⟩)
  refine executes_fromExcept_bind.mpr (.inr ⟨(), verified, ?_⟩)
  refine executes_fromExcept_bind.mpr (.inr ⟨(), authorized, ?_⟩)
  refine executes_fromExcept_bind.mpr (.inr ⟨snapshot, known, ?_⟩)
  exact executes_bind.mpr (.inr ⟨loop, tally, last, [], looping,
    executes_pure.mpr ⟨rfl, rfl, rfl⟩, (List.append_nil _).symm⟩)

end Outcomes

end RagBench
