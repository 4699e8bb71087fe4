import RagBench.Ingestion.ParseCorpus

/-!
# Traces of a corpus run

The repository changes only where a checkpoint is put.  What a run does about
one document is the trace of at most one attempt, and that trace has one of
six shapes.
-/

namespace RagBench

open Program

abbrev CorpusEvent := Awaited CorpusOp CorpusReply PyException

abbrev GatewayHistory := List (Awaited GatewayOp GatewayReply PyException)

/-- The repository, and the calls of the gateway with their histories. -/
structure CorpusWorld where
  repository : ParseRepository
  calls : List (ParseRequest × GatewayHistory) := []

namespace CorpusOp

/-- Operations that change nothing here and answer anything. -/
def External : CorpusOp → Prop
  | .get _ | .put _ | .parse _ => False
  | _ => True

/-- Reading a clock does not raise. -/
def CanRaise : CorpusOp → Prop
  | .parse _ | .now | .elapsedMs => False
  | _ => True

end CorpusOp

/-- The outcomes an operation can have, and what it does.  `parses` says how a
gateway call can go. -/
inductive CorpusWorld.Performs
    (parses : ParseRequest → GatewayHistory →
      Except PyException ParsedDocument → Prop) (before : CorpusWorld) :
    (op : CorpusOp) → Except PyException (CorpusReply op) → CorpusWorld →
      Prop where
  | get {key : CheckpointKey} :
      Performs parses before (.get key) (.ok (before.repository.get key))
        before
  | put {checkpoint : ParseCheckpoint} :
      Performs parses before (.put checkpoint) (.ok ())
        { before with repository := before.repository.put checkpoint }
  | parse {request : ParseRequest} {history : GatewayHistory}
      {outcome : Except PyException ParsedDocument}
      (called : parses request history outcome) :
      Performs parses before (.parse request) outcome
        { before with calls := before.calls ++ [(request, history)] }
  | reply {op : CorpusOp} (value : CorpusReply op) (external : op.External) :
      Performs parses before op (.ok value) before
  | raise {op : CorpusOp} (error : PyException) (can : op.CanRaise) :
      Performs parses before op (.error error) before

/-- The checkpoint an event stores. -/
def stored (event : CorpusEvent) : Option ParseCheckpoint :=
  match event with
  | ⟨.put checkpoint, .ok ()⟩ => some checkpoint
  | _ => none

variable {parses : ParseRequest → GatewayHistory →
    Except PyException ParsedDocument → Prop}
  {start finish : CorpusWorld} {events : List CorpusEvent}

/-- The repository at the end is told by the trace. -/
theorem repository_of_trace {α : Type} {program : CorpusM α}
    {result : Except PyException α}
    (executed : program.Executes (CorpusWorld.Performs parses) start events
      result finish) :
    finish.repository =
      (events.filterMap stored).foldl ParseRepository.put
        start.repository := by
  induction executed with
  | ret => rfl
  | raise => rfl
  | @call op outcome next state middle finish events result performed _
      induction =>
      rw [induction]
      cases performed with
      | get => rfl
      | put => rfl
      | parse => rfl
      | reply value external => cases op <;> first | rfl | cases external
      | raise error can => cases op <;> rfl

/-- What an event is about: the source file, the request or the checkpoint of
a document. -/
def about (sha256 : String) (event : CorpusEvent) : Bool :=
  match event.op with
  | .readSource document => document.sha256 = sha256
  | .parse request => request.documentSha256 = sha256
  | .put checkpoint => checkpoint.sourceSha256 = sha256
  | _ => false

/-- Events about some document. -/
def concerning (event : CorpusEvent) : Bool :=
  match event.op with
  | .readSource _ | .parse _ | .put _ => true
  | _ => false

/-- An event which keeps the evidence of a response. -/
def KeepsEvidence (document : DocumentRecord) (response : ParsedDocument)
    (event : CorpusEvent) : Prop :=
  ∃ checkpoint outcome, event = ⟨.put checkpoint, outcome⟩ ∧
    checkpoint.sourceSha256 = document.sha256 ∧
    checkpoint.rawResponse = some response.rawResponse

/-- The trace of an attempt on a document: the source, the request and the
checkpoints. -/
inductive AttemptTrace (parser : CorpusParser) (snapshotId : String)
    (mode : ParseMode) (document : DocumentRecord) :
    List CorpusEvent → Prop where
  | sourceCancelled {error : PyException}
      (uncaught : error.isInstance .exception = false) :
      AttemptTrace parser snapshotId mode document
        [⟨.readSource document, .error error⟩]
  | sourceFailed {error : PyException} {latency : ℕ}
      {outcome : Except PyException Unit}
      (caught : error.isInstance .exception = true) :
      AttemptTrace parser snapshotId mode document
        [⟨.readSource document, .error error⟩,
          ⟨.put (parser.unpaidCheckpoint snapshotId document mode error
            latency), outcome⟩]
  | sourceChanged {payload : Bytes} {error : PyException} {latency : ℕ}
      {outcome : Except PyException Unit} :
      AttemptTrace parser snapshotId mode document
        [⟨.readSource document, .ok payload⟩,
          ⟨.put (parser.unpaidCheckpoint snapshotId document mode error
            latency), outcome⟩]
  | parseCancelled {payload : Bytes} {error : PyException}
      (uncaught : error.isInstance .exception = false) :
      AttemptTrace parser snapshotId mode document
        [⟨.readSource document, .ok payload⟩,
          ⟨.parse (parser.parseRequest document mode payload),
            .error error⟩]
  | parseFailed {payload : Bytes} {error : PyException} {latency : ℕ}
      {outcome : Except PyException Unit}
      (caught : error.isInstance .exception = true) :
      AttemptTrace parser snapshotId mode document
        [⟨.readSource document, .ok payload⟩,
          ⟨.parse (parser.parseRequest document mode payload),
            .error error⟩,
          ⟨.put (parser.unpaidCheckpoint snapshotId document mode error
            latency), outcome⟩]
  | answered {payload : Bytes} {response : ParsedDocument}
      {puts : List CorpusEvent}
      (evidence : ∀ event ∈ puts, KeepsEvidence document response event) :
      AttemptTrace parser snapshotId mode document
        (⟨.readSource document, .ok payload⟩ ::
          ⟨.parse (parser.parseRequest document mode payload),
            .ok response⟩ :: puts)

/-! ## One attempt -/

variable {parser : CorpusParser} {snapshotId : String}
  {snapshot : CorpusSnapshot} {document : DocumentRecord} {mode : ParseMode}
  {resume : Bool}

private theorem unpaid_trace {error : PyException}
    {result : Except PyException ParseRound}
    (executed : (parser.recordFailure snapshotId document mode none
      error).Executes (CorpusWorld.Performs parses) start events result
      finish) :
    (error.isInstance .exception = false ∧ events = []) ∨
      (error.isInstance .exception = true ∧ ∃ latency outcome,
        events.filter concerning =
          [⟨.put (parser.unpaidCheckpoint snapshotId document mode error
            latency), outcome⟩]) := by
  unfold CorpusParser.recordFailure at executed
  split_ifs at executed with caught
  · refine .inr ⟨caught, ?_⟩
    rcases executes_await_bind.mp executed with ⟨_, performed, -, -⟩ |
      ⟨latency, middle, later, -, saving, rfl⟩
    · cases performed with
      | raise _ can => cases can
    rcases executes_fromExcept_bind.mp saving with ⟨_, same, -⟩ |
      ⟨checkpoint, same, saving⟩
    · cases same
    cases same
    rcases executes_await_bind.mp saving with ⟨failure, -, -, rfl⟩ |
      ⟨value, _, _, -, returned, rfl⟩
    · exact ⟨latency, .error failure, rfl⟩
    · obtain ⟨rfl, -, -⟩ := executes_pure.mp returned
      exact ⟨latency, .ok value, rfl⟩
  · obtain ⟨rfl, -, -⟩ := executes_throw.mp executed
    exact .inl ⟨by simpa using caught, rfl⟩

private theorem paidCheckpoint_spec {response : ParsedDocument}
    {error : PyException} {latency : ℕ} {checkpoint : ParseCheckpoint}
    (built : parser.paidCheckpoint snapshotId document mode response error
      latency = .ok checkpoint) :
    checkpoint.sourceSha256 = document.sha256 ∧
      checkpoint.rawResponse = some response.rawResponse := by
  obtain ⟨hash, _, built⟩ := bind_eq_ok.mp built
  obtain ⟨mappings, _, built⟩ := bind_eq_ok.mp built
  obtain ⟨cost, _, built⟩ := bind_eq_ok.mp built
  cases built
  exact ⟨rfl, rfl⟩

private theorem normalize_spec {response : ParsedDocument} {latency : ℕ}
    {checkpoint : ParseCheckpoint}
    (built : parser.normalize snapshot document mode response latency =
      .ok checkpoint) :
    checkpoint.sourceSha256 = document.sha256 ∧
      checkpoint.rawResponse = some response.rawResponse := by
  unfold CorpusParser.normalize at built
  dsimp only at built
  split_ifs at built
  · cases built
  · obtain ⟨elements, _, built⟩ := bind_eq_ok.mp built
    obtain ⟨counted, _, built⟩ := bind_eq_ok.mp built
    split_ifs at built
    · cases built
    · obtain ⟨mappings, _, built⟩ := bind_eq_ok.mp built
      obtain ⟨cost, _, built⟩ := bind_eq_ok.mp built
      obtain ⟨hash, _, built⟩ := bind_eq_ok.mp built
      cases built
      exact ⟨rfl, rfl⟩

private theorem paid_trace {response : ParsedDocument} {error : PyException}
    {result : Except PyException ParseRound}
    (executed : (parser.recordFailure snapshotId document mode (some response)
      error).Executes (CorpusWorld.Performs parses) start events result
      finish) :
    ∀ event ∈ events.filter concerning,
      KeepsEvidence document response event := by
  unfold CorpusParser.recordFailure at executed
  split_ifs at executed
  · rcases executes_await_bind.mp executed with ⟨_, _, _, rfl⟩ |
      ⟨latency, middle, later, _, saving, rfl⟩
    · exact List.forall_mem_nil _
    rcases executes_fromExcept_bind.mp saving with ⟨_, _, _, rfl, _⟩ |
      ⟨checkpoint, built, saving⟩
    · exact List.forall_mem_nil _
    have evidence := paidCheckpoint_spec built
    rcases executes_await_bind.mp saving with ⟨failure, _, _, rfl⟩ |
      ⟨value, _, _, _, returned, rfl⟩
    · exact List.forall_mem_singleton.mpr
        ⟨checkpoint, .error failure, rfl, evidence⟩
    · obtain ⟨rfl, _, _⟩ := executes_pure.mp returned
      exact List.forall_mem_singleton.mpr
        ⟨checkpoint, .ok value, rfl, evidence⟩
  · obtain ⟨rfl, _, _⟩ := executes_throw.mp executed
    exact List.forall_mem_nil _

private theorem store_trace {response : ParsedDocument}
    {result : Except PyException Unit}
    (executed : (parser.store snapshot document mode response).Executes
      (CorpusWorld.Performs parses) start events result finish) :
    ∀ event ∈ events.filter concerning,
      KeepsEvidence document response event := by
  unfold CorpusParser.store at executed
  rcases executes_await_bind.mp executed with ⟨_, _, _, rfl⟩ |
    ⟨latency, middle, later, _, saving, rfl⟩
  · exact List.forall_mem_nil _
  rcases executes_fromExcept_bind.mp saving with ⟨_, _, _, rfl, _⟩ |
    ⟨checkpoint, built, saving⟩
  · exact List.forall_mem_nil _
  obtain ⟨_, rfl⟩ := executes_await.mp saving
  exact List.forall_mem_singleton.mpr
    ⟨checkpoint, result, rfl, normalize_spec built⟩

/-- The source is read, and has the hash of the manifest or not. -/
private theorem readVerifiedSource_trace {result : Except PyException Bytes}
    (executed : (parser.readVerifiedSource document).Executes
      (CorpusWorld.Performs parses) start events result finish) :
    ∃ outcome, events = [⟨.readSource document, outcome⟩] ∧
      ((∃ error, outcome = .error error ∧ result = .error error) ∨
        ∃ payload, outcome = .ok payload ∧ (result = .ok payload ∨
          ∃ error, error.isInstance .exception = true ∧
            result = .error error)) := by
  unfold CorpusParser.readVerifiedSource at executed
  rcases executes_await_bind.mp executed with ⟨error, _, same, rfl⟩ |
    ⟨payload, middle, later, _, checking, rfl⟩
  · exact ⟨.error error, rfl, .inl ⟨error, rfl, same⟩⟩
  split_ifs at checking
  · obtain ⟨rfl, same, _⟩ := executes_throw.mp checking
    exact ⟨.ok payload, rfl, .inr ⟨payload, rfl, .inr ⟨_, rfl, same⟩⟩⟩
  · obtain ⟨rfl, same, _⟩ := executes_pure.mp checking
    exact ⟨.ok payload, rfl, .inr ⟨payload, rfl, .inl same⟩⟩

/-- What the request of a document can look like, and what comes of it. -/
private theorem requestParse_trace {result : Except PyException ParsedDocument}
    (executed : (parser.requestParse document mode).Executes
      (CorpusWorld.Performs parses) start events result finish) :
    (∃ error, result = .error error ∧
      events = [⟨.readSource document, .error error⟩]) ∨
    (∃ payload error, result = .error error ∧
      error.isInstance .exception = true ∧
      events = [⟨.readSource document, .ok payload⟩]) ∨
    ∃ payload, events = [⟨.readSource document, .ok payload⟩,
      ⟨.parse (parser.parseRequest document mode payload), result⟩] := by
  unfold CorpusParser.requestParse at executed
  rcases executes_bind.mp executed with ⟨error, reading, rfl⟩ |
    ⟨early, content, middle, later, reading, parsing, rfl⟩
  · obtain ⟨outcome, rfl, ⟨_, rfl, same⟩ | ⟨payload, rfl, same | rest⟩⟩ :=
      readVerifiedSource_trace reading
    · cases same
      exact .inl ⟨error, rfl, rfl⟩
    · cases same
    · obtain ⟨_, caught, same⟩ := rest
      cases same
      exact .inr (.inl ⟨payload, error, rfl, caught, rfl⟩)
  · obtain ⟨_, rfl⟩ := executes_await.mp parsing
    obtain ⟨outcome, rfl, ⟨_, rfl, same⟩ | ⟨payload, rfl, same | rest⟩⟩ :=
      readVerifiedSource_trace reading
    · cases same
    · cases same
      exact .inr (.inr ⟨content, rfl⟩)
    · obtain ⟨_, _, same⟩ := rest
      cases same

/-- The trace of an attempt has one of the six shapes. -/
theorem attempt_trace {result : Except PyException ParseRound}
    (executed : (parser.attempt snapshotId snapshot document mode).Executes
      (CorpusWorld.Performs parses) start events result finish) :
    AttemptTrace parser snapshotId mode document
      (events.filter concerning) := by
  unfold CorpusParser.attempt at executed
  rcases executes_bind.mp executed with ⟨_, trying, _⟩ |
    ⟨early, outcome, middle, later, trying, continuing, rfl⟩
  · obtain ⟨_, _, same⟩ := executes_attempt.mp trying
    cases same
  obtain ⟨_, requesting, same⟩ := executes_attempt.mp trying
  cases same
  rw [List.filter_append]
  cases outcome with
  | error error =>
      have recorded := unpaid_trace continuing
      rcases requestParse_trace requesting with ⟨_, same, rfl⟩ |
        ⟨payload, _, same, caught, rfl⟩ | ⟨payload, rfl⟩
      · cases same
        rcases recorded with ⟨uncaught, rfl⟩ | ⟨caught, _, _, puts⟩
        · exact .sourceCancelled uncaught
        · rw [puts]
          exact .sourceFailed caught
      · cases same
        rcases recorded with ⟨uncaught, rfl⟩ | ⟨caught, _, _, puts⟩
        · rw [caught] at uncaught
          cases uncaught
        · rw [puts]
          exact .sourceChanged
      · rcases recorded with ⟨uncaught, rfl⟩ | ⟨caught, _, _, puts⟩
        · exact .parseCancelled uncaught
        · rw [puts]
          exact .parseFailed caught
  | ok response =>
      rcases requestParse_trace requesting with ⟨_, same, _⟩ |
        ⟨_, _, same, _⟩ | ⟨payload, rfl⟩
      · cases same
      · cases same
      refine .answered ?_
      change ∀ event ∈ later.filter concerning, _
      rcases executes_bind.mp continuing with ⟨_, trying, _⟩ |
        ⟨early, stored, middle, late, trying, ending, rfl⟩
      · obtain ⟨_, _, same⟩ := executes_attempt.mp trying
        cases same
      obtain ⟨_, storing, same⟩ := executes_attempt.mp trying
      cases same
      rw [List.filter_append]
      refine List.forall_mem_append.mpr ⟨store_trace storing, ?_⟩
      cases stored with
      | ok value =>
          obtain ⟨rfl, _, _⟩ := executes_pure.mp ending
          exact List.forall_mem_nil _
      | error error => exact paid_trace ending

/-! ## The run -/

/-- No attempt, or one. -/
def RoundTrace (parser : CorpusParser) (snapshotId : String)
    (mode : ParseMode) (document : DocumentRecord)
    (events : List CorpusEvent) : Prop :=
  events = [] ∨ AttemptTrace parser snapshotId mode document events

private theorem parseDocument_trace {result : Except PyException ParseRound}
    (executed : (parser.parseDocument snapshotId snapshot document mode
      resume).Executes (CorpusWorld.Performs parses) start events result
      finish) :
    RoundTrace parser snapshotId mode document
      (events.filter concerning) := by
  unfold CorpusParser.parseDocument at executed
  rcases executes_await_bind.mp executed with ⟨_, _, _, rfl⟩ |
    ⟨existing, middle, later, _, checking, rfl⟩
  · exact .inl rfl
  rcases executes_fromExcept_bind.mp checking with ⟨_, _, _, rfl, _⟩ |
    ⟨usable, _, going⟩
  · exact .inl rfl
  split_ifs at going
  · obtain ⟨rfl, _, _⟩ := executes_pure.mp going
    exact .inl rfl
  · exact .inr (by simpa [concerning] using attempt_trace going)

/-- The round of an item is about one document of the snapshot. -/
private theorem parsePlanned_trace {item : PlannedDocument}
    {result : Except PyException ParseRound}
    (executed : (parser.parsePlanned snapshotId snapshot mode resume
      item).Executes (CorpusWorld.Performs parses) start events result
      finish) :
    events.filter concerning = [] ∨
      ∃ document ∈ snapshot.documents, document.sha256 = item.sourceSha256 ∧
        AttemptTrace parser snapshotId mode document
          (events.filter concerning) := by
  unfold CorpusParser.parsePlanned at executed
  rcases executes_fromExcept_bind.mp executed with ⟨_, _, _, rfl, _⟩ |
    ⟨document, looked, continuing⟩
  · exact .inl rfl
  rcases executes_fromExcept_bind.mp continuing with ⟨_, _, _, rfl, _⟩ |
    ⟨identity, _, entering⟩
  · exact .inl rfl
  rcases executes_await_bind.mp entering with ⟨_, _, _, rfl⟩ |
    ⟨_, middle, later, _, running, rfl⟩
  · exact .inl rfl
  obtain ⟨early, outcome, last, late, closed, parsing, exiting, _, rfl⟩ :=
    executes_finalizing.mp running
  obtain ⟨_, rfl⟩ := executes_await.mp exiting
  have same : (⟨.enterSingleflight identity, .ok ()⟩ ::
      (early ++ [⟨.exitSingleflight identity, closed⟩])).filter concerning =
        early.filter concerning := by
    simp [concerning]
  rw [same]
  cases found : snapshot.documents.find? (·.sha256 = item.sourceSha256) with
  | none =>
      rw [found] at looked
      cases looked
  | some other =>
      rw [found] at looked
      cases looked
      have hash : document.sha256 = item.sourceSha256 := by
        simpa using List.find?_some found
      rcases parseDocument_trace parsing with none | trace
      · exact .inl none
      · exact .inr ⟨document, List.mem_of_find?_eq_some found, hash, trace⟩

private theorem filter_about (sha256 : String) (events : List CorpusEvent) :
    (events.filter concerning).filter (about sha256) =
      events.filter (about sha256) := by
  rw [List.filter_filter]
  refine List.filter_congr fun event _ => ?_
  unfold about concerning
  cases event.op <;> simp

/-- An attempt is about its document and no other. -/
private theorem filter_attempt {trace : List CorpusEvent}
    (attempt : AttemptTrace parser snapshotId mode document trace)
    (sha256 : String) :
    trace.filter (about sha256) =
      if document.sha256 = sha256 then trace else [] := by
  have all : ∀ event ∈ trace,
      about sha256 event = decide (document.sha256 = sha256) := by
    cases attempt with
    | answered evidence =>
        refine List.forall_mem_cons.mpr ⟨rfl, List.forall_mem_cons.mpr
          ⟨rfl, fun event member => ?_⟩⟩
        obtain ⟨checkpoint, outcome, rfl, same, _⟩ := evidence event member
        simp [about, same]
    | _ => simp [about, CorpusParser.parseRequest,
        CorpusParser.unpaidCheckpoint]
  rw [List.filter_congr all]
  split_ifs with same <;> simp [same]

/-- What the round of an item does about a document. -/
private theorem parsePlanned_about {item : PlannedDocument}
    {result : Except PyException ParseRound}
    (member : document ∈ snapshot.documents)
    (executed : (parser.parsePlanned snapshotId snapshot mode resume
      item).Executes (CorpusWorld.Performs parses) start events result
      finish) :
    RoundTrace parser snapshotId mode document
        (events.filter (about document.sha256)) ∧
      (document.sha256 ≠ item.sourceSha256 →
        events.filter (about document.sha256) = []) := by
  rw [← filter_about]
  rcases parsePlanned_trace executed with none | ⟨other, listed, hash, trace⟩
  · rw [none]
    exact ⟨.inl rfl, fun _ => rfl⟩
  · rw [filter_attempt trace]
    by_cases same : other.sha256 = document.sha256
    · obtain rfl : other = document :=
        List.inj_on_of_nodup_map snapshot.unique listed member same
      rw [if_pos rfl]
      exact ⟨.inr trace, fun different => absurd hash different⟩
    · rw [if_neg same]
      exact ⟨.inl rfl, fun _ => rfl⟩

/-- What the loop does about a document is the trace of its round. -/
private theorem parseDocuments_trace {items : List PlannedDocument}
    {tally : ParseTally} {result : Except PyException ParseTally}
    (unique : (items.map (·.sourceSha256)).Nodup)
    (member : document ∈ snapshot.documents)
    (executed : (parser.parseDocuments snapshotId snapshot mode resume items
      tally).Executes (CorpusWorld.Performs parses) start events result
      finish) :
    RoundTrace parser snapshotId mode document
        (events.filter (about document.sha256)) ∧
      (document.sha256 ∉ items.map (·.sourceSha256) →
        events.filter (about document.sha256) = []) := by
  induction items generalizing start events tally with
  | nil =>
      obtain ⟨rfl, _, _⟩ := executes_pure.mp executed
      exact ⟨.inl rfl, fun _ => rfl⟩
  | cons item items induction =>
      obtain ⟨fresh, unique⟩ := List.nodup_cons.mp unique
      rw [CorpusParser.parseDocuments] at executed
      split_ifs at executed
      · obtain ⟨trace, none⟩ := induction unique executed
        exact ⟨trace, fun absent => none fun later =>
          absent (List.mem_cons_of_mem _ later)⟩
      rcases executes_bind.mp executed with ⟨_, planned, _⟩ |
        ⟨early, round, middle, later, planned, continuing, rfl⟩
      · obtain ⟨trace, none⟩ := parsePlanned_about member planned
        exact ⟨trace, fun absent => none fun same =>
          absent (same ▸ List.mem_cons_self)⟩
      obtain ⟨first, firstNone⟩ := parsePlanned_about member planned
      obtain ⟨rest, restNone⟩ := induction unique continuing
      rw [List.filter_append]
      by_cases same : document.sha256 = item.sourceSha256
      · rw [restNone (same ▸ fresh), List.append_nil]
        exact ⟨first, fun absent => absurd List.mem_cons_self
          (same ▸ absent)⟩
      · rw [firstNone same, List.nil_append]
        exact ⟨rest, fun absent => restNone fun later =>
          absent (List.mem_cons_of_mem _ later)⟩

/-- Planning looks at checkpoints and files only. -/
def Planning : CorpusOp → Prop
  | .get _ | .sourceMetadata _ | .settledCostUsd => True
  | _ => False

theorem planDocument_leaves (document : DocumentRecord) :
    (parser.planDocument snapshotId mode resume document).Leaves
      (Protocol.only Planning) () := by
  refine (leaves_await_only trivial).bind (fun checkpoint => ?_) fun _ => rfl
  refine (leaves_fromExcept _).bind (fun intact => ?_) fun _ => rfl
  refine (leaves_await_only trivial).bind (fun metadata => ?_) fun _ => rfl
  exact leaves_pure _

theorem planDocuments_leaves (documents : List DocumentRecord) :
    (parser.planDocuments snapshotId mode resume documents).Leaves
      (Protocol.only Planning) () := by
  induction documents with
  | nil => exact leaves_pure _
  | cons document documents induction =>
      refine (planDocument_leaves document).bind (fun planned => ?_)
        fun _ => rfl
      exact induction.bind (fun others => leaves_pure _) fun _ => rfl

theorem requireStandardParity_leaves
    (documents : List DocumentRecord) :
    (parser.requireStandardParity snapshotId documents).Leaves
      (Protocol.only Planning) () := by
  induction documents with
  | nil => exact leaves_pure _
  | cons document documents induction =>
      refine (leaves_await_only trivial).bind (fun standard => ?_)
        fun _ => rfl
      exact (leaves_fromExcept _).bind (fun _ => induction) fun _ => rfl

theorem requireParity_leaves (snapshot : CorpusSnapshot)
    (selected : ParseMode) :
    (parser.requireParity snapshot selected).Leaves
      (Protocol.only Planning) () := by
  cases selected with
  | standard => exact leaves_pure _
  | enhanced => exact requireStandardParity_leaves _

theorem plan_leaves (modeName : String) :
    (parser.plan snapshotId modeName resume).Leaves
      (Protocol.only Planning) () := by
  refine (leaves_fromExcept _).bind (fun selected => ?_) fun _ => rfl
  refine (leaves_fromExcept _).bind (fun snapshot => ?_) fun _ => rfl
  refine (requireParity_leaves snapshot selected).bind (fun _ => ?_)
    fun _ => rfl
  refine (planDocuments_leaves _).bind (fun planned => ?_) fun _ => rfl
  refine (leaves_await_only trivial).bind (fun settled => ?_) fun _ => rfl
  exact leaves_fromExcept _

private theorem plan_about {modeName : String}
    {result : Except PyException ParsePlan}
    (executed : (parser.plan snapshotId modeName resume).Executes
      (CorpusWorld.Performs parses) start events result finish)
    {sha256 : String} : events.filter (about sha256) = [] := by
  refine List.filter_eq_nil_iff.mpr fun event member => ?_
  have planning := executed.allowed (plan_leaves modeName) event member
  obtain ⟨op, outcome⟩ := event
  cases op with
  | get | sourceMetadata | settledCostUsd => simp [about]
  | _ => cases planning

/-- The documents of a plan are those of the snapshot. -/
private theorem planDocuments_hashes {documents : List DocumentRecord}
    {planned : List (PlannedDocument × Bool)}
    (executed : (parser.planDocuments snapshotId mode resume
      documents).Executes (CorpusWorld.Performs parses) start events
      (.ok planned) finish) :
    planned.map (·.1.sourceSha256) = documents.map (·.sha256) := by
  induction documents generalizing start finish events planned with
  | nil =>
      obtain ⟨_, same, _⟩ := executes_pure.mp executed
      cases same
      rfl
  | cons document documents induction =>
      rcases executes_bind.mp executed with ⟨_, _, same⟩ |
        ⟨early, entry, middle, later, planning, continuing, _⟩
      · cases same
      rcases executes_bind.mp continuing with ⟨_, _, same⟩ |
        ⟨_, others, _, _, rest, returned, _⟩
      · cases same
      obtain ⟨_, same, _⟩ := executes_pure.mp returned
      cases same
      rw [List.map_cons, List.map_cons, induction rest]
      congr 1
      rcases executes_await_bind.mp planning with ⟨_, _, same, _⟩ |
        ⟨_, _, _, _, checking, _⟩
      · cases same
      rcases executes_fromExcept_bind.mp checking with ⟨_, _, same, _⟩ |
        ⟨_, _, reading⟩
      · cases same
      rcases executes_await_bind.mp reading with ⟨_, _, same, _⟩ |
        ⟨_, _, _, _, returned, _⟩
      · cases same
      obtain ⟨_, same, _⟩ := executes_pure.mp returned
      cases same
      rfl

/-- A plan that is built comes from the documents of its snapshot. -/
theorem plan_executes {σ : Type}
    {perform : σ → (op : CorpusOp) → Except PyException (CorpusReply op) →
      σ → Prop} {first last : σ} {snapshotId modeName : String}
    {plan : ParsePlan}
    (executed : (parser.plan snapshotId modeName resume).Executes perform
      first events (.ok plan) last) :
    ∃ selected snapshot planned, ParseMode.ofString modeName = .ok selected ∧
      parser.snapshot snapshotId = .ok snapshot ∧ plan.mode = selected ∧
      plan.documents = planned.map Prod.fst ∧
      ∃ second third comparing planning settled,
        (parser.requireParity snapshot selected).Executes perform first
          comparing (.ok ()) second ∧
        (parser.planDocuments snapshotId selected resume
          snapshot.documents).Executes perform second planning (.ok planned)
          third ∧
        perform third .settledCostUsd (.ok settled) last ∧
        events = comparing ++ planning ++
          [⟨.settledCostUsd, .ok settled⟩] := by
  rcases executes_fromExcept_bind.mp executed with ⟨_, _, same, _⟩ |
    ⟨selected, chosen, looking⟩
  · cases same
  rcases executes_fromExcept_bind.mp looking with ⟨_, _, same, _⟩ |
    ⟨snapshot, found, comparing⟩
  · cases same
  rcases executes_bind.mp comparing with ⟨_, _, same⟩ |
    ⟨early, _, second, _, compared, planning, rfl⟩
  · cases same
  rcases executes_bind.mp planning with ⟨_, _, same⟩ |
    ⟨middle, planned, third, _, documents, settling, rfl⟩
  · cases same
  rcases executes_await_bind.mp settling with ⟨_, _, same, _⟩ |
    ⟨settled, _, later, settled_at, pricing, rfl⟩
  · cases same
  obtain ⟨rfl, built, rfl⟩ := executes_fromExcept.mp pricing
  obtain ⟨base, _, built⟩ := bind_eq_ok.mp built.symm
  obtain ⟨worst, _, built⟩ := bind_eq_ok.mp built
  obtain ⟨remaining, _, built⟩ := bind_eq_ok.mp built
  obtain ⟨planHash, _, built⟩ := bind_eq_ok.mp built
  cases built
  exact ⟨selected, snapshot, planned, chosen, found, rfl, rfl, second, third,
    early, middle, settled, compared, documents, settled_at,
    (List.append_assoc _ _ _).symm⟩

private theorem plan_spec {snapshotId modeName : String} {plan : ParsePlan}
    (executed : (parser.plan snapshotId modeName resume).Executes
      (CorpusWorld.Performs parses) start events (.ok plan) finish) :
    ∃ selected snapshot, ParseMode.ofString modeName = .ok selected ∧
      parser.snapshot snapshotId = .ok snapshot ∧ plan.mode = selected ∧
      plan.documents.map (·.sourceSha256) =
        snapshot.documents.map (·.sha256) := by
  obtain ⟨selected, snapshot, planned, chosen, found, same, listed, _, _, _,
    _, _, _, documents, _⟩ := plan_executes executed
  refine ⟨selected, snapshot, chosen, found, same, ?_⟩
  rw [← planDocuments_hashes documents, listed, List.map_map]
  rfl

/-- What a run does about a document of its snapshot is the trace of at most
one attempt. -/
theorem parseCorpus_trace {snapshotId modeName : String}
    {result : Except PyException ParseSummary}
    (executed : (parser.parseCorpus snapshotId modeName resume).Executes
      (CorpusWorld.Performs parses) start events result finish)
    (found : parser.snapshot snapshotId = .ok snapshot)
    (member : document ∈ snapshot.documents)
    (selected : ParseMode.ofString modeName = .ok mode) :
    RoundTrace parser snapshotId mode document
      (events.filter (about document.sha256)) := by
  rcases executes_bind.mp executed with ⟨_, planning, _⟩ |
    ⟨early, plan, middle, later, planning, checking, rfl⟩
  · rw [plan_about planning]
    exact .inl rfl
  obtain ⟨chosen, known, same, listed, rfl, hashes⟩ := plan_spec planning
  cases same.symm.trans selected
  cases listed.symm.trans found
  rw [List.filter_append, plan_about planning, List.nil_append]
  rcases executes_await_bind.mp checking with ⟨_, _, _, rfl⟩ |
    ⟨now, _, rest, _, verifying, rfl⟩
  · exact .inl rfl
  change RoundTrace parser snapshotId plan.mode document
    (rest.filter (about document.sha256))
  rcases executes_fromExcept_bind.mp verifying with ⟨_, _, _, rfl, _⟩ |
    ⟨_, _, authorizing⟩
  · exact .inl rfl
  rcases executes_fromExcept_bind.mp authorizing with ⟨_, _, _, rfl, _⟩ |
    ⟨_, _, looking⟩
  · exact .inl rfl
  rcases executes_fromExcept_bind.mp looking with ⟨_, _, _, rfl, _⟩ |
    ⟨listed', again, looping⟩
  · exact .inl rfl
  cases again.symm.trans found
  have unique : (plan.documents.map (·.sourceSha256)).Nodup :=
    hashes ▸ snapshot.unique
  rcases executes_bind.mp looping with ⟨_, parsing, _⟩ |
    ⟨_, tally, _, _, parsing, ending, rfl⟩
  · exact (parseDocuments_trace unique member parsing).1
  · obtain ⟨rfl, _, _⟩ := executes_pure.mp ending
    rw [List.append_nil]
    exact (parseDocuments_trace unique member parsing).1

end RagBench
