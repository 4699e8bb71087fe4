import RagBench.Ingestion.CorpusRounds

/-!
# A document is paid for once

A checkpoint that passes the test of a cache hit is found by every later plan
of the same configuration, and the loop does not ask the gateway for a cache
hit.  The later run may have another authorization, price book and budget.
-/

namespace RagBench

open Program

/-- The configuration a checkpoint depends on. -/
structure CorpusParser.SameParsing (parser later : CorpusParser) : Prop where
  platform : later.platform = parser.platform
  modelId : later.modelId = parser.modelId
  modelVersion : later.modelVersion = parser.modelVersion
  snapshots : later.snapshots = parser.snapshots

section SameParsing

variable {parser later : CorpusParser} {snapshotId : String}
  {document : DocumentRecord} {mode : ParseMode} {checkpoint : ParseCheckpoint}

theorem CorpusParser.SameParsing.key (same : parser.SameParsing later) :
    later.key snapshotId mode document =
      parser.key snapshotId mode document := by
  rw [CorpusParser.key, same.modelId, same.modelVersion]
  rfl

theorem CorpusParser.SameParsing.snapshot (same : parser.SameParsing later) :
    later.snapshot snapshotId = parser.snapshot snapshotId := by
  rw [CorpusParser.snapshot, same.snapshots]
  rfl

theorem CorpusParser.SameParsing.passes (same : parser.SameParsing later)
    (passes : parser.Passes document checkpoint) :
    later.Passes document checkpoint := by
  refine ⟨same.platform ▸ passes.intact, ?_⟩
  rw [← passes.matching, CorpusParser.checkpointMatches, same.modelId,
    same.modelVersion]
  rfl

end SameParsing

/-- From a repository which holds the checkpoint, planning with resume marks
the document and no run asks the gateway for it. -/
structure PaidOnce (parser : CorpusParser) (snapshotId : String)
    (document : DocumentRecord) (mode : ParseMode)
    (checkpoint : ParseCheckpoint) : Prop where
  intact : checkpoint.cacheIntegrityOk parser.platform = .ok true
  matching : parser.checkpointMatches checkpoint document = true
  maps : MapsPages document.pageCount checkpoint.elements
    checkpoint.pageMappings
  planned : ∀ (later : CorpusParser) others parses modeName start events plan
      finish,
    parser.SameParsing later →
    KeepsIntact parser.platform snapshotId others →
    ParseMode.ofString modeName = .ok mode →
    start.repository.get (parser.key snapshotId mode document) =
      some checkpoint →
    (later.plan snapshotId modeName true).Executes
      (CorpusWorld.Interfered others parses) start events (.ok plan) finish →
    ∃ item ∈ plan.documents, item.documentId = document.documentId ∧
      item.sourceSha256 = document.sha256 ∧ item.cacheHit = true
  unasked : ∀ (later : CorpusParser) others parses modeName start events
      result finish,
    parser.SameParsing later →
    KeepsIntact parser.platform snapshotId others →
    ParseMode.ofString modeName = .ok mode →
    start.repository.get (parser.key snapshotId mode document) =
      some checkpoint →
    (later.parseCorpus snapshotId modeName true).Executes
      (CorpusWorld.Interfered others parses) start events result finish →
    ∀ event ∈ events, ∀ request, event.op = .parse request →
      request.documentSha256 ≠ document.sha256

section Later

variable {parser : CorpusParser} {snapshotId : String}
  {snapshot : CorpusSnapshot} {document : DocumentRecord} {mode : ParseMode}
  {others : ParseRepository → ParseRepository → Prop}
  {parses : ParseRequest → GatewayHistory →
    Except PyException ParsedDocument → Prop}
  {start finish : CorpusWorld} {events : List CorpusEvent}

/-- Every entry of a plan for the document is a cache hit. -/
private theorem planned_hit {modeName : String} {plan : ParsePlan}
    {checkpoint : ParseCheckpoint}
    (known : parser.snapshot snapshotId = .ok snapshot)
    (member : document ∈ snapshot.documents)
    (selected : ParseMode.ofString modeName = .ok mode)
    (keeps : KeepsIntact parser.platform snapshotId others)
    (held : start.repository.get (parser.key snapshotId mode document) =
      some checkpoint)
    (passes : parser.Passes document checkpoint)
    (executed : (parser.plan snapshotId modeName true).Executes
      (CorpusWorld.Interfered others parses) start events (.ok plan)
      finish) :
    (∃ item ∈ plan.documents, item.documentId = document.documentId ∧
      item.sourceSha256 = document.sha256 ∧ item.cacheHit = true) ∧
    ∀ item ∈ plan.documents, item.sourceSha256 = document.sha256 →
      item.cacheHit = true := by
  obtain ⟨listed, chosen, found, entries⟩ := plan_planned keeps executed
  obtain rfl := Except.ok.inj (found.symm.trans known)
  obtain rfl := Except.ok.inj (chosen.symm.trans selected)
  constructor
  · obtain ⟨item, inside, planned⟩ := 
      exists_right_of_forall₂ entries member
    exact ⟨item, inside, planned.documentId, planned.sourceSha256,
      planned.resumed rfl checkpoint held passes⟩
  · intro item inside same
    obtain ⟨other, listed_at, planned⟩ := 
      exists_left_of_forall₂ entries inside
    obtain rfl : other = document :=
      List.inj_on_of_nodup_map listed.unique listed_at member
        (planned.sourceSha256.symm.trans same)
    exact planned.resumed rfl checkpoint held passes

private theorem unasked_of_passes {modeName : String}
    {checkpoint : ParseCheckpoint} {result : Except PyException ParseSummary}
    (known : parser.snapshot snapshotId = .ok snapshot)
    (member : document ∈ snapshot.documents)
    (selected : ParseMode.ofString modeName = .ok mode)
    (keeps : KeepsIntact parser.platform snapshotId others)
    (held : start.repository.get (parser.key snapshotId mode document) =
      some checkpoint)
    (passes : parser.Passes document checkpoint)
    (executed : (parser.parseCorpus snapshotId modeName true).Executes
      (CorpusWorld.Interfered others parses) start events result finish) :
    ∀ event ∈ events, ∀ request, event.op = .parse request →
      request.documentSha256 ≠ document.sha256 := by
  have quiet : ∀ {early : List CorpusEvent} {outcome} {middle : CorpusWorld},
      (parser.plan snapshotId modeName true).Executes
        (CorpusWorld.Interfered others parses) start early outcome middle →
      ∀ event ∈ early, ∀ request, event.op = .parse request →
        request.documentSha256 ≠ document.sha256 := by
    intro early outcome middle planning event inside request asked
    have planned := planning.allowed (plan_leaves modeName) event inside
    rw [asked] at planned
    cases planned
  rcases parseCorpus_executes executed with ⟨_, planning, -⟩ |
    ⟨plan, second, early, outcome, loop, planning, rfl, ended⟩
  · exact quiet planning
  refine List.forall_mem_append.mpr ⟨quiet planning,
    List.forall_mem_cons.mpr ⟨nofun, ?_⟩⟩
  rcases ended with ⟨rfl, -⟩ | ⟨third, listed, tally, -, -, looping, -⟩
  · exact List.forall_mem_nil _
  intro event inside request asked same
  obtain ⟨item, planned, missed, concerns⟩ :=
    parseDocuments_concerns looping event inside
  rw [asked] at concerns
  have hit := (planned_hit known member selected keeps held passes
    planning).2 item planned (concerns.symm.trans same)
  cases hit.symm.trans missed

/-- What passes the test of a cache hit is not paid for again. -/
theorem paidOnce_of_passes {checkpoint : ParseCheckpoint}
    (known : parser.snapshot snapshotId = .ok snapshot)
    (member : document ∈ snapshot.documents)
    (passes : parser.Passes document checkpoint)
    (maps : MapsPages document.pageCount checkpoint.elements
      checkpoint.pageMappings) :
    PaidOnce parser snapshotId document mode checkpoint where
  intact := passes.intact
  matching := passes.matching
  maps := maps
  planned := by
    intro later others parses modeName start events plan finish same keeps
      selected held executed
    exact (planned_hit (same.snapshot ▸ known) member selected
      (same.platform ▸ keeps) (same.key ▸ held) (same.passes passes)
      executed).1
  unasked := by
    intro later others parses modeName start events result finish same keeps
      selected held executed
    exact unasked_of_passes (same.snapshot ▸ known) member selected
      (same.platform ▸ keeps) (same.key ▸ held) (same.passes passes)
      executed

/-- What `_normalize` accepts. -/
private theorem paidOnce_of_normalized {floats : FloatText}
    {response : ParsedDocument} {latencyMs : ℕ} {checkpoint : ParseCheckpoint}
    (hashes : parser.platform.HashesCanonically floats)
    (digests : ∀ bytes, parser.platform.sha256Hex bytes ≠ "")
    (known : parser.snapshot snapshotId = .ok snapshot)
    (member : document ∈ snapshot.documents)
    (unique : (Json.object response.rawResponse).UniqueKeys)
    (normalized : parser.normalize snapshot document mode response latencyMs =
      .ok checkpoint) :
    PaidOnce parser snapshotId document mode checkpoint := by
  have fields := normalize_ok normalized
  obtain ⟨intact, matching⟩ := fields.passes hashes digests unique
  refine paidOnce_of_passes known member ⟨intact, matching⟩ ?_
  refine pageMappings_maps ?_ fields.pageMappings
  have elements := fields.elements
  unfold responseElements
  cases found : Json.get? response.rawResponse "elements" with
  | none =>
      rw [found] at elements
      exact Json.array.inj elements
  | some value =>
      rw [found] at elements
      obtain rfl : value = _ := elements
      rfl

/-- A reconciliation normalizes the response that waits, and stores it. -/
private theorem reconcile_normalized {documentId modeName : String}
    {checkpoint : ParseCheckpoint}
    (named : snapshot.snapshotId = snapshotId)
    (known : parser.snapshot snapshotId = .ok snapshot)
    (executed : (parser.reconcilePaidCheckpoint snapshotId documentId
      modeName).Executes (CorpusWorld.Interfered others parses) start events
      (.ok checkpoint) finish) :
    ∃ document ∈ snapshot.documents, document.documentId = documentId ∧
      ∃ mode response latencyMs, ParseMode.ofString modeName = .ok mode ∧
        parser.normalize snapshot document mode response latencyMs =
          .ok checkpoint ∧
        finish.repository.get (parser.key snapshotId mode document) =
          some checkpoint := by
  rcases executes_fromExcept_bind.mp executed with ⟨_, _, same, _⟩ |
    ⟨listed, looked, finding⟩
  · cases same
  obtain rfl := Except.ok.inj (looked.symm.trans known)
  rcases executes_fromExcept_bind.mp finding with ⟨_, _, same, _⟩ |
    ⟨document, found, choosing⟩
  · cases same
  rcases executes_fromExcept_bind.mp choosing with ⟨_, _, same, _⟩ |
    ⟨mode, chosen, reading⟩
  · cases same
  rcases executes_await_bind.mp reading with ⟨_, _, same, _⟩ |
    ⟨owed, _, _, _, owing, _⟩
  · cases same
  rcases executes_fromExcept_bind.mp owing with ⟨_, _, same, _⟩ |
    ⟨⟨previous, raw, hash⟩, _, hashing⟩
  · cases same
  rcases executes_fromExcept_bind.mp hashing with ⟨_, _, same, _⟩ |
    ⟨current, _, checking⟩
  · cases same
  split_ifs at checking with changed
  · obtain ⟨_, same, _⟩ := executes_throw.mp checking
    cases same
  rcases executes_fromExcept_bind.mp checking with ⟨_, _, same, _⟩ |
    ⟨reconciled, normalized, pricing⟩
  · cases same
  split_ifs at pricing with differs
  · obtain ⟨_, same, _⟩ := executes_throw.mp pricing
    cases same
  rcases executes_await_bind.mp pricing with ⟨_, _, same, _⟩ |
    ⟨_, _, _, ⟨repository, _, performed⟩, returned, _⟩
  · cases same
  obtain ⟨_, same, rfl⟩ := executes_pure.mp returned
  obtain rfl := Except.ok.inj same
  have place : document ∈ listed.documents ∧
      document.documentId = documentId := by
    split at found
    · next other first =>
        obtain rfl := Except.ok.inj found
        exact ⟨List.mem_of_find?_eq_some first, by
          simpa using List.find?_some first⟩
    · cases found
  refine ⟨document, place.1, place.2, mode, _, _, chosen, normalized, ?_⟩
  cases performed with
  | put =>
      rw [ParseRepository.get_put, if_pos]
      rw [(normalize_ok normalized).key, named]
      rfl
  | reply value external => cases external

variable {floats : FloatText}

/-- A parsed document is not paid for again: whatever `_normalize` accepts,
`parse_corpus` stores or `reconcile_paid_checkpoint` returns. -/
theorem parsed_document_paid_once
    (hashes : parser.platform.HashesCanonically floats)
    (digests : ∀ bytes, parser.platform.sha256Hex bytes ≠ "")
    (known : parser.snapshot snapshotId = .ok snapshot)
    (named : snapshot.snapshotId = snapshotId) :
    (∀ document ∈ snapshot.documents, ∀ mode response latencyMs checkpoint,
      (Json.object response.rawResponse).UniqueKeys →
      parser.normalize snapshot document mode response latencyMs =
        .ok checkpoint →
      PaidOnce parser snapshotId document mode checkpoint) ∧
    (∀ document ∈ snapshot.documents, ∀ mode response others parses start
      events finish,
      (Json.object response.rawResponse).UniqueKeys →
      (parser.store snapshot document mode response).Executes
        (CorpusWorld.Interfered others parses) start events (.ok ()) finish →
      ∃ checkpoint, PaidOnce parser snapshotId document mode checkpoint ∧
        finish.repository.get (parser.key snapshotId mode document) =
          some checkpoint) ∧
    ∀ documentId modeName others parses start events checkpoint finish,
      (∀ raw, checkpoint.rawResponse = some raw →
        (Json.object raw).UniqueKeys) →
      (parser.reconcilePaidCheckpoint snapshotId documentId modeName).Executes
        (CorpusWorld.Interfered others parses) start events (.ok checkpoint)
        finish →
      ∃ document ∈ snapshot.documents, document.documentId = documentId ∧
        ∃ mode, ParseMode.ofString modeName = .ok mode ∧
          PaidOnce parser snapshotId document mode checkpoint ∧
          finish.repository.get (parser.key snapshotId mode document) =
            some checkpoint := by
  refine ⟨?_, ?_, ?_⟩
  · intro document member mode response latencyMs checkpoint unique normalized
    exact paidOnce_of_normalized hashes digests known member unique normalized
  · intro document member mode response others parses start events finish
      unique executed
    obtain ⟨checkpoint, latencyMs, normalized, held⟩ :=
      store_normalized named executed
    exact ⟨checkpoint, paidOnce_of_normalized hashes digests known member
      unique normalized, held⟩
  · intro documentId modeName others parses start events checkpoint finish
      unique executed
    obtain ⟨document, member, same, mode, response, latencyMs, chosen,
      normalized, held⟩ := reconcile_normalized named known executed
    refine ⟨document, member, same, mode, chosen, ?_, held⟩
    exact paidOnce_of_normalized hashes digests known member
      (unique _ (normalize_ok normalized).rawResponse) normalized

end Later

/-! ## A sample response -/

/-- The hash of a sample has a prefix, so it is not empty. -/
def prefixedSha256Hex (bytes : Bytes) : String :=
  "sha256:" ++ sampleSha256Hex bytes

def digestPlatform : Platform :=
  { longPlatform with
    sha256Hex := prefixedSha256Hex
    canonicalJsonHash := fun value =>
      (PyValue.ofJson value).canonicalJsonHash sampleFloats
        prefixedSha256Hex }

theorem digestPlatform_hashes :
    digestPlatform.HashesCanonically sampleFloats :=
  fun _ => rfl

theorem digestPlatform_digests (bytes : Bytes) :
    digestPlatform.sha256Hex bytes ≠ "" := by
  intro empty
  have letters := congrArg String.toList empty
  simp [digestPlatform, prefixedSha256Hex] at letters

def digestParser : CorpusParser :=
  { longParser with
    platform := digestPlatform
    vatBuffer_nonneg := longParser_vatBuffer }

/-- An element on the first page, and one on the second. -/
def twoPageResponse : ParsedDocument :=
  { rawResponse := [("model", .str "model"),
      ("elements", .array [
        .object [("page", .int 2), ("category", .str "heading1")],
        .object [("page", .int 1)]])] }

theorem sample_response_paid_once :
    ∃ checkpoint, digestParser.normalize longSnapshot longDocument .standard
        twoPageResponse 7 = .ok checkpoint ∧
      PaidOnce digestParser "snapshot" longDocument .standard checkpoint := by
  have computed : (digestParser.normalize longSnapshot longDocument .standard
      twoPageResponse 7).toOption.isSome = true := by
    decide +kernel
  obtain ⟨checkpoint, found⟩ := Option.isSome_iff_exists.mp computed
  have normalized := toOption_eq_some.mp found
  have unique : (Json.object twoPageResponse.rawResponse).UniqueKeys := by
    simp [twoPageResponse, Json.UniqueKeys, Json.EntriesUnique,
      Json.ItemsUnique]
  have known : digestParser.snapshot "snapshot" = .ok longSnapshot := rfl
  exact ⟨checkpoint, normalized, (parsed_document_paid_once
    digestPlatform_hashes digestPlatform_digests known rfl).1 longDocument List.mem_cons_self .standard twoPageResponse 7
    checkpoint unique normalized⟩

end RagBench
