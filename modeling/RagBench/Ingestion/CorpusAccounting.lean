import RagBench.Ingestion.PaidOnce

/-!
# The accounting of a corpus run

The loop makes the test of a cache hit again under the lock, but without
comparing the checkpoint with the document.  The counts always add up.  Each
document that is not a failure has a checkpoint that passes the test of the
plan exactly when no intact checkpoint with another number of pages is read.
-/

namespace RagBench

open Program

/-! ## The loop -/

section Loop

variable {parser : CorpusParser} {snapshotId : String}
  {snapshot : CorpusSnapshot} {mode : ParseMode} {resume : Bool} {σ : Type}
  {perform : σ → (op : CorpusOp) → Except PyException (CorpusReply op) →
    σ → Prop}
  {first last : σ} {events : List CorpusEvent}

/-- The loop around the round of an entry. -/
theorem parseDocuments_split {earlier rest : List PlannedDocument}
    {item : PlannedDocument} {before after : ParseTally}
    (missed : item.cacheHit = false)
    (executed : (parser.parseDocuments snapshotId snapshot mode resume
      (earlier ++ item :: rest) before).Executes perform first events
      (.ok after) last) :
    ∃ middle round second third front round_events back,
      (parser.parseDocuments snapshotId snapshot mode resume earlier
        before).Executes perform first front (.ok middle) second ∧
      (parser.parsePlanned snapshotId snapshot mode resume item).Executes
        perform second round_events (.ok round) third ∧
      (parser.parseDocuments snapshotId snapshot mode resume rest
        (middle.count item.pages round)).Executes perform third back
        (.ok after) last ∧
      events = front ++ (round_events ++ back) := by
  induction earlier generalizing first events before with
  | nil =>
      rw [List.nil_append, CorpusParser.parseDocuments, missed,
        if_neg (by simp)] at executed
      rcases executes_bind.mp executed with ⟨_, _, same⟩ |
        ⟨early, round, third, later, planned, continuing, rfl⟩
      · cases same
      · exact ⟨before, round, first, third, [], early, later, .ret, planned,
          continuing, rfl⟩
  | cons entry earlier induction =>
      rw [List.cons_append, CorpusParser.parseDocuments] at executed
      rw [CorpusParser.parseDocuments]
      split_ifs at executed ⊢
      · exact induction executed
      rcases executes_bind.mp executed with ⟨_, _, same⟩ |
        ⟨early, round, _, later, planned, continuing, rfl⟩
      · cases same
      obtain ⟨middle, itemRound, second, third, front, roundEvents, back,
        fronting, rounding, backing, rfl⟩ := induction continuing
      refine ⟨middle, itemRound, second, third, early ++ front, roundEvents,
        back, ?_, rounding, backing, (List.append_assoc _ _ _).symm⟩
      exact executes_bind.mpr (.inr ⟨early, round, _, front, planned,
        fronting, rfl⟩)

/-- The failed entries, and what the counters add up to. -/
structure Tallied (items : List PlannedDocument) (before after : ParseTally)
    (failed : List PlannedDocument) : Prop where
  within : failed.Sublist items
  missed : ∀ item ∈ failed, item.cacheHit = false
  named : after.failures.map (·.documentId) =
    before.failures.map (·.documentId) ++ failed.map (·.documentId)
  documents : after.dynamicCacheHits + after.newSuccesses + failed.length +
      (items.filter (·.cacheHit)).length =
    before.dynamicCacheHits + before.newSuccesses + items.length
  pages : after.dynamicCachedPages + after.newSuccessPages +
      (failed.map (·.pages)).sum +
      ((items.filter (·.cacheHit)).map (·.pages)).sum =
    before.dynamicCachedPages + before.newSuccessPages +
      (items.map (·.pages)).sum

/-- A failure of a round names the entry. -/
def NamesFailures (parser : CorpusParser) (snapshotId : String)
    (snapshot : CorpusSnapshot) (mode : ParseMode) (resume : Bool)
    (perform : σ → (op : CorpusOp) → Except PyException (CorpusReply op) →
      σ → Prop) (item : PlannedDocument) : Prop :=
  ∀ first events failure last,
    (parser.parsePlanned snapshotId snapshot mode resume item).Executes
      perform first events (.ok (.failed failure)) last →
    failure.documentId = item.documentId

theorem parseDocuments_tallied {items : List PlannedDocument}
    {before after : ParseTally}
    (names : ∀ item ∈ items, NamesFailures parser snapshotId snapshot mode
      resume perform item)
    (executed : (parser.parseDocuments snapshotId snapshot mode resume items
      before).Executes perform first events (.ok after) last) :
    ∃ failed, Tallied items before after failed := by
  induction items generalizing first events before with
  | nil =>
      obtain ⟨_, same, _⟩ := executes_pure.mp executed
      obtain rfl := Except.ok.inj same
      exact ⟨[], List.nil_sublist _, List.forall_mem_nil _, by simp, by simp,
        by simp⟩
  | cons item items induction =>
      obtain ⟨naming, names⟩ := List.forall_mem_cons.mp names
      rw [CorpusParser.parseDocuments] at executed
      split_ifs at executed with cached
      · obtain ⟨failed, tallied⟩ := induction names executed
        refine ⟨failed, tallied.within.cons _, tallied.missed, tallied.named,
          ?_, ?_⟩
        · have sum := tallied.documents
          rw [List.filter_cons, if_pos cached, List.length_cons,
            List.length_cons]
          omega
        · have sum := tallied.pages
          rw [List.filter_cons, if_pos cached, List.map_cons, List.sum_cons,
            List.map_cons, List.sum_cons]
          omega
      rcases executes_bind.mp executed with ⟨_, _, same⟩ |
        ⟨early, round, _, later, planned, continuing, rfl⟩
      · cases same
      obtain ⟨failed, tallied⟩ := induction names continuing
      have documents := tallied.documents
      have pages := tallied.pages
      cases round with
      | failed failure =>
          refine ⟨item :: failed, tallied.within.cons_cons _,
            List.forall_mem_cons.mpr ⟨by simpa using cached, tallied.missed⟩,
            ?_, ?_, ?_⟩
          · rw [tallied.named]
            simp [ParseTally.count, naming _ _ _ _ planned]
          · rw [List.filter_cons, if_neg cached]
            simp only [ParseTally.count, List.length_cons] at documents ⊢
            omega
          · rw [List.filter_cons, if_neg cached]
            simp only [ParseTally.count, List.map_cons, List.sum_cons]
              at pages ⊢
            omega
      | cached | succeeded =>
          refine ⟨failed, tallied.within.cons _, tallied.missed,
            tallied.named, ?_, ?_⟩
          · rw [List.filter_cons, if_neg cached]
            simp only [ParseTally.count, List.length_cons] at documents ⊢
            omega
          · rw [List.filter_cons, if_neg cached]
            simp only [ParseTally.count, List.map_cons, List.sum_cons]
              at pages ⊢
            omega

end Loop

/-- The members of a list whose keys are those of a part are that part. -/
private theorem filter_part {α β : Type} [DecidableEq β] {key : α → β}
    {part items : List α} (within : part.Sublist items)
    (nodup : (items.map key).Nodup) :
    (items.filter fun item => key item ∈ part.map key) = part := by
  induction within with
  | slnil => rfl
  | @cons part items item within induction =>
      obtain ⟨fresh, nodup⟩ := List.nodup_cons.mp nodup
      have absent : key item ∉ part.map key :=
        fun member => fresh ((within.map key).subset member)
      rw [List.filter_cons_of_neg (by simpa using absent), induction nodup]
  | @cons_cons part items item within induction =>
      obtain ⟨fresh, nodup⟩ := List.nodup_cons.mp nodup
      rw [List.filter_cons_of_pos (by simp)]
      congr 1
      refine Eq.trans (List.filter_congr fun other member => ?_)
        (induction nodup)
      have different : key other ≠ key item := fun same =>
        fresh (same ▸ List.mem_map_of_mem member)
      simp [different]

/-- An entry shares its key with no other. -/
private theorem different_of_nodup {α β : Type} {key : α → β}
    {earlier rest : List α} {item : α}
    (nodup : ((earlier ++ item :: rest).map key).Nodup) :
    ∀ other ∈ earlier ++ rest, key other ≠ key item := by
  rw [List.map_append, List.map_cons, List.nodup_middle, ← List.map_append]
    at nodup
  intro other member same
  exact (List.nodup_cons.mp nodup).1 (same ▸ List.mem_map_of_mem member)

/-! ## What is read -/

section Reads

variable {parser : CorpusParser} {snapshotId : String}
  {snapshot : CorpusSnapshot} {mode : ParseMode} {resume : Bool}
  {others : ParseRepository → ParseRepository → Prop}
  {parses : ParseRequest → GatewayHistory →
    Except PyException ParsedDocument → Prop}
  {start finish : CorpusWorld} {events : List CorpusEvent}

/-- What is read intact is still there at the end. -/
theorem held_of_read {α : Type} {program : CorpusM α}
    {result : Except PyException α}
    (executed : program.Executes (CorpusWorld.Interfered others parses) start
      events result finish)
    (keeps : KeepsIntact parser.platform snapshotId others)
    {key : CheckpointKey} (named : key.snapshotId = snapshotId)
    (quiet : ∀ event ∈ events, ∀ stored, event.op = .put stored →
      stored.key ≠ key)
    {checkpoint : ParseCheckpoint}
    (intact : checkpoint.cacheIntegrityOk parser.platform = .ok true)
    (read : ⟨.get key, .ok (some checkpoint)⟩ ∈ events) :
    finish.repository.get key = some checkpoint := by
  induction executed with
  | ret => cases read
  | raise => cases read
  | call performed resumed induction =>
      obtain ⟨-, quietLater⟩ := List.forall_mem_cons.mp quiet
      rcases List.mem_cons.mp read with same | later
      · cases same
        exact kept_of_quiet resumed keeps named quietLater intact
          performed.reply
      · exact induction quietLater later

/-- The intact checkpoints of documents that a run reads. -/
def ReadsIntact (parser : CorpusParser) (snapshotId : String)
    (mode : ParseMode) (document : DocumentRecord)
    (events : List CorpusEvent) (checkpoint : ParseCheckpoint) : Prop :=
  ⟨.get (parser.key snapshotId mode document), .ok (some checkpoint)⟩ ∈
      events ∧
    checkpoint.cacheIntegrityOk parser.platform = .ok true

/-- Events that concern other files do not touch the document. -/
private theorem quiet_of_concerns (parser : CorpusParser)
    (snapshotId : String) (mode : ParseMode) {document : DocumentRecord}
    (elsewhere : ∀ event ∈ events, ∃ sha256 ≠ document.sha256,
      Concerns sha256 event.op) :
    (∀ event ∈ events, ∀ stored, event.op = .put stored →
      stored.key ≠ parser.key snapshotId mode document) ∧
    ∀ outcome, ⟨.get (parser.key snapshotId mode document), outcome⟩ ∉
      events := by
  constructor
  · intro event member stored same key
    obtain ⟨sha256, other, concerns⟩ := elsewhere event member
    rw [same] at concerns
    exact other (concerns.symm.trans (congrArg CheckpointKey.sourceSha256 key))
  · intro outcome member
    obtain ⟨sha256, other, concerns⟩ := elsewhere _ member
    exact other concerns.symm

/-- What becomes of a document in a run that ends with a summary. -/
inductive DocumentOutcome (parser : CorpusParser) (snapshotId : String)
    (mode : ParseMode) (resume : Bool) (events : List CorpusEvent)
    (finish : CorpusWorld) (failed : List String)
    (document : DocumentRecord) : Prop where
  | kept {checkpoint : ParseCheckpoint} (resumed : resume = true)
      (succeeded : document.documentId ∉ failed)
      (held : finish.repository.get (parser.key snapshotId mode document) =
        some checkpoint)
      (right : parser.Passes document checkpoint ∨
        ReadsIntact parser snapshotId mode document events checkpoint)
      (only : ∀ other, ReadsIntact parser snapshotId mode document events
        other → other = checkpoint) :
      DocumentOutcome parser snapshotId mode resume events finish failed
        document
  | parsed {checkpoint : ParseCheckpoint}
      (succeeded : document.documentId ∉ failed)
      (held : finish.repository.get (parser.key snapshotId mode document) =
        some checkpoint)
      (passes : parser.Passes document checkpoint)
      (unread : resume = true → ∀ other,
        ¬ReadsIntact parser snapshotId mode document events other) :
      DocumentOutcome parser snapshotId mode resume events finish failed
        document
  | failed (failure : document.documentId ∈ failed)
      (unread : resume = true → ∀ other,
        ¬ReadsIntact parser snapshotId mode document events other) :
      DocumentOutcome parser snapshotId mode resume events finish failed
        document

variable {floats : FloatText}

/-- The run of the loop around the entry of a document. -/
private theorem outcome_of_missed {document : DocumentRecord}
    {item : PlannedDocument} {earlier rest : List PlannedDocument}
    {plan_events : List CorpusEvent} {second : CorpusWorld}
    {before after : ParseTally}
    (hashes : parser.platform.HashesCanonically floats)
    (digests : ∀ bytes, parser.platform.sha256Hex bytes ≠ "")
    (unique : ∀ request history response,
      parses request history (.ok response) →
        (Json.object response.rawResponse).UniqueKeys)
    (named : snapshot.snapshotId = snapshotId)
    (keeps : KeepsIntact parser.platform snapshotId others)
    (member : document ∈ snapshot.documents)
    (same_file : item.sourceSha256 = document.sha256)
    (missed : item.cacheHit = false)
    (planned : ∀ checkpoint, ReadsIntact parser snapshotId mode document
      plan_events checkpoint →
      second.repository.get (parser.key snapshotId mode document) =
        some checkpoint)
    (others_files : ∀ other ∈ earlier ++ rest,
      other.sourceSha256 ≠ document.sha256)
    (others_ids : ∀ other ∈ earlier ++ rest,
      other.documentId ≠ document.documentId)
    (names : ∀ other ∈ earlier ++ item :: rest, NamesFailures parser
      snapshotId snapshot mode resume
      (CorpusWorld.Interfered others parses) other)
    (fresh : before.failures = [])
    (executed : (parser.parseDocuments snapshotId snapshot mode resume
      (earlier ++ item :: rest) before).Executes
      (CorpusWorld.Interfered others parses) second events (.ok after)
      finish) :
    DocumentOutcome parser snapshotId mode resume (plan_events ++ events)
      finish (after.failures.map (·.documentId)) document := by
  obtain ⟨middle, round, third, fourth, front, roundEvents, back, fronting,
    rounding, backing, rfl⟩ := parseDocuments_split missed executed
  have elsewhere : ∀ {part : List PlannedDocument} {early : List CorpusEvent},
      (∀ other ∈ part, other ∈ earlier ++ rest) →
      (∀ event ∈ early, ∃ other ∈ part, other.cacheHit = false ∧
        Concerns other.sourceSha256 event.op) →
      ∀ event ∈ early, ∃ sha256 ≠ document.sha256,
        Concerns sha256 event.op := by
    intro part early within concerns event inside
    obtain ⟨other, listed, -, about⟩ := concerns event inside
    exact ⟨_, others_files other (within other listed), about⟩
  obtain ⟨frontPuts, frontReads⟩ := quiet_of_concerns parser snapshotId
    mode (elsewhere (fun _ => List.mem_append_left _)
      (parseDocuments_concerns fronting))
  obtain ⟨backPuts, backReads⟩ := quiet_of_concerns parser snapshotId
    mode (elsewhere (fun _ => List.mem_append_right _)
      (parseDocuments_concerns backing))
  obtain ⟨other, found, listed, once, read, stays, rounded⟩ :=
    parsePlanned_rounded hashes digests unique named keeps rounding
  obtain rfl : other = document := by
    refine List.inj_on_of_nodup_map snapshot.unique
      (List.mem_of_find?_eq_some listed) member ?_
    have same := List.find?_some listed
    exact (of_decide_eq_true same).trans same_file
  have reads : ∀ checkpoint, ReadsIntact parser snapshotId mode other
      (plan_events ++ (front ++ (roundEvents ++ back))) checkpoint →
        found = some checkpoint := by
    rintro checkpoint ⟨inside, intact⟩
    simp only [List.mem_append] at inside
    rcases inside with planning | fronted | rounds | backed
    · exact stays checkpoint intact (kept_of_quiet fronting keeps rfl
        frontPuts intact (planned checkpoint ⟨planning, intact⟩))
    · exact absurd fronted (frontReads _)
    · exact (Except.ok.inj (once _ rounds)).symm
    · exact absurd backed (backReads _)
  have unread : parser.usable resume found = .ok false → resume = true →
      ∀ checkpoint, ¬ReadsIntact parser snapshotId mode other
        (plan_events ++ (front ++ (roundEvents ++ back))) checkpoint := by
    intro unusable resumed checkpoint reading
    have usable := CorpusParser.usable_eq_true.mpr
      ⟨resumed, checkpoint, reads checkpoint reading, reading.2⟩
    cases usable.symm.trans unusable
  have kept : ∀ {checkpoint : ParseCheckpoint},
      checkpoint.cacheIntegrityOk parser.platform = .ok true →
      fourth.repository.get (parser.key snapshotId mode other) =
        some checkpoint →
      finish.repository.get (parser.key snapshotId mode other) =
        some checkpoint :=
    fun intact held => kept_of_quiet backing keeps rfl backPuts intact held
  have names_part : ∀ part : List PlannedDocument,
      (∀ entry ∈ part, entry ∈ earlier ++ item :: rest) →
        ∀ entry ∈ part, NamesFailures parser snapshotId snapshot mode resume
          (CorpusWorld.Interfered others parses) entry :=
    fun part within entry inside => names entry (within entry inside)
  obtain ⟨failedFront, frontTally⟩ := parseDocuments_tallied
    (names_part earlier fun _ => List.mem_append_left _) fronting
  obtain ⟨failedBack, backTally⟩ := parseDocuments_tallied
    (names_part rest fun _ inside => List.mem_append_right _
      (List.mem_cons_of_mem _ inside)) backing
  have apart : ∀ {failed part : List PlannedDocument}, failed.Sublist part →
      (∀ entry ∈ part, entry ∈ earlier ++ rest) →
        other.documentId ∉ failed.map (·.documentId) := by
    intro failed part within inside listed
    obtain ⟨entry, failing, same⟩ := List.mem_map.mp listed
    exact others_ids entry (inside entry (within.subset failing)) same
  have inFront := apart frontTally.within fun _ => List.mem_append_left _
  have inBack := apart backTally.within fun _ => List.mem_append_right _
  have ids := backTally.named
  cases rounded with
  | @cached checkpoint resumed same intact held =>
      refine .kept resumed ?_ (kept intact held) (.inr ⟨?_, intact⟩) ?_
      · rw [ids]
        simp only [ParseTally.count, frontTally.named, fresh]
        simpa using ⟨by simpa using inFront, by simpa using inBack⟩
      · simp [same ▸ read]
      · intro another reading
        exact Option.some.inj ((reads another reading).symm.trans same)
  | @succeeded checkpoint unusable held passes =>
      refine .parsed ?_ (kept passes.intact held) passes (unread unusable)
      rw [ids]
      simp only [ParseTally.count, frontTally.named, fresh]
      simpa using ⟨by simpa using inFront, by simpa using inBack⟩
  | @failed failure unusable sameId =>
      refine .failed ?_ (unread unusable)
      rw [ids]
      simp [ParseTally.count, sameId]

/-- The run of the loop when the plan has a cache hit for the document. -/
private theorem outcome_of_hit {document : DocumentRecord}
    {item : PlannedDocument} {items : List PlannedDocument}
    {plan_events : List CorpusEvent} {second : CorpusWorld}
    {before after : ParseTally} {checkpoint : ParseCheckpoint}
    (keeps : KeepsIntact parser.platform snapshotId others)
    (resumed : resume = true)
    (held : second.repository.get (parser.key snapshotId mode document) =
      some checkpoint)
    (passes : parser.Passes document checkpoint)
    (planned : ∀ checkpoint, ReadsIntact parser snapshotId mode document
      plan_events checkpoint →
      second.repository.get (parser.key snapshotId mode document) =
        some checkpoint)
    (listed : item ∈ items) (same_id : item.documentId = document.documentId)
    (hit : item.cacheHit = true)
    (files : ∀ other ∈ items, other.sourceSha256 = document.sha256 →
      other.cacheHit = true)
    (ids : (items.map (·.documentId)).Nodup)
    (names : ∀ other ∈ items, NamesFailures parser snapshotId snapshot mode
      resume (CorpusWorld.Interfered others parses) other)
    (fresh : before.failures = [])
    (executed : (parser.parseDocuments snapshotId snapshot mode resume items
      before).Executes (CorpusWorld.Interfered others parses) second events
      (.ok after) finish) :
    DocumentOutcome parser snapshotId mode resume (plan_events ++ events)
      finish (after.failures.map (·.documentId)) document := by
  have elsewhere : ∀ event ∈ events, ∃ sha256 ≠ document.sha256,
      Concerns sha256 event.op := by
    intro event inside
    obtain ⟨other, member, missed, about⟩ :=
      parseDocuments_concerns executed event inside
    refine ⟨_, fun same => ?_, about⟩
    cases (files other member same).symm.trans missed
  obtain ⟨puts, reads⟩ :=
    quiet_of_concerns parser snapshotId mode elsewhere
  obtain ⟨failed, tally⟩ := parseDocuments_tallied names executed
  refine .kept resumed ?_ (kept_of_quiet executed keeps rfl puts
    passes.intact held) (.inl passes) ?_
  · rw [tally.named, fresh, List.map_nil, List.nil_append]
    intro failing
    obtain ⟨other, member, same⟩ := List.mem_map.mp failing
    obtain rfl : other = item := List.inj_on_of_nodup_map ids
      (tally.within.subset member) listed (same.trans same_id.symm)
    cases hit.symm.trans (tally.missed _ member)
  · rintro other ⟨inside, intact⟩
    rcases List.mem_append.mp inside with planning | looping
    · have again := planned other ⟨planning, intact⟩
      exact Option.some.inj (again.symm.trans held)
    · exact absurd looping (reads _)

/-- The failures of the rounds name the entries of the plan. -/
private theorem names_of_planned {first last : CorpusWorld}
    {items : List PlannedDocument}
    (hashes : parser.platform.HashesCanonically floats)
    (digests : ∀ bytes, parser.platform.sha256Hex bytes ≠ "")
    (unique : ∀ request history response,
      parses request history (.ok response) →
        (Json.object response.rawResponse).UniqueKeys)
    (named : snapshot.snapshotId = snapshotId)
    (keeps : KeepsIntact parser.platform snapshotId others)
    (entries : List.Forall₂ (Planned parser snapshotId mode resume first last)
      snapshot.documents items) :
    ∀ item ∈ items, NamesFailures parser snapshotId snapshot mode resume
      (CorpusWorld.Interfered others parses) item := by
  intro item inside start events failure finish executed
  obtain ⟨document, member, planned⟩ := exists_left_of_forall₂ entries inside
  obtain ⟨other, found, listed, _, _, _, rounded⟩ :=
    parsePlanned_rounded hashes digests unique named keeps executed
  obtain rfl : other = document := by
    have same := List.find?_some listed
    exact List.inj_on_of_nodup_map snapshot.unique
      (List.mem_of_find?_eq_some listed) member
      ((of_decide_eq_true same).trans planned.sourceSha256)
  rw [planned.documentId]
  cases rounded with
  | failed _ same => exact same

/-- What becomes of each document. -/
private theorem document_outcome {modeName : String} {summary : ParseSummary}
    (hashes : parser.platform.HashesCanonically floats)
    (digests : ∀ bytes, parser.platform.sha256Hex bytes ≠ "")
    (unique : ∀ request history response,
      parses request history (.ok response) →
        (Json.object response.rawResponse).UniqueKeys)
    (known : parser.snapshot snapshotId = .ok snapshot)
    (named : snapshot.snapshotId = snapshotId)
    (ids : (snapshot.documents.map (·.documentId)).Nodup)
    (keeps : KeepsIntact parser.platform snapshotId others)
    (selected : ParseMode.ofString modeName = .ok mode)
    (executed : (parser.parseCorpus snapshotId modeName resume).Executes
      (CorpusWorld.Interfered others parses) start events (.ok summary)
      finish) :
    summary.succeededDocuments + summary.failedDocuments =
        snapshot.documents.length ∧
      summary.succeededPages + summary.failedPages =
        (snapshot.documents.map (·.pageCount)).sum ∧
      ∀ document ∈ snapshot.documents, DocumentOutcome parser snapshotId mode
        resume events finish (summary.failures.map (·.documentId))
        document := by
  rcases parseCorpus_executes executed with ⟨_, _, same⟩ |
    ⟨plan, second, early, outcome, loop, planning, rfl, ended⟩
  · cases same
  rcases ended with ⟨_, _, same⟩ |
    ⟨third, listed, tally, reading, found, looping, same⟩
  · cases same
  cases tally with
  | error error => cases same
  | ok after =>
  obtain rfl := Except.ok.inj same
  obtain rfl := Except.ok.inj (found.symm.trans known)
  obtain ⟨again, chosen, found', entries⟩ := plan_planned keeps planning
  obtain rfl := Except.ok.inj (found'.symm.trans known)
  obtain rfl := Except.ok.inj (chosen.symm.trans selected)
  have names : ∀ item ∈ plan.documents, NamesFailures parser snapshotId again
      plan.mode resume (CorpusWorld.Interfered others parses) item :=
    names_of_planned hashes digests unique named keeps entries
  have sameIds : plan.documents.map (·.documentId) =
      again.documents.map (·.documentId) :=
    map_eq_of_forall₂ _ _ (fun _ _ planned => planned.documentId) entries
  have sameFiles : plan.documents.map (·.sourceSha256) =
      again.documents.map (·.sha256) :=
    map_eq_of_forall₂ _ _ (fun _ _ planned => planned.sourceSha256) entries
  have samePages : plan.documents.map (·.pages) =
      again.documents.map (·.pageCount) :=
    map_eq_of_forall₂ _ _ (fun _ _ planned => planned.pages) entries
  have planIds : (plan.documents.map (·.documentId)).Nodup := sameIds ▸ ids
  have planFiles : (plan.documents.map (·.sourceSha256)).Nodup :=
    sameFiles ▸ again.unique
  obtain ⟨failed, tallied⟩ := parseDocuments_tallied names looping
  have failures : after.failures.map (·.documentId) =
      failed.map (·.documentId) := tallied.named
  refine ⟨?_, ?_, ?_⟩
  · have count := tallied.documents
    have length := congrArg List.length failures
    rw [List.length_map, List.length_map] at length
    rw [← entries.length_eq] at count
    dsimp only [CorpusParser.summarize] at count ⊢
    omega
  · have count := tallied.pages
    have part := filter_part tallied.within planIds
    rw [samePages] at count
    simp only [CorpusParser.summarize, failures, part] at count ⊢
    omega
  · intro document member
    obtain ⟨item, inside, planned⟩ := exists_right_of_forall₂ entries member
    have quiet : ∀ event ∈ early, ∀ stored, event.op = .put stored →
        stored.key ≠ parser.key snapshotId plan.mode document := by
      intro event inside stored asked
      have allowed := planning.allowed (plan_leaves modeName) event inside
      rw [asked] at allowed
      cases allowed
    have stays : ∀ {checkpoint : ParseCheckpoint},
        checkpoint.cacheIntegrityOk parser.platform = .ok true →
        second.repository.get (parser.key snapshotId plan.mode document) =
          some checkpoint →
        third.repository.get (parser.key snapshotId plan.mode document) =
          some checkpoint :=
      fun intact held => reading.keeps keeps rfl nofun intact held
    have reads : ∀ checkpoint, ReadsIntact parser snapshotId plan.mode
        document (early ++ [⟨.now, outcome⟩]) checkpoint →
        third.repository.get (parser.key snapshotId plan.mode document) =
          some checkpoint := by
      rintro checkpoint ⟨inside, intact⟩
      rcases List.mem_append.mp inside with planned | same
      · exact stays intact
          (held_of_read planning keeps rfl quiet intact planned)
      · cases List.mem_singleton.mp same
    rw [List.append_cons]
    cases hit : item.cacheHit with
    | true =>
        obtain ⟨resumed, checkpoint, held, passes⟩ := planned.hit hit
        refine outcome_of_hit keeps resumed (stays passes.intact held) passes
          reads inside planned.documentId hit ?_ planIds names rfl looping
        intro other there same
        obtain rfl := List.inj_on_of_nodup_map planFiles there inside
          (same.trans planned.sourceSha256.symm)
        exact hit
    | false =>
        obtain ⟨earlier, rest, split⟩ := List.append_of_mem inside
        rw [split] at looping names planIds planFiles
        refine outcome_of_missed hashes digests unique named keeps member
          planned.sourceSha256 hit reads ?_ ?_ names rfl looping
        · exact planned.sourceSha256 ▸ different_of_nodup planFiles
        · exact planned.documentId ▸ different_of_nodup planIds

/-- The counts add up, and a document that is not among the failures has a
checkpoint that passes the test of a cache hit. -/
structure TruthfulAccounting (parser : CorpusParser) (snapshotId : String)
    (mode : ParseMode) (snapshot : CorpusSnapshot) (summary : ParseSummary)
    (finish : CorpusWorld) : Prop where
  documents : summary.succeededDocuments + summary.failedDocuments =
    snapshot.documents.length
  pages : summary.succeededPages + summary.failedPages =
    (snapshot.documents.map (·.pageCount)).sum
  stored : ∀ document ∈ snapshot.documents,
    document.documentId ∉ summary.failures.map (·.documentId) →
      ∃ checkpoint, finish.repository.get
          (parser.key snapshotId mode document) = some checkpoint ∧
        parser.Passes document checkpoint

/-- The accounting of a run is truthful exactly when no intact checkpoint that
it reads has other pages than its document. -/
theorem accounting_truthful_iff {modeName : String} {summary : ParseSummary}
    (hashes : parser.platform.HashesCanonically floats)
    (digests : ∀ bytes, parser.platform.sha256Hex bytes ≠ "")
    (unique : ∀ request history response,
      parses request history (.ok response) →
        (Json.object response.rawResponse).UniqueKeys)
    (known : parser.snapshot snapshotId = .ok snapshot)
    (named : snapshot.snapshotId = snapshotId)
    (ids : (snapshot.documents.map (·.documentId)).Nodup)
    (keeps : KeepsIntact parser.platform snapshotId others)
    (selected : ParseMode.ofString modeName = .ok mode)
    (executed : (parser.parseCorpus snapshotId modeName resume).Executes
      (CorpusWorld.Interfered others parses) start events (.ok summary)
      finish) :
    TruthfulAccounting parser snapshotId mode snapshot summary finish ↔
      (resume = true → ∀ document ∈ snapshot.documents, ∀ checkpoint,
        ReadsIntact parser snapshotId mode document events checkpoint →
          checkpoint.expectedPages = document.pageCount) := by
  obtain ⟨documents, pages, outcomes⟩ := document_outcome hashes digests
    unique known named ids keeps selected executed
  constructor
  · intro truthful resumed document member checkpoint read
    cases outcomes document member with
    | kept _ succeeded held _ only =>
        obtain rfl := only checkpoint read
        obtain ⟨other, held', passes⟩ :=
          truthful.stored document member succeeded
        obtain rfl := Option.some.inj (held.symm.trans held')
        exact (of_decide_eq_true passes.matching).2.1
    | parsed _ _ _ unread => exact absurd read (unread resumed checkpoint)
    | failed _ unread => exact absurd read (unread resumed checkpoint)
  · intro agree
    refine ⟨documents, pages, fun document member succeeded => ?_⟩
    cases outcomes document member with
    | @kept checkpoint resumed _ held right _ =>
        refine ⟨checkpoint, held, ?_⟩
        rcases right with passes | read
        · exact passes
        · refine ⟨read.2, ?_⟩
          have pages := agree resumed document member checkpoint read
          have key := ParseRepository.key_of_get held
          have source := congrArg CheckpointKey.sourceSha256 key
          have model := congrArg CheckpointKey.providerModelId key
          have version := congrArg CheckpointKey.providerModelVersion key
          exact decide_eq_true ⟨source, pages, model, version⟩
    | @parsed checkpoint _ held passes _ => exact ⟨checkpoint, held, passes⟩
    | failed failure _ => exact absurd failure succeeded

end Reads

/-! ## Stored checkpoints of the sample document -/

/-- A success with the mappings of so many pages. -/
def storedCheckpoint (pages : ℕ) : ParseCheckpoint :=
  { snapshotId := "snapshot"
    documentId := "long"
    sourceSha256 := "hash"
    expectedPages := pages
    providerModelId := "model"
    providerModelVersion := "model"
    mode := .standard
    status := .succeeded
    rawResponse := some [("elements", .array [])]
    rawResponseHash :=
      (digestPlatform.canonicalJsonHash
        (.object [("elements", .array [])])).toOption
    markdown := ""
    html := ""
    elements := []
    pageMappings := (pageRange pages).map fun page => pageMapping page [] none
    latencyMs := 0
    costUsd := 0 }

def storedWorld (pages : ℕ) : CorpusWorld :=
  { repository := ParseRepository.empty.put (storedCheckpoint pages) }

/-- The sample parser with an authorization. -/
def authorizedParser (planHash : String) : CorpusParser :=
  { digestParser with confirmedPlanHash := some planHash }

section Authorized

variable {planHash snapshotId : String} {snapshot : CorpusSnapshot}
  {mode : ParseMode} {resume : Bool}

private theorem planDocuments_authorized (documents : List DocumentRecord) :
    (authorizedParser planHash).planDocuments snapshotId mode resume
        documents =
      digestParser.planDocuments snapshotId mode resume documents := by
  induction documents with
  | nil => rfl
  | cons document documents induction =>
      rw [CorpusParser.planDocuments, CorpusParser.planDocuments, induction]
      rfl

private theorem requireStandardParity_authorized
    (documents : List DocumentRecord) :
    (authorizedParser planHash).requireStandardParity snapshotId documents =
      digestParser.requireStandardParity snapshotId documents := by
  induction documents with
  | nil => rfl
  | cons document documents induction =>
      rw [CorpusParser.requireStandardParity,
        CorpusParser.requireStandardParity, induction]
      rfl

/-- The authorization does not change the plan. -/
private theorem plan_authorized (modeName : String) :
    (authorizedParser planHash).plan snapshotId modeName resume =
      digestParser.plan snapshotId modeName resume := by
  have parity : (authorizedParser planHash).requireParity =
      digestParser.requireParity := by
    funext snapshot mode
    cases mode with
    | standard => rfl
    | enhanced => exact requireStandardParity_authorized snapshot.documents
  unfold CorpusParser.plan
  simp only [planDocuments_authorized, parity]
  rfl

private theorem parseDocuments_authorized (items : List PlannedDocument)
    (tally : ParseTally) :
    (authorizedParser planHash).parseDocuments snapshotId snapshot mode resume
        items tally =
      digestParser.parseDocuments snapshotId snapshot mode resume items
        tally := by
  induction items generalizing tally with
  | nil => rfl
  | cons item items induction =>
      rw [CorpusParser.parseDocuments, CorpusParser.parseDocuments]
      simp only [induction]
      rfl

end Authorized

/-- A gateway whose calls are cancelled. -/
def Cancels (_ : ParseRequest) (_ : GatewayHistory)
    (outcome : Except PyException ParsedDocument) : Prop :=
  outcome = .error .cancelled

/-- A run without another writer. -/
def StoredRuns (planHash : String) (pages : ℕ) (events : List CorpusEvent)
    (summary : ParseSummary) (finish : CorpusWorld) : Prop :=
  ((authorizedParser planHash).parseCorpus "snapshot" "standard"
    true).Executes
    (CorpusWorld.Interfered (· = ·) Cancels) (storedWorld pages) events
    (.ok summary) finish

def storedPlan (pages : ℕ) :=
  execute (corpusReplies (raisingParse .cancelled))
    (digestParser.plan "snapshot" "standard" true) (storedWorld pages)

def storedLoop (pages : ℕ) (items : List PlannedDocument) :=
  execute (corpusReplies (raisingParse .cancelled))
    (digestParser.parseDocuments "snapshot" longSnapshot .standard true items
      { dynamicCacheHits := (items.filter (·.cacheHit)).length
        dynamicCachedPages := ((items.filter (·.cacheHit)).map
          (·.pages)).sum }) (storedPlan pages).2.2

private theorem storedRuns {pages : ℕ} {plan : ParsePlan} {tally : ParseTally}
    (planned : (storedPlan pages).2.1 = .ok plan)
    (standard : plan.mode = .standard)
    (affordable : 0 < plan.postRunRemainingBudgetUsd)
    (looped : (storedLoop pages plan.documents).2.1 = .ok tally) :
    StoredRuns plan.planHash pages ((storedPlan pages).1 ++
      ⟨.now, .ok (0 : ℤ)⟩ :: (storedLoop pages plan.documents).1)
      (CorpusParser.summarize plan tally)
      (storedLoop pages plan.documents).2.2 := by
  have sound : ∀ (state : CorpusWorld) (op : CorpusOp),
      CorpusWorld.Interfered (· = ·) Cancels state op
        (corpusReplies (raisingParse .cancelled) state op).1
        (corpusReplies (raisingParse .cancelled) state op).2 :=
    fun state op => ⟨state.repository, rfl,
      performs_corpusReplies (fun _ => rfl) state op⟩
  have planning : ((authorizedParser plan.planHash).plan "snapshot"
      "standard" true).Executes (CorpusWorld.Interfered (· = ·) Cancels)
      (storedWorld pages) (storedPlan pages).1 (.ok plan)
      (storedPlan pages).2.2 := by
    rw [plan_authorized, ← planned]
    exact executes_execute sound _ _
  have looping : ((authorizedParser plan.planHash).parseDocuments "snapshot"
      longSnapshot plan.mode true plan.documents
      { dynamicCacheHits := (plan.documents.filter (·.cacheHit)).length
        dynamicCachedPages := ((plan.documents.filter (·.cacheHit)).map
          (·.pages)).sum }).Executes
      (CorpusWorld.Interfered (· = ·) Cancels) (storedPlan pages).2.2
      (storedLoop pages plan.documents).1 (.ok tally)
      (storedLoop pages plan.documents).2.2 := by
    rw [parseDocuments_authorized, standard, ← looped]
    exact executes_execute sound _ _
  have known : (authorizedParser plan.planHash).snapshot "snapshot" =
      .ok longSnapshot := rfl
  exact parseCorpus_runs planning (sound _ .now) rfl rfl affordable known
    looping

/-- The document is a success by a checkpoint of 100 pages. -/
theorem stale_checkpoint_counted :
    ∃ planHash events summary finish,
      StoredRuns planHash 100 events summary finish ∧
      summary.succeededDocuments = 1 ∧ summary.failures = [] ∧
      ¬TruthfulAccounting (authorizedParser planHash) "snapshot" .standard
        longSnapshot summary finish := by
  have planned : ∃ plan ∈ (storedPlan 100).2.1.toOption,
      plan.mode = .standard ∧ 0 < plan.postRunRemainingBudgetUsd ∧
        plan.documents = [⟨"long", "hash", 101, false, 0, 0⟩] := by
    decide +kernel
  obtain ⟨plan, found, standard, affordable, documents⟩ := planned
  have looped : ∃ tally ∈ (storedLoop 100
      [⟨"long", "hash", 101, false, 0, 0⟩]).2.1.toOption,
      tally.dynamicCacheHits = 1 ∧ tally.newSuccesses = 0 ∧
        tally.failures = [] := by
    decide +kernel
  obtain ⟨tally, ended, hits, successes, failures⟩ := looped
  rw [← documents] at ended
  refine ⟨_, _, _, _, storedRuns (toOption_eq_some.mp found) standard
    affordable (toOption_eq_some.mp ended), ?_, failures, fun truthful => ?_⟩
  · rw [CorpusParser.summarize]
    dsimp only
    rw [hits, successes]
  · have unfailed : longDocument.documentId ∉ (CorpusParser.summarize plan
        tally).failures.map (·.documentId) := by
      simp [CorpusParser.summarize, failures]
    obtain ⟨checkpoint, held, passes⟩ :=
      truthful.stored longDocument List.mem_cons_self unfailed
    have stale : ∀ checkpoint ∈ (storedLoop 100
        [⟨"long", "hash", 101, false, 0, 0⟩]).2.2.repository.get
          (digestParser.key "snapshot" .standard longDocument),
        checkpoint.expectedPages ≠ longDocument.pageCount := by
      decide +kernel
    rw [← documents] at stale
    exact stale checkpoint held (of_decide_eq_true passes.matching).2.1

/-- The pages of what a run reads for the sample document. -/
private def readPages (events : List CorpusEvent) : List ℕ :=
  events.filterMap fun event =>
    match event with
    | ⟨.get _, .ok (some checkpoint)⟩ => some checkpoint.expectedPages
    | _ => none

theorem matching_checkpoint_counted :
    ∃ planHash events summary finish,
      StoredRuns planHash 101 events summary finish ∧
      TruthfulAccounting (authorizedParser planHash) "snapshot" .standard
        longSnapshot summary finish := by
  have planned : ∃ plan ∈ (storedPlan 101).2.1.toOption,
      plan.mode = .standard ∧ 0 < plan.postRunRemainingBudgetUsd ∧
        plan.documents = [⟨"long", "hash", 101, true, 0, 0⟩] := by
    decide +kernel
  obtain ⟨plan, found, standard, affordable, documents⟩ := planned
  have looped : (storedLoop 101
      [⟨"long", "hash", 101, true, 0, 0⟩]).2.1.toOption.isSome = true := by
    decide +kernel
  rw [← documents] at looped
  obtain ⟨tally, ended⟩ := Option.isSome_iff_exists.mp looped
  have executed := storedRuns (toOption_eq_some.mp found) standard affordable
    (toOption_eq_some.mp ended)
  have silent : ∀ request history response,
      Cancels request history (.ok response) →
        (Json.object response.rawResponse).UniqueKeys := by
    intro request history response called
    cases called
  have alone : KeepsIntact digestPlatform "snapshot" (· = ·) := by
    rintro before after key checkpoint rfl - held -
    exact held
  have known : (authorizedParser plan.planHash).snapshot "snapshot" =
      .ok longSnapshot := rfl
  have ids : (longSnapshot.documents.map (·.documentId)).Nodup :=
    List.nodup_singleton _
  refine ⟨_, _, _, _, executed, (accounting_truthful_iff digestPlatform_hashes
    digestPlatform_digests silent known rfl ids alone rfl executed).mpr ?_⟩
  intro _ document member checkpoint read
  obtain rfl := List.mem_singleton.mp member
  have planPages : ∀ pages ∈ readPages (storedPlan 101).1,
      pages = longDocument.pageCount := by
    decide +kernel
  have loopPages : ∀ pages ∈ readPages (storedLoop 101
      [⟨"long", "hash", 101, true, 0, 0⟩]).1,
      pages = longDocument.pageCount := by
    decide +kernel
  rw [← documents] at loopPages
  rcases List.mem_append.mp read.1 with planning | later
  · exact planPages _ (List.mem_filterMap.mpr ⟨_, planning, rfl⟩)
  · rcases List.mem_cons.mp later with same | looping
    · cases same
    · exact loopPages _ (List.mem_filterMap.mpr ⟨_, looping, rfl⟩)

end RagBench
