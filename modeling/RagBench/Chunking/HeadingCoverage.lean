import RagBench.Chunking.Heading

/-!
# What heading-aware chunking checks

Each group of one section is checked on its own, after the groups before it.
Blocks of several sources are therefore rejected only when they meet in one
group.
-/

namespace RagBench

/-- All blocks have one document, one snapshot and one source. -/
def OneSource (blocks : List DocumentBlock) : Prop :=
  ∃ identity, ∀ block ∈ blocks,
    (block.documentId, block.parseSnapshotId, block.sourceSha256) = identity

theorem OneSource.subset {blocks part : List DocumentBlock}
    (oneSource : OneSource blocks) (inside : ∀ block ∈ part, block ∈ blocks) :
    OneSource part := by
  obtain ⟨identity, same⟩ := oneSource
  exact ⟨identity, fun block member => same block (inside block member)⟩

def sectionText (group : List DocumentBlock) : String :=
  "\n\n".intercalate (group.map DocumentBlock.content)

/-- The number of tokens of the section. -/
def sectionTokens (tools : ChunkTools) (group : List DocumentBlock) : ℕ :=
  match tools.encoding.encode (sectionText group) with
  | .ok tokens => tokens.length
  | .error _ => 0

def totalTokens (tools : ChunkTools) (groups : List (List DocumentBlock)) : ℕ :=
  (groups.map (sectionTokens tools)).sum

private theorem mem_usable_of_group {blocks group : List DocumentBlock}
    (member : group ∈ sectionGroups (usable blocks)) {block : DocumentBlock}
    (inside : block ∈ group) : block ∈ usable blocks := by
  rw [← (sectionGroups_grouped (usable blocks)).flattened]
  exact List.mem_flatten.mpr ⟨group, member, inside⟩

/-- Every group of the grouping loop consists of usable blocks. -/
theorem usable_group {blocks group : List DocumentBlock}
    (member : group ∈ sectionGroups (usable blocks)) :
    usable group = group :=
  List.filter_eq_self.mpr fun _ inside =>
    (List.mem_filter.mp (mem_usable_of_group member inside)).2

theorem group_subset {blocks group : List DocumentBlock}
    (member : group ∈ sectionGroups (usable blocks)) :
    ∀ block ∈ group, block ∈ blocks := fun _ inside =>
  (List.mem_filter.mp (mem_usable_of_group member inside)).1

namespace HeadingAwareChunker

variable (tools : ChunkTools) (chunker : HeadingAwareChunker)

/-- Every token window of the section has a character of some block. -/
def SectionMeets (group : List DocumentBlock) : Prop :=
  ∀ fixed, FixedChunker.make tools chunker.targetSize chunker.overlap =
    .ok fixed → fixed.EveryWindowMeets tools group

/-- The identifiers of the candidates of a section do not collide. -/
def SectionCollisionFree (group : List DocumentBlock) : Prop :=
  ∀ block ∈ group, ∀ fixed windows,
    FixedChunker.make tools chunker.targetSize chunker.overlap = .ok fixed →
    fixed.windowsOf tools group = .ok windows →
      FixedChunker.CollisionFree tools 24 ((windows.zipIdx 0).map fun found =>
        FixedChunker.identity block.documentId found.2 found.1)

/-- The chunks that a section contributes, before they are moved. -/
structure Candidates (group : List DocumentBlock)
    (candidates : List ChunkRecord) : Prop where
  split : ∃ fixed,
    FixedChunker.make tools chunker.targetSize chunker.overlap = .ok fixed ∧
      fixed.split tools group = .ok candidates
  encoded : ∃ tokens, tools.encoding.encode (sectionText group) = .ok tokens
  covered : ∀ token, token < sectionTokens tools group →
    ∃ candidate ∈ candidates,
      candidate.tokenStart ≤ token ∧ token < candidate.tokenEnd
  bounded : ∀ candidate ∈ candidates,
    candidate.tokenEnd ≤ sectionTokens tools group
  sources : ∀ candidate ∈ candidates, ∃ sources : List DocumentBlock,
    sources.Sublist group ∧
      candidate.sourceBlockIds = sources.map DocumentBlock.blockId

/-- What a section of usable blocks does to the run. -/
theorem section_split {group : List DocumentBlock} {tokens : List ℕ}
    {pieces : List (List UInt8)} (nonempty : group ≠ [])
    (allUsable : usable group = group)
    (tokenization : Tokenization tools.encoding (sectionText group) tokens
      pieces)
    (collisionFree : SectionCollisionFree tools chunker group) :
    (OneSource group → SectionMeets tools chunker group →
      ∃ candidates, Candidates tools chunker group candidates) ∧
    (OneSource group → ¬SectionMeets tools chunker group →
      ∃ fixed message,
        FixedChunker.make tools chunker.targetSize chunker.overlap =
          .ok fixed ∧
        fixed.split tools group = .error (.runtimeError message)) ∧
    (¬OneSource group → ∃ fixed message,
      FixedChunker.make tools chunker.targetSize chunker.overlap = .ok fixed ∧
      fixed.split tools group = .error (.valueError message)) := by
  obtain ⟨fixed, made, _, _⟩ := FixedChunker.make_ok tools chunker.valid
  have text : (sourceText group).1 = sectionText group := by
    rw [sourceText_text, allUsable]
    rfl
  have joined : Tokenization tools.encoding (sourceText group).1 tokens
      pieces := text ▸ tokenization
  have count : sectionTokens tools group = pieces.length := by
    rw [sectionTokens, tokenization.encode]
    exact tokenization.length_eq
  refine ⟨?_, ?_, ?_⟩
  · rintro ⟨⟨document, parseSnapshot, source⟩, same⟩ meets
    have free : ∀ windows, fixed.windowsOf tools group = .ok windows →
        FixedChunker.CollisionFree tools 24 ((windows.zipIdx 0).map
          fun found => FixedChunker.identity document found.2 found.1) := by
      intro windows found
      obtain ⟨block, member⟩ := List.exists_mem_of_ne_nil group nonempty
      have named : block.documentId = document :=
        congrArg Prod.fst (same block member)
      rw [← named]
      exact collisionFree block member fixed windows made found
    obtain ⟨candidates, success, covered⟩ :=
      FixedChunker.covered_of_everyWindowMeets nonempty same joined
        (meets fixed made) free
    refine ⟨candidates, {
      split := ⟨fixed, made, success⟩
      encoded := ⟨tokens, tokenization.encode⟩
      covered := count ▸ covered.covered
      bounded := count ▸ covered.bounded
      sources := ?_ }⟩
    intro candidate member
    obtain ⟨charStart, charEnd, _, _, ids, _⟩ :=
      covered.sources candidate member
    refine ⟨_, ?_, ids⟩
    have within : (sourceBlocks (sourceText group).2 charStart charEnd).Sublist
        ((sourceText group).2.map Span.block) :=
      List.filter_sublist.map _
    rwa [(sourceText_spans group).1, allUsable] at within
  · rintro ⟨⟨document, parseSnapshot, source⟩, same⟩ bare
    cases result : fixed.split tools group with
    | error error =>
        obtain ⟨message, rfl⟩ :=
          FixedChunker.split_error nonempty same joined result
        exact ⟨fixed, message, made, result⟩
    | ok records =>
        refine absurd (fun other made' => ?_) bare
        rw [made] at made'
        cases made'
        exact FixedChunker.everyWindowMeets_of_split nonempty same joined
          result
  · intro mixed
    exact ⟨fixed, _, made, FixedChunker.split_mixed nonempty mixed⟩

/-! ## Moving the candidates -/

/-- A candidate at its place in the token stream of all sections. -/
structure Moved (tokenBase : ℕ) (sectionPath : List String)
    (located : ChunkRecord × ℕ) (record : ChunkRecord) : Prop where
  ordinal : record.ordinal = located.2
  tokenStart : record.tokenStart = tokenBase + located.1.tokenStart
  tokenEnd : record.tokenEnd = tokenBase + located.1.tokenEnd
  sectionPath_eq : record.sectionPath = sectionPath
  sourceBlockIds : record.sourceBlockIds = located.1.sourceBlockIds

private theorem strings_serializable (texts : List String) :
    PyValue.ItemsSerializable (texts.map .str) := by
  induction texts with
  | nil => trivial
  | cons text texts induction => exact ⟨trivial, induction⟩

theorem chunk_moved (ordinal tokenBase : ℕ) (sectionPath : List String)
    (candidate : ChunkRecord) :
    ∃ record,
      chunk tools chunker ordinal tokenBase sectionPath candidate =
        .ok record ∧
      Moved tokenBase sectionPath (candidate, ordinal) record := by
  let identity : PyValue := .dict
    [("document", .str candidate.documentId),
      ("ordinal", .int ordinal),
      ("token_start", .int ↑(tokenBase + candidate.tokenStart)),
      ("token_end", .int ↑(tokenBase + candidate.tokenEnd)),
      ("content", .str candidate.content),
      ("blocks", .tuple (candidate.sourceBlockIds.map .str))]
  have serializable : identity.Serializable :=
    ⟨trivial, trivial, trivial, trivial, trivial, strings_serializable _,
      trivial⟩
  obtain ⟨json, canonical⟩ :=
    @PyValue.canonicalize_ok tools.floats identity serializable
  obtain ⟨hash, hashed⟩ : ∃ hash,
      tools.canonicalJsonHash identity = .ok hash :=
    ⟨_, bind_eq_ok.mpr ⟨_, bind_eq_ok.mpr ⟨json, canonical, rfl⟩, rfl⟩⟩
  let fields : ChunkFields :=
    { chunkId := candidate.parseSnapshotId ++ ":" ++ chunker.strategyHash ++
        ":" ++ slice hash 0 24
      documentId := candidate.documentId
      parseSnapshotId := candidate.parseSnapshotId
      strategy := chunker.strategy
      strategyHash := chunker.strategyHash
      ordinal := ordinal
      pageStart := candidate.pageStart
      pageEnd := candidate.pageEnd
      sectionPath := sectionPath
      content := candidate.content
      tokenCount := candidate.tokenCount
      tokenStart := tokenBase + candidate.tokenStart
      tokenEnd := tokenBase + candidate.tokenEnd
      sourceBlockIds := candidate.sourceBlockIds }
  have validTokens : 0 ≤ fields.tokenCount ∧
      fields.tokenStart ≤ fields.tokenEnd :=
    ⟨candidate.tokens.1, Nat.add_le_add_left candidate.tokens.2 _⟩
  obtain ⟨record, built, same⟩ :=
    @ChunkFields.validate_ok fields candidate.pages validTokens
  refine ⟨record, bind_eq_ok.mpr ⟨hash, hashed, built⟩, ?_⟩
  exact {
    ordinal := by rw [same]
    tokenStart := by rw [same]
    tokenEnd := by rw [same]
    sectionPath_eq := by rw [same]
    sourceBlockIds := by rw [same] }

theorem chunks_moved (tokenBase : ℕ) (sectionPath : List String)
    (candidates : List ChunkRecord) (ordinal : ℕ) :
    ∃ records,
      chunks tools chunker tokenBase sectionPath ordinal candidates =
        .ok records ∧
      List.Forall₂ (Moved tokenBase sectionPath) (candidates.zipIdx ordinal)
        records := by
  induction candidates generalizing ordinal with
  | nil => exact ⟨[], rfl, .nil⟩
  | cons candidate candidates induction =>
      obtain ⟨record, built, moved⟩ :=
        chunk_moved tools chunker ordinal tokenBase sectionPath candidate
      obtain ⟨records, found, rest⟩ := induction (ordinal + 1)
      refine ⟨record :: records, ?_, .cons moved rest⟩
      exact bind_eq_ok.mpr
        ⟨record, built, bind_eq_ok.mpr ⟨records, found, rfl⟩⟩

/-! ## The run over the sections -/

/-- What the chunks of some sections promise, after `output` chunks and
`tokenBase` tokens. -/
structure Continues (groups : List (List DocumentBlock))
    (output tokenBase : ℕ) (records : List ChunkRecord) : Prop where
  ordinals : records.map (·.ordinal) = List.range' output records.length
  covered : ∀ token, tokenBase ≤ token →
    token < tokenBase + totalTokens tools groups → ∃ record ∈ records,
      record.tokenStart ≤ token ∧ token < record.tokenEnd
  bounded : ∀ record ∈ records,
    record.tokenEnd ≤ tokenBase + totalTokens tools groups
  sources : ∀ record ∈ records, ∃ group ∈ groups,
    ∃ sources : List DocumentBlock, sources.Sublist group ∧
      record.sourceBlockIds = sources.map DocumentBlock.blockId ∧
      some record.sectionPath = group.head?.map DocumentBlock.sectionPath

private theorem continues_cons {group : List DocumentBlock}
    {groups : List (List DocumentBlock)} {candidates records rest :
      List ChunkRecord} {output tokenBase : ℕ} {sectionPath : List String}
    (path : group.head?.map DocumentBlock.sectionPath = some sectionPath)
    (first : Candidates tools chunker group candidates)
    (moved : List.Forall₂ (Moved tokenBase sectionPath)
      (candidates.zipIdx output) records)
    (later : Continues tools groups (output + records.length)
      (tokenBase + sectionTokens tools group) rest) :
    Continues tools (group :: groups) output tokenBase (records ++ rest) := by
  have total : totalTokens tools (group :: groups) =
      sectionTokens tools group + totalTokens tools groups := rfl
  have numbers := map_eq_of_forall₂ Prod.snd (fun record => record.ordinal)
    (fun _ _ holds => holds.ordinal) moved
  rw [List.zipIdx_map_snd] at numbers
  have size := moved.length_eq
  rw [List.length_zipIdx] at size
  exact {
    ordinals := by
      rw [List.map_append, numbers, later.ordinals, List.length_append, size,
        List.range'_append_1]
    covered := by
      intro token after inside
      rw [total] at inside
      by_cases here : token < tokenBase + sectionTokens tools group
      · obtain ⟨candidate, member, starts, ends⟩ :=
          first.covered (token - tokenBase) (by omega)
        obtain ⟨position, found⟩ := List.getElem?_of_mem member
        obtain ⟨record, recorded, holds⟩ := exists_right_of_forall₂ moved
          (List.mk_add_mem_zipIdx_iff_getElem?.mpr found)
        refine ⟨record, List.mem_append_left _ recorded, ?_⟩
        rw [holds.tokenStart, holds.tokenEnd]
        dsimp only
        omega
      · obtain ⟨record, recorded, bounds⟩ :=
          later.covered token (by omega) (by omega)
        exact ⟨record, List.mem_append_right _ recorded, bounds⟩
    bounded := by
      intro record member
      rw [total]
      rcases List.mem_append.mp member with here | after
      · obtain ⟨located, found, holds⟩ := exists_left_of_forall₂ moved here
        have limit := first.bounded located.1
          (List.fst_mem_of_mem_zipIdx found)
        rw [holds.tokenEnd]
        omega
      · have limit := later.bounded record after
        omega
    sources := by
      intro record member
      rcases List.mem_append.mp member with here | after
      · obtain ⟨located, found, holds⟩ := exists_left_of_forall₂ moved here
        obtain ⟨sources, within, ids⟩ := first.sources located.1
          (List.fst_mem_of_mem_zipIdx found)
        refine ⟨group, List.mem_cons_self, sources, within, ?_, ?_⟩
        · rw [holds.sourceBlockIds, ids]
        · rw [holds.sectionPath_eq, path]
      · obtain ⟨other, found, rest⟩ := later.sources record after
        exact ⟨other, List.mem_cons_of_mem _ found, rest⟩ }

/-- Sections that can all be split are. -/
theorem splitGroups_ok (groups : List (List DocumentBlock))
    (nonempty : ∀ group ∈ groups, group ≠ [])
    (splits : ∀ group ∈ groups, ∃ candidates,
      Candidates tools chunker group candidates) (output tokenBase : ℕ) :
    ∃ records,
      splitGroups tools chunker output tokenBase groups = .ok records ∧
      Continues tools groups output tokenBase records := by
  induction groups generalizing output tokenBase with
  | nil =>
      refine ⟨[], rfl, ?_⟩
      exact {
        ordinals := rfl
        covered := fun token after inside => by
          simp [totalTokens] at inside
          omega
        bounded := fun record member => by cases member
        sources := fun record member => by cases member }
  | cons group groups induction =>
      obtain ⟨candidates, first⟩ := splits group List.mem_cons_self
      obtain ⟨fixed, made, success⟩ := first.split
      obtain ⟨tokens, encoded⟩ := first.encoded
      have count : sectionTokens tools group = tokens.length := by
        rw [sectionTokens, encoded]
      obtain ⟨block, blocks, rfl⟩ :=
        List.exists_cons_of_ne_nil (nonempty group List.mem_cons_self)
      obtain ⟨records, found, moved⟩ := chunks_moved tools chunker tokenBase
        block.sectionPath candidates output
      obtain ⟨rest, restFound, later⟩ :=
        induction (fun other member =>
            nonempty other (List.mem_cons_of_mem _ member))
          (fun other member => splits other (List.mem_cons_of_mem _ member))
          (output + records.length) (tokenBase + tokens.length)
      refine ⟨records ++ rest, ?_, ?_⟩
      · refine bind_eq_ok.mpr ⟨fixed, made, bind_eq_ok.mpr ⟨candidates, success,
          bind_eq_ok.mpr ⟨records, found, bind_eq_ok.mpr ⟨tokens, encoded,
            bind_eq_ok.mpr ⟨rest, restFound, rfl⟩⟩⟩⟩⟩
      · rw [← count] at later
        exact continues_cons tools chunker rfl first moved later

/-- The first section that cannot be split decides. -/
theorem splitGroups_error {error : PyException} {group : List DocumentBlock}
    {fixed : FixedChunker}
    (made : FixedChunker.make tools chunker.targetSize chunker.overlap =
      .ok fixed) (failed : fixed.split tools group = .error error)
    (earlier later : List (List DocumentBlock))
    (splits : ∀ other ∈ earlier, ∃ candidates,
      Candidates tools chunker other candidates) (output tokenBase : ℕ) :
    splitGroups tools chunker output tokenBase
      (earlier ++ group :: later) = .error error := by
  induction earlier generalizing output tokenBase with
  | nil =>
      exact bind_eq_error.mpr (.inr ⟨fixed, made,
        bind_eq_error.mpr (.inl failed)⟩)
  | cons other earlier induction =>
      obtain ⟨candidates, first⟩ := splits other List.mem_cons_self
      obtain ⟨fixed', made', success⟩ := first.split
      obtain ⟨tokens, encoded⟩ := first.encoded
      obtain ⟨records, found, _⟩ := chunks_moved tools chunker tokenBase
        ((other.head?.map DocumentBlock.sectionPath).getD []) candidates output
      have rest := induction
        (fun item member => splits item (List.mem_cons_of_mem _ member))
        (output + records.length) (tokenBase + tokens.length)
      exact bind_eq_error.mpr (.inr ⟨fixed', made', bind_eq_error.mpr
        (.inr ⟨candidates, success, bind_eq_error.mpr (.inr ⟨records, found,
          bind_eq_error.mpr (.inr ⟨tokens, encoded,
            bind_eq_error.mpr (.inl rest)⟩)⟩)⟩)⟩)

/-! ## Mixed sources -/

/-- What chunking promises about blocks of one source. -/
structure SectionsCovered (blocks : List DocumentBlock)
    (records : List ChunkRecord) : Prop where
  oneRun : ∀ record ∈ records,
    ∃ before run after sources : List DocumentBlock,
      usable blocks = before ++ run ++ after ∧
      (∀ block ∈ run, block.sectionPath = record.sectionPath) ∧
      sources.Sublist run ∧
      record.sourceBlockIds = sources.map DocumentBlock.blockId
  ordinals : records.map (·.ordinal) = List.range records.length
  covered : ∀ token,
    token < totalTokens tools (sectionGroups (usable blocks)) →
    ∃ record ∈ records, record.tokenStart ≤ token ∧ token < record.tokenEnd
  bounded : ∀ record ∈ records,
    record.tokenEnd ≤ totalTokens tools (sectionGroups (usable blocks))

/-- Foreign blocks are rejected, and the others are chunked by section. -/
def NeverMixes (blocks : List DocumentBlock) : Prop :=
  (¬OneSource blocks → ∃ error,
    chunker.split tools blocks = .error error ∧
      error.isInstance .valueError) ∧
  (OneSource blocks → ∃ records, chunker.split tools blocks = .ok records ∧
    SectionsCovered tools blocks records)

private theorem sectionsCovered_of_continues {blocks : List DocumentBlock}
    {records : List ChunkRecord}
    (continues : Continues tools (sectionGroups (usable blocks)) 0 0
      records) : SectionsCovered tools blocks records := by
  have grouped := sectionGroups_grouped (usable blocks)
  exact {
    oneRun := by
      intro record member
      obtain ⟨group, found, sources, within, ids, path⟩ :=
        continues.sources record member
      obtain ⟨before, after, split⟩ := List.append_of_mem found
      obtain ⟨first, head, firstPath⟩ :=
        Option.map_eq_some_iff.mp path.symm
      refine ⟨before.flatten, group, after.flatten, sources, ?_, ?_, within,
        ids⟩
      · rw [← grouped.flattened, split]
        simp
      · intro block inside
        rw [← firstPath]
        exact grouped.section_eq group found block inside first
          (List.mem_of_mem_head? head)
    ordinals := by
      rw [continues.ordinals, List.range_eq_range']
    covered := by
      intro token inside
      exact continues.covered token (Nat.zero_le _) (by omega)
    bounded := by
      intro record member
      have limit := continues.bounded record member
      omega }

end HeadingAwareChunker

section Mixed

variable {tools : ChunkTools} {chunker : HeadingAwareChunker}
  {blocks : List DocumentBlock}
  (tokenized : ∀ group ∈ sectionGroups (usable blocks), ∃ tokens pieces,
    Tokenization tools.encoding (sectionText group) tokens pieces)
  (collisionFree : ∀ group ∈ sectionGroups (usable blocks),
    chunker.SectionCollisionFree tools group)

include tokenized collisionFree

/-- A section of one source whose windows all have a block is split. -/
private theorem candidates_of_good {group : List DocumentBlock}
    (member : group ∈ sectionGroups (usable blocks))
    (oneSource : OneSource group)
    (meets : chunker.SectionMeets tools group) :
    ∃ candidates, chunker.Candidates tools group candidates := by
  obtain ⟨tokens, pieces, tokenization⟩ := tokenized group member
  exact (HeadingAwareChunker.section_split tools chunker
    ((sectionGroups_grouped _).nonempty group member) (usable_group member)
    tokenization (collisionFree group member)).1 oneSource meets

/-- Another section ends the run, with an error of its own kind. -/
private theorem split_error_of_bad {earlier later : List (List DocumentBlock)}
    {group : List DocumentBlock}
    (split : sectionGroups (usable blocks) = earlier ++ group :: later)
    (good : ∀ other ∈ earlier,
      OneSource other ∧ chunker.SectionMeets tools other)
    (bad : ¬(OneSource group ∧ chunker.SectionMeets tools group)) :
    ∃ error, chunker.split tools blocks = .error error ∧
      (error.isInstance .valueError ↔ ¬OneSource group) := by
  have member : group ∈ sectionGroups (usable blocks) := by
    rw [split]
    simp
  obtain ⟨tokens, pieces, tokenization⟩ := tokenized group member
  obtain ⟨_, internal, rejected⟩ :=
    HeadingAwareChunker.section_split tools chunker
      ((sectionGroups_grouped _).nonempty group member) (usable_group member)
      tokenization (collisionFree group member)
  have splits : ∀ other ∈ earlier, ∃ candidates,
      chunker.Candidates tools other candidates := by
    intro other found
    have inside : other ∈ sectionGroups (usable blocks) := by
      rw [split]
      exact List.mem_append_left _ found
    exact candidates_of_good tokenized collisionFree inside
      (good other found).1 (good other found).2
  by_cases oneSource : OneSource group
  · obtain ⟨fixed, message, made, failed⟩ :=
      internal oneSource fun meets => bad ⟨oneSource, meets⟩
    refine ⟨.runtimeError message, ?_, ?_⟩
    · rw [HeadingAwareChunker.split, split]
      exact HeadingAwareChunker.splitGroups_error tools chunker made failed
        earlier later splits 0 0
    · have otherKind : (PyException.runtimeError message).isInstance
          .valueError = false := rfl
      rw [otherKind]
      exact ⟨fun wrong => (by cases wrong),
        fun mixed => absurd oneSource mixed⟩
  · obtain ⟨fixed, message, made, failed⟩ := rejected oneSource
    refine ⟨.valueError message, ?_, ?_⟩
    · rw [HeadingAwareChunker.split, split]
      exact HeadingAwareChunker.splitGroups_error tools chunker made failed
        earlier later splits 0 0
    · exact ⟨fun _ => oneSource, fun _ => rfl⟩

end Mixed

/-- Chunking keeps its promises exactly when, for blocks of one source, every
token window has a block, and otherwise a section mixes sources and no section
before it fails for another reason. -/
theorem heading_chunking_never_mixes_iff (tools : ChunkTools)
    (chunker : HeadingAwareChunker) (blocks : List DocumentBlock)
    (tokenized : ∀ group ∈ sectionGroups (usable blocks), ∃ tokens pieces,
      Tokenization tools.encoding (sectionText group) tokens pieces)
    (collisionFree : ∀ group ∈ sectionGroups (usable blocks),
      chunker.SectionCollisionFree tools group) :
    chunker.NeverMixes tools blocks ↔
      (OneSource blocks → ∀ group ∈ sectionGroups (usable blocks),
        chunker.SectionMeets tools group) ∧
      (¬OneSource blocks → ∃ earlier group later,
        sectionGroups (usable blocks) = earlier ++ group :: later ∧
          ¬OneSource group ∧
          ∀ other ∈ earlier, chunker.SectionMeets tools other) := by
  let good := fun group : List DocumentBlock =>
    OneSource group ∧ chunker.SectionMeets tools group
  have allGood : (∀ group ∈ sectionGroups (usable blocks), good group) →
      ∃ records, chunker.split tools blocks = .ok records ∧
        HeadingAwareChunker.SectionsCovered tools blocks records := by
    intro all
    obtain ⟨records, success, continues⟩ :=
      HeadingAwareChunker.splitGroups_ok tools chunker
        (sectionGroups (usable blocks)) (sectionGroups_grouped _).nonempty
        (fun group member => candidates_of_good tokenized collisionFree member
          (all group member).1 (all group member).2) 0 0
    exact ⟨records, success,
      HeadingAwareChunker.sectionsCovered_of_continues tools continues⟩
  constructor
  · rintro ⟨rejects, covers⟩
    constructor
    · intro oneSource
      obtain ⟨records, success, _⟩ := covers oneSource
      rcases forall_or_first_failing good (sectionGroups (usable blocks)) with
        all | ⟨earlier, group, later, split, bad, before⟩
      · exact fun group member => (all group member).2
      · obtain ⟨error, failed, _⟩ :=
          split_error_of_bad tokenized collisionFree split before bad
        rw [success] at failed
        cases failed
    · intro mixed
      obtain ⟨error, failed, valueError⟩ := rejects mixed
      rcases forall_or_first_failing good (sectionGroups (usable blocks)) with
        all | ⟨earlier, group, later, split, bad, before⟩
      · obtain ⟨records, success, _⟩ := allGood all
        rw [success] at failed
        cases failed
      · obtain ⟨error', failed', kind⟩ :=
          split_error_of_bad tokenized collisionFree split before bad
        rw [failed] at failed'
        cases failed'
        exact ⟨earlier, group, later, split, kind.mp valueError,
          fun other member => (before other member).2⟩
  · rintro ⟨meets, mixes⟩
    constructor
    · intro mixed
      obtain ⟨earlier, group, later, split, foreign, early⟩ := mixes mixed
      -- The first section that fails does so because it mixes sources.
      rcases forall_or_first_failing good (earlier ++ [group]) with
        all | ⟨first, bad, rest, shape, fails, before⟩
      · exact absurd (all group (by simp)).1 foreign
      · have badMixes : ¬OneSource bad := by
          have member : bad ∈ earlier ++ [group] := by simp [shape]
          rcases List.mem_append.mp member with among | last
          · exact fun single => fails ⟨single, early bad among⟩
          · rwa [List.mem_singleton.mp last]
        have whole : sectionGroups (usable blocks) =
            first ++ bad :: (rest ++ later) := by
          rw [split, List.append_cons, shape]
          simp
        obtain ⟨error, failed, kind⟩ :=
          split_error_of_bad tokenized collisionFree whole before fails
        exact ⟨error, failed, kind.mpr badMixes⟩
    · intro oneSource
      exact allGood fun group member =>
        ⟨oneSource.subset (group_subset member), meets oneSource group member⟩

/-- A token for each character. -/
def charEncoding : Encoding where
  encode := fun text => .ok (text.toList.map Char.toNat)
  decodeSingleTokenBytes := fun token =>
    .ok (String.utf8EncodeChar (Char.ofNat token))

theorem charTokenization (text : String) :
    Tokenization charEncoding text (text.toList.map Char.toNat)
      (text.toList.map String.utf8EncodeChar) where
  encode := rfl
  decode := by
    rw [mapM_eq_ok, List.forall₂_map_left_iff, List.forall₂_map_right_iff,
      List.forall₂_same]
    intro char _
    exact congrArg (fun same => Except.ok (String.utf8EncodeChar same))
      (Char.ofNat_toNat char)
  nonempty := by
    intro piece member
    obtain ⟨char, _, rfl⟩ := List.mem_map.mp member
    rw [← List.length_pos_iff, String.length_utf8EncodeChar]
    exact Char.utf8Size_pos char
  encoded := by
    rw [utf8, List.flatMap_def]

def charTools : ChunkTools :=
  { letterTools with encoding := charEncoding }

def sectionChunker : HeadingAwareChunker where
  targetSize := 600
  overlap := 100
  strategy := "heading-600-100"
  strategyHash := "strategy"
  valid := by decide

theorem letters_never_mixed :
    sectionChunker.NeverMixes charTools letterBlocks ↔
      (OneSource letterBlocks →
        ∀ group ∈ sectionGroups (usable letterBlocks),
          sectionChunker.SectionMeets charTools group) ∧
      (¬OneSource letterBlocks → ∃ earlier group later,
        sectionGroups (usable letterBlocks) = earlier ++ group :: later ∧
          ¬OneSource group ∧
          ∀ other ∈ earlier, sectionChunker.SectionMeets charTools other) := by
  refine heading_chunking_never_mixes_iff charTools sectionChunker letterBlocks
    (fun group _ => ⟨_, _, charTokenization _⟩) ?_
  intro group member block inside fixed windows made found
  have whole : sectionGroups (usable letterBlocks) = [letterBlocks] := rfl
  rw [whole, List.mem_singleton] at member
  subst member
  obtain ⟨fixed', made', size, overlap⟩ :=
    FixedChunker.make_ok charTools sectionChunker.valid
  rw [made] at made'
  cases made'
  have single : safeTokenWindows charTools.encoding (sourceText letterBlocks).1
      600 100 = .ok [⟨"a\n\nb", 0, 4, 0, 4⟩] := by
    decide +kernel
  rw [FixedChunker.windowsOf, size, overlap] at found
  rw [show sectionChunker.targetSize = 600 from rfl,
    show sectionChunker.overlap = 100 from rfl, single] at found
  cases found
  intro left first right second _ _ _ _ _
  rw [List.mem_singleton.mp first, List.mem_singleton.mp second]

/-- One block each of two documents, under different headings. -/
def foreignBlocks : List DocumentBlock :=
  ["a", "b"].map fun letter =>
    { blockId := "block-" ++ letter
      documentId := "document-" ++ letter
      parseSnapshotId := "snapshot"
      sourceSha256 := "source"
      page := 1
      sectionPath := [letter]
      content := letter
      isBoilerplate := false
      pagePositive := Nat.one_pos
      identified := by simp }

/-- Two documents in one call are chunked without an error. -/
theorem foreign_sections_accepted :
    ¬OneSource foreignBlocks ∧
      (∀ group ∈ sectionGroups (usable foreignBlocks), ∃ tokens pieces,
        Tokenization charTools.encoding (sectionText group) tokens pieces) ∧
      ∃ records, sectionChunker.split charTools foreignBlocks =
        .ok records := by
  refine ⟨?_, fun group _ => ⟨_, _, charTokenization _⟩, ?_⟩
  · rintro ⟨identity, same⟩
    have first := same foreignBlocks[0] (by simp [foreignBlocks])
    have second := same foreignBlocks[1] (by simp [foreignBlocks])
    have equal := congrArg Prod.fst (first.trans second.symm)
    simp [foreignBlocks] at equal
  · have accepted : (sectionChunker.split charTools
        foreignBlocks).toOption.isSome := by
      decide +kernel
    obtain ⟨records, success⟩ := Option.isSome_iff_exists.mp accepted
    exact ⟨records, toOption_eq_some.mp success⟩

end RagBench
