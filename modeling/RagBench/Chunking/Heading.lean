import RagBench.Chunking.FixedCoverage

/-!
# Heading-aware chunks

`HeadingAwareChunker.split` groups the usable blocks by section and lets a
`FixedChunker` split each group.  Ordinals and token positions go on from one
group to the next.
-/

namespace RagBench

/-- One step of the grouping loop. -/
def appendToGroups (groups : List (List DocumentBlock))
    (block : DocumentBlock) : List (List DocumentBlock) :=
  match groups.getLast? with
  | none => [[block]]
  | some group =>
      if group.head?.map DocumentBlock.sectionPath =
          some block.sectionPath then
        groups.dropLast ++ [group ++ [block]]
      else groups ++ [[block]]

def sectionGroups (usable : List DocumentBlock) : List (List DocumentBlock) :=
  usable.foldl appendToGroups []

structure HeadingAwareChunker where
  targetSize : ℤ
  overlap : ℤ
  strategy : String
  strategyHash : String
  valid : 0 ≤ overlap ∧ overlap < targetSize

namespace HeadingAwareChunker

/-- `HeadingAwareChunker(target_size, overlap)`. -/
def make (tools : ChunkTools) (targetSize overlap : ℤ) :
    Except PyException HeadingAwareChunker :=
  if valid : targetSize ≤ 0 ∨ overlap < 0 ∨ targetSize ≤ overlap then
    .error (.valueError
      "target_size must be positive and greater than overlap")
  else do
    let hash ← tools.canonicalJsonHash (.dict
      [("strategy", .str "heading"),
        ("target_size", .int targetSize),
        ("overlap", .int overlap),
        ("tokenizer", tokenizerSnapshot tools)])
    return {
      targetSize := targetSize
      overlap := overlap
      strategy := "heading-" ++ toString targetSize ++ "-" ++ toString overlap
      strategyHash := slice hash 0 16
      valid := sizes_valid valid }

variable (tools : ChunkTools) (chunker : HeadingAwareChunker)

/-- The chunk of a candidate of a group whose tokens begin at `tokenBase`. -/
def chunk (ordinal tokenBase : ℕ) (sectionPath : List String)
    (candidate : ChunkRecord) : Except PyException ChunkRecord := do
  let tokenStart := tokenBase + candidate.tokenStart
  let tokenEnd := tokenBase + candidate.tokenEnd
  let hash ← tools.canonicalJsonHash (.dict
    [("document", .str candidate.documentId),
      ("ordinal", .int ordinal),
      ("token_start", .int tokenStart),
      ("token_end", .int tokenEnd),
      ("content", .str candidate.content),
      ("blocks", .tuple (candidate.sourceBlockIds.map .str))])
  let fields : ChunkFields :=
    { chunkId := candidate.parseSnapshotId ++ ":" ++ chunker.strategyHash ++
        ":" ++ slice hash 0 24
      documentId := candidate.documentId
      parseSnapshotId := candidate.parseSnapshotId
      strategy := chunker.strategy
      strategyHash := chunker.strategyHash
      ordinal := ordinal
      pageStart := candidate.pageStart
      pageEnd := candidate.pageEnd
      sectionPath := sectionPath
      content := candidate.content
      tokenCount := candidate.tokenCount
      tokenStart := tokenStart
      tokenEnd := tokenEnd
      sourceBlockIds := candidate.sourceBlockIds }
  fields.validate

/-- The loop over the candidates of a group. -/
def chunks (tokenBase : ℕ) (sectionPath : List String) (ordinal : ℕ) :
    List ChunkRecord → Except PyException (List ChunkRecord)
  | [] => .ok []
  | candidate :: candidates => do
      let record ←
        chunk tools chunker ordinal tokenBase sectionPath candidate
      let records ←
        chunks tokenBase sectionPath (ordinal + 1) candidates
      return record :: records

/-- The loop over the groups, when `output` chunks are there already. -/
def splitGroups (output tokenBase : ℕ) :
    List (List DocumentBlock) → Except PyException (List ChunkRecord)
  | [] => .ok []
  | group :: groups => do
      let sectionText :=
        "\n\n".intercalate (group.map DocumentBlock.content)
      let fixed ← FixedChunker.make tools chunker.targetSize chunker.overlap
      let candidates ← fixed.split tools group
      let sectionPath := (group.head?.map DocumentBlock.sectionPath).getD []
      let records ←
        chunks tools chunker tokenBase sectionPath output candidates
      let tokens ← tools.encoding.encode sectionText
      let rest ← splitGroups (output + records.length)
        (tokenBase + tokens.length) groups
      return records ++ rest

def split (blocks : List DocumentBlock) :
    Except PyException (List ChunkRecord) :=
  splitGroups tools chunker 0 0 (sectionGroups (usable blocks))

end HeadingAwareChunker

/-! ## The groups -/

/-- What the grouping loop keeps. -/
structure Grouped (blocks : List DocumentBlock)
    (groups : List (List DocumentBlock)) : Prop where
  flattened : groups.flatten = blocks
  nonempty : ∀ group ∈ groups, group ≠ []
  section_eq : ∀ group ∈ groups, ∀ block ∈ group, ∀ other ∈ group,
    block.sectionPath = other.sectionPath

private theorem Grouped.append {blocks : List DocumentBlock}
    {groups : List (List DocumentBlock)} (grouped : Grouped blocks groups)
    (block : DocumentBlock) :
    Grouped (blocks ++ [block]) (appendToGroups groups block) := by
  have opened : Grouped (blocks ++ [block]) (groups ++ [[block]]) := {
    flattened := by simp [grouped.flattened]
    nonempty := by
      intro group member
      rcases List.mem_append.mp member with earlier | last
      · exact grouped.nonempty group earlier
      · rw [List.mem_singleton.mp last]
        exact List.cons_ne_nil _ _
    section_eq := by
      intro group member
      rcases List.mem_append.mp member with earlier | last
      · exact grouped.section_eq group earlier
      · rw [List.mem_singleton.mp last]
        simp }
  unfold appendToGroups
  cases found : groups.getLast? with
  | none =>
      rw [List.getLast?_eq_none_iff.mp found] at opened
      exact opened
  | some group =>
      dsimp only
      split_ifs with same
      · obtain ⟨earlier, rfl⟩ := List.getLast?_eq_some_iff.mp found
        rw [List.dropLast_concat]
        have inside : group ∈ earlier ++ [group] := by simp
        exact {
          flattened := by
            rw [← grouped.flattened]
            simp
          nonempty := by
            intro other member
            rcases List.mem_append.mp member with before | last
            · exact grouped.nonempty other (List.mem_append_left _ before)
            · rw [List.mem_singleton.mp last]
              simp
          section_eq := by
            intro other member
            rcases List.mem_append.mp member with before | last
            · exact grouped.section_eq other (List.mem_append_left _ before)
            · rw [List.mem_singleton.mp last]
              obtain ⟨first, head, path⟩ := Option.map_eq_some_iff.mp same
              have all : ∀ item ∈ group ++ [block],
                  item.sectionPath = block.sectionPath := by
                intro item found
                rcases List.mem_append.mp found with old | new
                · rw [← path]
                  exact grouped.section_eq group inside item old first
                    (List.mem_of_mem_head? head)
                · rw [List.mem_singleton.mp new]
              intro item found item' found'
              rw [all item found, all item' found'] }
      · exact opened

theorem sectionGroups_grouped (blocks : List DocumentBlock) :
    Grouped blocks (sectionGroups blocks) := by
  induction blocks using List.reverseRecOn with
  | nil =>
      exact {
        flattened := rfl
        nonempty := fun _ member => by cases member
        section_eq := fun _ member => by cases member }
  | append_singleton blocks block induction =>
      rw [sectionGroups, List.foldl_append]
      exact induction.append block

end RagBench
