import RagBench.Core.JsonReader
import RagBench.Ingestion.BlockSources
import RagBench.Related

/-!
# Normalization keeps the evidence

Every element of a parsed document is in exactly one block, the blocks are in
the order of the pages and of the elements, and a page without elements is one
empty block.
-/

namespace RagBench

variable {tools : NormalizerTools} {input : NormalizerInput}
  {staging : Staging}

/-! ## Sources of the pages -/

theorem page_of_mem_pageSources {items : List Staged} {page : ℕ}
    {source : BlockSource} (member : source ∈ pageSources items page) :
    source.page = page := by
  unfold pageSources at member
  split at member
  · rw [List.mem_singleton.mp member]
  · obtain ⟨item, -, rfl⟩ := List.mem_map.mp member
    rfl

theorem items_of_pageSources (items : List Staged) (page : ℕ) :
    (pageSources items page).filterMap BlockSource.item =
      items.filter fun item => item.page = (page : ℤ) := by
  unfold pageSources
  split
  · next nothing => rw [nothing]; rfl
  · simp [List.filterMap_map]

private theorem mem_pageSources {items : List Staged} {page : ℕ}
    {source : BlockSource} {item : Staged}
    (member : source ∈ pageSources items page) (found : source.item = some item) :
    item ∈ items ∧ item.page = page := by
  have listed : item ∈ (pageSources items page).filterMap BlockSource.item :=
    List.mem_filterMap.mpr ⟨source, member, found⟩
  rw [items_of_pageSources] at listed
  simpa using listed

theorem mem_blockSources {items : List Staged} {pages : ℤ}
    {source : BlockSource} :
    source ∈ blockSources items pages ↔
      (1 ≤ source.page ∧ (source.page : ℤ) ≤ pages) ∧
        source ∈ pageSources items source.page := by
  unfold blockSources
  rw [List.mem_flatMap]
  constructor
  · rintro ⟨page, inside, member⟩
    obtain rfl := page_of_mem_pageSources member
    rw [List.mem_range'_1] at inside
    exact ⟨by omega, member⟩
  · rintro ⟨inside, member⟩
    refine ⟨source.page, ?_, member⟩
    rw [List.mem_range'_1]
    omega

/-- The sources of one page. -/
theorem filter_blockSources (items : List Staged) {pages : ℤ} {page : ℕ}
    (low : 1 ≤ page) (high : (page : ℤ) ≤ pages) :
    (blockSources items pages).filter (fun source => source.page = page) =
      pageSources items page := by
  have inside : page ∈ List.range' 1 pages.toNat := by
    rw [List.mem_range'_1]
    omega
  have distinct : (List.range' 1 pages.toNat).Nodup := List.nodup_range'
  obtain ⟨before, after, split⟩ := List.append_of_mem inside
  rw [split, List.nodup_middle, List.nodup_cons, List.mem_append] at distinct
  have absent : ∀ part : List ℕ, page ∉ part →
      (part.flatMap (pageSources items)).filter
        (fun source => source.page = page) = [] := by
    intro part missing
    rw [List.filter_eq_nil_iff]
    intro source member
    obtain ⟨other, found, listed⟩ := List.mem_flatMap.mp member
    have paged := page_of_mem_pageSources listed
    rw [decide_eq_true_eq]
    rintro rfl
    exact missing (paged ▸ found)
  have here : (pageSources items page).filter
      (fun source => source.page = page) = pageSources items page := by
    rw [List.filter_eq_self]
    intro source member
    exact decide_eq_true (page_of_mem_pageSources member)
  rw [blockSources, split, List.flatMap_append, List.flatMap_cons,
    List.filter_append, List.filter_append, here,
    absent before fun member => distinct.1 (.inl member),
    absent after fun member => distinct.1 (.inr member)]
  simp

namespace IsStaged

variable (staged : IsStaged tools input staging)

include staged

/-- Each staged item has one source. -/
theorem items_perm :
    ((blockSources staging.staged input.pages).filterMap
      BlockSource.item).Perm staging.staged := by
  have pages : (List.range' 1 input.pages.toNat).map (Nat.cast (R := ℤ))
      |>.Nodup :=
    List.Nodup.map Nat.cast_injective List.nodup_range'
  have inside : ∀ item ∈ staging.staged,
      item.page ∈ (List.range' 1 input.pages.toNat).map Nat.cast := by
    intro item member
    obtain ⟨low, high⟩ := staged.within member
    refine List.mem_map.mpr ⟨item.page.toNat, ?_, by omega⟩
    rw [List.mem_range'_1]
    omega
  refine List.Perm.trans (List.Perm.of_eq ?_)
    (flatMap_filter_perm Staged.page pages inside)
  rw [blockSources, List.filterMap_flatMap, List.flatMap_map]
  exact List.flatMap_congr fun page _ => items_of_pageSources _ page

theorem indexes_perm :
    ((blockSources staging.staged input.pages).flatMap
      BlockSource.indexes).Perm (List.range input.elements.length) := by
  have flat : (blockSources staging.staged input.pages).flatMap
      BlockSource.indexes =
        ((blockSources staging.staged input.pages).filterMap
          BlockSource.item).map Staged.index := by
    rw [List.map_filterMap, List.filterMap_eq_flatMap_toList]
    refine List.flatMap_congr fun source _ => ?_
    unfold BlockSource.indexes
    cases source.item <;> rfl
  rw [flat, ← staged.indexes]
  exact staged.items_perm.map _

theorem indexes_nodup :
    (blockSources staging.staged input.pages).Pairwise fun left right =>
      left.indexes.Disjoint right.indexes := by
  have distinct := staged.indexes_perm.nodup_iff.mpr List.nodup_range
  exact (List.nodup_flatMap.mp distinct).2

/-- By page, and on a page by element. -/
theorem sources_ordered :
    (blockSources staging.staged input.pages).Pairwise fun left right =>
      left.page < right.page ∨ left.page = right.page ∧
        ∃ early late, left.indexes = [early] ∧ right.indexes = [late] ∧
          early < late := by
  refine List.pairwise_flatMap.mpr ⟨fun page _ => ?_, ?_⟩
  · unfold pageSources
    split
    · exact List.pairwise_singleton _ _
    · refine List.pairwise_map.mpr ?_
      refine (staged.ascending.sublist List.filter_sublist).imp ?_
      intro left right less
      exact .inr ⟨rfl, _, _, rfl, rfl, less⟩
  · have pages : (List.range' 1 input.pages.toNat).Pairwise (· < ·) :=
      List.pairwise_lt_range'
    refine pages.imp ?_
    intro early late less left member right member'
    rw [page_of_mem_pageSources member, page_of_mem_pageSources member']
    exact .inl less

end IsStaged

/-! ## Identities -/

/-- What the blocks of a document are named by. -/
def blockIdentities (input : NormalizerInput) : Set Json :=
  {identity | (∃ page : ℕ, identity = emptyPageIdentity input page) ∨
    ∃ index content, identity = elementIdentity input index content}

/-- No two of these hash alike. -/
def IdentitiesApart (tools : NormalizerTools) (input : NormalizerInput) :
    Prop :=
  Set.InjOn tools.canonicalJsonHash (blockIdentities input)

theorem BlockSource.identity_mem (source : BlockSource) :
    source.identity input ∈ blockIdentities input := by
  unfold BlockSource.identity
  cases source.item with
  | none => exact .inl ⟨_, rfl⟩
  | some item => exact .inr ⟨_, _, rfl⟩

/-- An identity says which element or which page it is of. -/
theorem BlockSource.indexes_of_identity {left right : BlockSource}
    (same : left.identity input = right.identity input) :
    left.indexes = right.indexes ∧
      (left.indexes = [] → left.page = right.page) := by
  obtain ⟨page, item⟩ := left
  obtain ⟨page', item'⟩ := right
  cases item <;> cases item' <;>
    simp_all [BlockSource.identity, BlockSource.indexes, elementIdentity,
      emptyPageIdentity]

theorem IsStaged.identities_ne (staged : IsStaged tools input staging) :
    (blockSources staging.staged input.pages).Pairwise fun left right =>
      left.identity input ≠ right.identity input := by
  refine (staged.sources_ordered.and staged.indexes_nodup).imp ?_
  rintro left right ⟨ordered, apart⟩ same
  obtain ⟨indexes, page⟩ := BlockSource.indexes_of_identity same
  rcases ordered with less | ⟨-, early, late, first, -, -⟩
  · cases listed : left.indexes with
    | nil => exact less.ne (page listed)
    | cons index rest =>
        rw [← indexes, listed] at apart
        exact apart List.mem_cons_self List.mem_cons_self
  · rw [← indexes, first] at apart
    exact apart List.mem_cons_self List.mem_cons_self

/-! ## The blocks -/

/-- The pages of the blocks with the kind and the content of a block. -/
def occurrences (blocks : List NormalizedBlock) (block : NormalizedBlock) :
    List ℕ :=
  (blocks.filter fun other => other.blockKind = block.blockKind ∧
    other.content = block.content).map fun other => other.page

/-- A page of the document without elements. -/
def IsEmptyPage (tools : NormalizerTools) (input : NormalizerInput)
    (page : ℕ) : Prop :=
  ∀ element ∈ input.elements, stagedPage tools element ≠ .ok page

/-- The blocks have all the evidence of the document, and nothing else. -/
structure KeepsElements (tools : NormalizerTools) (input : NormalizerInput)
    (blocks : List NormalizedBlock) : Prop where
  /-- Each element is in one block. -/
  once : (blocks.flatMap fun block => block.sourceElementIndexes).Perm
    (List.range input.elements.length)
  unchanged : ∀ block ∈ blocks, ∀ index ∈ block.sourceElementIndexes,
    ∃ element, input.elements[index]? = some element ∧
      stagedPage tools element = .ok block.page ∧
      block.blockKind = elementKind tools element ∧
      block.sourceContent = elementRaw tools element ∧
      block.content = normalizedText tools block.sourceContent
  ordered : blocks.Pairwise fun left right =>
    left.page < right.page ∨ left.page = right.page ∧
      ∃ early late, left.sourceElementIndexes = [early] ∧
        right.sourceElementIndexes = [late] ∧ early < late
  within : ∀ block ∈ blocks, 1 ≤ block.page ∧ (block.page : ℤ) ≤ input.pages
  covered : ∀ page : ℕ, 1 ≤ page → (page : ℤ) ≤ input.pages →
    ∃ block ∈ blocks, block.page = page
  emptyPages : ∀ page : ℕ, 1 ≤ page → (page : ℤ) ≤ input.pages →
    ((∃ block, blocks.filter (fun block => block.page = page) = [block] ∧
      block.blockKind = .emptyPage) ↔ IsEmptyPage tools input page)
  /-- No other block is the block of an empty page. -/
  emptyKind : ∀ block ∈ blocks,
    block.blockKind = .emptyPage ↔ block.sourceElementIndexes = []
  distinct : (blocks.map fun block => block.blockId).Nodup
  boilerplate : ∀ block ∈ blocks, block.isBoilerplate = true ↔
    (block.blockKind = .header ∨ block.blockKind = .footer) ∧
      block.content ≠ "" ∧ (occurrences blocks block).Nodup ∧
        3 ≤ (occurrences blocks block).length

theorem elementKind_ne_emptyPage (element : JsonObject) :
    elementKind tools element ≠ .emptyPage := by
  have listed : ∀ entry ∈ blockKinds, entry.2 ≠ BlockKind.emptyPage := by
    decide
  unfold elementKind
  dsimp only
  cases found : Dict.lookup _ blockKinds with
  | none => simp
  | some kind =>
      exact listed _ ((Dict.lookup_eq_some_iff (by decide)).mp found)

namespace IsStaged

variable (staged : IsStaged tools input staging)

include staged

theorem isEmptyPage_iff (page : ℕ) :
    IsEmptyPage tools input page ↔
      staging.staged.filter (fun item => item.page = (page : ℤ)) = [] := by
  rw [List.filter_eq_nil_iff]
  constructor
  · intro empty item member there
    obtain ⟨element, found, isOf⟩ := staged.element_of_mem member
    refine empty element (List.mem_of_getElem? found) ?_
    rw [isOf.page, of_decide_eq_true there]
  · intro nothing element member paged
    obtain ⟨index, inside, rfl⟩ := List.getElem_of_mem member
    have numbered : (input.elements[index], index) ∈
        input.elements.zipIdx := by
      rw [List.mem_zipIdx_iff_getElem?, List.getElem?_eq_getElem inside]
    obtain ⟨item, found, related⟩ :=
      exists_right_of_forall₂ staged.related numbered
    have isOf := stageElement_spec related
    refine nothing item found (decide_eq_true ?_)
    exact Except.ok.inj (isOf.page.symm.trans paged)

/-- Only the source of an empty page has the kind of one. -/
theorem item_eq_none_iff {source : BlockSource}
    (member : source ∈ blockSources staging.staged input.pages) :
    source.item = none ↔ source.kind = .emptyPage := by
  obtain ⟨page, item⟩ := source
  cases item with
  | none => exact ⟨fun _ => rfl, fun _ => rfl⟩
  | some item =>
      obtain ⟨inside, -⟩ := mem_pageSources (mem_blockSources.mp member).2 rfl
      obtain ⟨element, -, isOf⟩ := staged.element_of_mem inside
      refine ⟨fun absent => (by cases absent), fun kind => ?_⟩
      exact absurd (isOf.kind.symm.trans kind)
        (elementKind_ne_emptyPage element)

variable {blocks : List NormalizedBlock} (emits : Emits tools input staging []
    (blockSources staging.staged input.pages) blocks)

include emits

omit staged in
/-- The block of a staged item, or of an empty page. -/
theorem source_of_block {block : NormalizedBlock} (member : block ∈ blocks) :
    ∃ source ∈ blockSources staging.staged input.pages,
      IsBlockOf tools input staging source block.sectionPath block :=
  exists_left_of_forall₂ emits.related member

theorem once :
    (blocks.flatMap fun block => block.sourceElementIndexes).Perm
      (List.range input.elements.length) := by
  have same := map_eq_of_forall₂ BlockSource.indexes
    (fun block : NormalizedBlock => block.sourceElementIndexes)
    (fun _ _ isBlock => isBlock.indexes) emits.related
  rw [List.flatMap_def, same, ← List.flatMap_def]
  exact staged.indexes_perm

theorem unchanged {block : NormalizedBlock} (member : block ∈ blocks)
    {index : ℕ} (carried : index ∈ block.sourceElementIndexes) :
    ∃ element, input.elements[index]? = some element ∧
      stagedPage tools element = .ok block.page ∧
      block.blockKind = elementKind tools element ∧
      block.sourceContent = elementRaw tools element ∧
      block.content = normalizedText tools block.sourceContent := by
  obtain ⟨source, found, isBlock⟩ := source_of_block emits member
  obtain ⟨page, item⟩ := source
  rw [isBlock.indexes] at carried
  cases item with
  | none => cases carried
  | some item =>
      obtain rfl := List.mem_singleton.mp carried
      obtain ⟨inside, paged⟩ :=
        mem_pageSources (mem_blockSources.mp found).2 rfl
      obtain ⟨element, there, isOf⟩ := staged.element_of_mem inside
      refine ⟨element, there, ?_, ?_, ?_, ?_⟩
      · rw [isBlock.page, isOf.page, paged]
      · rw [isBlock.kind, ← isOf.kind]
        rfl
      · rw [isBlock.raw, ← isOf.raw]
        rfl
      · rw [isBlock.raw, isBlock.content]
        exact isOf.content

theorem ordered :
    blocks.Pairwise fun left right =>
      left.page < right.page ∨ left.page = right.page ∧
        ∃ early late, left.sourceElementIndexes = [early] ∧
          right.sourceElementIndexes = [late] ∧ early < late := by
  refine pairwise_of_forall₂ ?_ emits.related staged.sources_ordered
  intro source source' block block' before isBlock isBlock'
  rw [isBlock.page, isBlock'.page, isBlock.indexes, isBlock'.indexes]
  exact before

theorem distinct (apart : IdentitiesApart tools input) :
    (blocks.map fun block => block.blockId).Nodup := by
  refine List.pairwise_map.mpr
    (pairwise_of_forall₂ ?_ emits.related staged.identities_ne)
  intro source source' block block' different isBlock isBlock' same
  refine different (apart source.identity_mem source'.identity_mem ?_)
  rw [isBlock.identity, isBlock'.identity, same]

omit staged in
/-- The blocks of one page. -/
theorem pageBlocks {page : ℕ} (low : 1 ≤ page)
    (high : (page : ℤ) ≤ input.pages) :
    List.Forall₂ (fun source block =>
        IsBlockOf tools input staging source block.sectionPath block)
      (pageSources staging.staged page)
      (blocks.filter fun block => block.page = page) := by
  rw [← filter_blockSources staging.staged low high]
  refine filter_of_forall₂ _ _ ?_ emits.related
  intro source block isBlock
  rw [isBlock.page]

omit staged in
theorem covered {page : ℕ} (low : 1 ≤ page)
    (high : (page : ℤ) ≤ input.pages) :
    ∃ block ∈ blocks, block.page = page := by
  have related := pageBlocks emits low high
  have some : pageSources staging.staged page ≠ [] := by
    unfold pageSources
    split
    · exact List.cons_ne_nil _ _
    · next found => simpa using found
  obtain ⟨source, member⟩ := List.exists_mem_of_ne_nil _ some
  obtain ⟨block, found, -⟩ := exists_right_of_forall₂ related member
  rw [List.mem_filter] at found
  exact ⟨block, found.1, of_decide_eq_true found.2⟩

theorem emptyPages {page : ℕ} (low : 1 ≤ page)
    (high : (page : ℤ) ≤ input.pages) :
    (∃ block, blocks.filter (fun block => block.page = page) = [block] ∧
      block.blockKind = .emptyPage) ↔ IsEmptyPage tools input page := by
  have related := pageBlocks emits low high
  rw [staged.isEmptyPage_iff]
  constructor
  · rintro ⟨block, single, kind⟩
    rw [single] at related
    cases sources : pageSources staging.staged page with
    | nil => simp [sources] at related
    | cons source rest =>
        rw [sources] at related
        cases related with
        | cons isBlock _ =>
            have member : source ∈ blockSources staging.staged input.pages := by
              have listed : source ∈ pageSources staging.staged page := by
                simp [sources]
              have paged := page_of_mem_pageSources listed
              subst paged
              exact mem_blockSources.mpr ⟨⟨low, high⟩, listed⟩
            have absent := (staged.item_eq_none_iff member).mpr
              (isBlock.kind.symm.trans kind)
            unfold pageSources at sources
            split at sources
            · assumption
            · next found _ =>
                cases listed : staging.staged.filter
                  fun item => item.page = (page : ℤ) with
                | nil => rfl
                | cons item items =>
                    rw [listed, List.map_cons] at sources
                    obtain ⟨rfl, -⟩ := List.cons.inj sources
                    cases absent
  · intro nothing
    unfold pageSources at related
    rw [nothing] at related
    cases listed : blocks.filter fun block => block.page = page with
    | nil => simp [listed] at related
    | cons block rest =>
        rw [listed] at related
        cases related with
        | cons isBlock others =>
            cases others
            exact ⟨block, rfl, isBlock.kind⟩

theorem emptyKind {block : NormalizedBlock} (member : block ∈ blocks) :
    block.blockKind = .emptyPage ↔ block.sourceElementIndexes = [] := by
  obtain ⟨source, found, isBlock⟩ := source_of_block emits member
  rw [isBlock.kind, ← staged.item_eq_none_iff found, isBlock.indexes]
  unfold BlockSource.indexes
  cases source.item <;> simp

end IsStaged

/-! ## Boilerplate -/

/-- The sources with a kind and a content have the pages of the items. -/
private theorem pages_of_sources (key : BoilerplateKey)
    (kind : key.1 = .header ∨ key.1 = .footer) (filled : key.2 ≠ "")
    (sources : List BlockSource)
    (paged : ∀ source ∈ sources, ∀ item, source.item = some item →
      item.page = source.page) :
    ((sources.filter fun source =>
        source.kind = key.1 ∧ source.content = key.2).map
          fun source => (source.page : ℤ)) =
      furniturePages (sources.filterMap BlockSource.item) key := by
  induction sources with
  | nil => rfl
  | cons source sources induction =>
      obtain ⟨here, later⟩ := List.forall_mem_cons.mp paged
      obtain ⟨page, item⟩ := source
      cases item with
      | none =>
          have other : BlockKind.emptyPage ≠ key.1 := by
            rcases kind with same | same <;> simp [same]
          rw [List.filterMap_cons, ← induction later,
            List.filter_cons_of_neg (by simp [BlockSource.kind, other])]
      | some item =>
          have same : item.isFurniture ∧ (item.kind, item.content) = key ↔
              item.kind = key.1 ∧ item.content = key.2 := by
            constructor
            · rintro ⟨-, rfl⟩
              exact ⟨rfl, rfl⟩
            · rintro ⟨sameKind, sameContent⟩
              refine ⟨⟨?_, ?_⟩, Prod.ext sameKind sameContent⟩
              · rwa [sameKind]
              · rwa [sameContent]
          have tail := induction later
          unfold furniturePages at tail ⊢
          simp only [List.filterMap_cons]
          by_cases wanted : item.kind = key.1 ∧ item.content = key.2
          · rw [List.filter_cons_of_pos (by exact decide_eq_true wanted),
              List.filter_cons_of_pos
                (by exact decide_eq_true (same.mpr wanted)),
              List.map_cons, List.map_cons, tail, here item rfl]
          · have dropped := mt same.mp wanted
            rw [List.filter_cons_of_neg
                (by exact fun kept => wanted (of_decide_eq_true kept)),
              List.filter_cons_of_neg
                (by exact fun kept => dropped (of_decide_eq_true kept)), tail]

namespace IsStaged

variable (staged : IsStaged tools input staging) {blocks : List NormalizedBlock}
  (emits : Emits tools input staging []
    (blockSources staging.staged input.pages) blocks)

include staged emits

/-- A header or footer occurs where its blocks are. -/
theorem occurrences_perm {block : NormalizedBlock}
    (kind : block.blockKind = .header ∨ block.blockKind = .footer)
    (filled : block.content ≠ "") :
    ((occurrences blocks block).map (Nat.cast (R := ℤ))).Perm
      (furniturePages staging.staged (block.blockKind, block.content)) := by
  have related := filter_of_forall₂
    (fun source => source.kind = block.blockKind ∧
      source.content = block.content)
    (fun other : NormalizedBlock =>
      other.blockKind = block.blockKind ∧ other.content = block.content)
    (fun source other isBlock => by rw [isBlock.kind, isBlock.content])
    emits.related
  have pages := map_eq_of_forall₂ (fun source => (source.page : ℤ))
    (fun other : NormalizedBlock => (other.page : ℤ))
    (fun _ _ isBlock => by rw [isBlock.page]) related
  have items := pages_of_sources (block.blockKind, block.content) kind filled
    (blockSources staging.staged input.pages)
    fun source member item found =>
      (mem_pageSources (mem_blockSources.mp member).2 found).2
  rw [occurrences, List.map_map]
  refine List.Perm.trans (List.Perm.of_eq (pages.trans items)) ?_
  exact (staged.items_perm.filter _).map _

theorem boilerplate {block : NormalizedBlock} (member : block ∈ blocks) :
    block.isBoilerplate = true ↔
      (block.blockKind = .header ∨ block.blockKind = .footer) ∧
        block.content ≠ "" ∧ (occurrences blocks block).Nodup ∧
          3 ≤ (occurrences blocks block).length := by
  obtain ⟨source, found, isBlock⟩ := source_of_block emits member
  have repeated := isRepeated_iff staging.staged
    (block.blockKind, block.content)
  rw [← staged.recorded] at repeated
  by_cases furniture :
      (block.blockKind = .header ∨ block.blockKind = .footer) ∧
        block.content ≠ ""
  · obtain ⟨kind, filled⟩ := furniture
    have same := staged.occurrences_perm emits kind filled
    have marked : block.isBoilerplate = staging.isRepeated
        (block.blockKind, block.content) := by
      obtain ⟨page, item⟩ := source
      rw [isBlock.boilerplate, isBlock.kind, isBlock.content]
      cases item with
      | none => exact absurd isBlock.content filled
      | some item => rfl
    rw [marked, repeated, ← same.nodup_iff, ← same.length_eq,
      List.length_map, List.nodup_map_iff Nat.cast_injective]
    simp only [kind, ne_eq, filled, not_false_eq_true, true_and]
  · have plain : furniturePages staging.staged
        (block.blockKind, block.content) = [] := by
      rw [furniturePages, List.map_eq_nil_iff, List.filter_eq_nil_iff]
      intro item _ counted
      obtain ⟨isFurniture, key⟩ := of_decide_eq_true counted
      obtain ⟨sameKind, sameContent⟩ := Prod.mk.inj key
      unfold Staged.isFurniture at isFurniture
      rw [sameKind, sameContent] at isFurniture
      exact furniture isFurniture
    rw [plain] at repeated
    have unmarked : block.isBoilerplate = false := by
      obtain ⟨page, item⟩ := source
      rw [isBlock.boilerplate]
      rw [isBlock.kind, isBlock.content] at repeated
      cases item with
      | none => rfl
      | some item =>
          refine Bool.eq_false_iff.mpr fun marked => ?_
          obtain ⟨-, many⟩ := repeated.mp marked
          exact absurd many (by decide)
    simp only [unmarked, Bool.false_eq_true, false_iff]
    rintro ⟨kind, filled, -⟩
    exact furniture ⟨kind, filled⟩

end IsStaged

/-- Normalization loses and invents nothing. -/
theorem normalize_keepsElements {parsed : Parsed}
    {blocks : List NormalizedBlock} (read : parsed.read tools = .ok input)
    (normalized : normalize tools parsed = .ok blocks)
    (apart : IdentitiesApart tools input) :
    KeepsElements tools input blocks := by
  rw [normalize_eq read] at normalized
  obtain ⟨staging, staged, emits⟩ := normalizeInput_spec normalized
  exact {
    once := staged.once emits
    unchanged := fun block member index carried =>
      staged.unchanged emits member carried
    ordered := staged.ordered emits
    within := fun block member => by
      obtain ⟨source, found, isBlock⟩ :=
        IsStaged.source_of_block emits member
      rw [isBlock.page]
      exact (mem_blockSources.mp found).1
    covered := fun page low high => IsStaged.covered emits low high
    emptyPages := fun page low high => staged.emptyPages emits low high
    emptyKind := fun block member => staged.emptyKind emits member
    distinct := staged.distinct emits apart
    boilerplate := fun block member => staged.boilerplate emits member }

/-- A hash that returns the text of a value. -/
theorem identitiesApart_of_text (floats : FloatText)
    (hashes : ∀ value, tools.canonicalJsonHash value =
      .ok (String.ofList (value.text floats))) :
    IdentitiesApart tools input := by
  have unique : ∀ identity ∈ blockIdentities input, ∃ entries,
      identity = .object entries ∧ (entries.map Prod.fst).Nodup ∧
        identity.isCompliant = true := by
    rintro identity (⟨page, rfl⟩ | ⟨index, content, rfl⟩)
    · exact ⟨_, rfl, by simp, rfl⟩
    · exact ⟨_, rfl, by simp, rfl⟩
  intro left member right member' same
  rw [hashes, hashes] at same
  obtain ⟨entries, shape, keys, compliant⟩ := unique left member
  obtain ⟨entries', shape', keys', compliant'⟩ := unique right member'
  have equal := Json.same_of_text_eq compliant compliant'
    (String.ofList_inj.mp (Except.ok.inj same))
  rw [shape, shape'] at equal
  have lookups := equal.lookup keys keys'
  rcases member with ⟨page, rfl⟩ | ⟨index, content, rfl⟩ <;>
    rcases member' with ⟨page', rfl⟩ | ⟨index', content', rfl⟩
  · cases shape
    cases shape'
    have pages := lookups "empty_page"
    simp only [Dict.lookup, String.reduceEq, if_true, if_false] at pages
    cases pages with
    | some pages => cases pages; rfl
  · cases shape
    cases shape'
    have pages := lookups "empty_page"
    simp only [Dict.lookup, String.reduceEq, if_true, if_false] at pages
    cases pages
  · cases shape
    cases shape'
    have pages := lookups "empty_page"
    simp only [Dict.lookup, String.reduceEq, if_true, if_false] at pages
    cases pages
  · cases shape
    cases shape'
    have indexes := lookups "element"
    have contents := lookups "content"
    simp only [Dict.lookup, String.reduceEq, if_true, if_false]
      at indexes contents
    cases indexes with
    | some indexes =>
        cases contents with
        | some contents => cases indexes; cases contents; rfl

/-! ## A report -/

def reportTools : NormalizerTools :=
  { samplePlatform with
    canonicalJsonHash := fun value =>
      .ok (String.ofList (value.text sampleFloats))
    lower := id
    floats := sampleFloats
    reprText := String.toList
    nfc := id }

/-- Elements with a page, a category and a content. -/
def reportElements (elements : List (ℕ × String × String)) :
    List JsonObject :=
  elements.map fun (page, category, content) =>
    [("page", .int page), ("category", .str category), ("content", .str content)]

def reportMapping (pages : ℕ) (elements : List (ℕ × String × String)) :
    JsonObject :=
  [("parse_snapshot_id", .str "parse-1"), ("document_id", .str "doc-1"),
    ("source_sha256", .str "0"), ("expected_pages", .int pages),
    ("elements", .array ((reportElements elements).map .object))]

def reportInput (pages : ℕ) (elements : List (ℕ × String × String)) :
    NormalizerInput :=
  { snapshot := "parse-1"
    document := "doc-1"
    sourceHash := "0"
    pages := pages
    elements := reportElements elements }

theorem dictItems_map_object (items : List JsonObject) :
    dictItems (items.map .object) = items := by
  simp [dictItems, List.filterMap_map]

theorem read_reportMapping (pages : ℕ) (elements : List (ℕ × String × String)) :
    Parsed.read reportTools (.mapping (reportMapping pages elements)) =
      .ok (reportInput pages elements) := by
  have items : iterateDicts (Json.get? (reportMapping pages elements)
      "elements") = .ok (reportElements elements) := by
    change Except.ok (dictItems _) = _
    rw [dictItems_map_object]
  have count : ((getOrNone (reportMapping pages elements)
      "expected_pages").orElse (.int 0)).toInt reportTools.parseInt =
        .ok (pages : ℤ) := by
    change Json.toInt _ (Json.orElse (.int pages) (.int 0)) = _
    unfold Json.orElse
    split_ifs with some
    · rfl
    · have none : (pages : ℤ) = 0 := by simpa [Json.truthy] using some
      rw [none]
      rfl
  unfold Parsed.read
  dsimp only
  rw [items, count]
  rfl

/-- Three pages with a header, and an empty one. -/
def reportParts : List (ℕ × String × String) :=
  [(1, "header", "보고서"), (2, "header", "보고서"), (1, "text", "본문"),
    (3, "header", "보고서")]

/-- What the loop over the sources makes of a report. -/
theorem exists_normalize_report {γ : Type}
    (view : List NormalizedBlock → γ) (pages : ℕ)
    (parts : List (ℕ × String × String)) (result : γ)
    (computed : ((do
      let staging ← stageElements reportTools pages (reportElements parts)
      let emission ← (blockSources staging.staged pages).foldlM
        (emitSource reportTools (reportInput pages parts) staging)
          { blocks := [], sectionParts := [] }
      return emission.blocks : Except PyException
        (List NormalizedBlock)).toOption.map view) = some result) :
    ∃ blocks, normalize reportTools (.mapping (reportMapping pages parts)) =
      .ok blocks ∧ view blocks = result := by
  obtain ⟨blocks, found, same⟩ := Option.map_eq_some_iff.mp computed
  refine ⟨blocks, ?_, same⟩
  rw [normalize_eq (read_reportMapping pages parts), normalizeInput_eq]
  exact toOption_eq_some.mp found

theorem normalize_keepsElements_report : ∃ blocks,
    normalize reportTools (.mapping (reportMapping 4 reportParts)) =
      .ok blocks ∧
    (blocks.map fun block => block.isBoilerplate) =
      [true, false, true, true, false] ∧
    KeepsElements reportTools (reportInput 4 reportParts) blocks := by
  obtain ⟨blocks, normalized, marked⟩ := exists_normalize_report
    (fun blocks => blocks.map fun block => block.isBoilerplate)
    4 reportParts [true, false, true, true, false] (by decide +kernel)
  exact ⟨blocks, normalized, marked, normalize_keepsElements
    (read_reportMapping 4 reportParts) normalized
    (identitiesApart_of_text sampleFloats fun _ => rfl)⟩

end RagBench
