import RagBench.Ingestion.Normalizer

/-!
# What the blocks are built from

Page by page, a block is built from an element of the page, or from the page
itself when it has no elements.  The loops of the normalizer are one loop over
these sources.
-/

namespace RagBench

variable {tools : NormalizerTools} {input : NormalizerInput}
  {staging : Staging}

/-! ## Staging -/

/-- The elements are staged one by one, and recorded in their order. -/
private theorem stage_foldlM {pages : ℤ}
    {elements : List (JsonObject × ℕ)} {start finish : Staging}
    (staged : elements.foldlM (fun staging (element, index) => do
        let item ← stageElement tools pages element index
        return staging.record item) start = .ok finish) :
    ∃ items, List.Forall₂ (fun indexed item =>
        stageElement tools pages indexed.1 indexed.2 = .ok item)
          elements items ∧
      finish = items.foldl Staging.record start := by
  induction elements generalizing start with
  | nil =>
      cases staged
      exact ⟨[], .nil, rfl⟩
  | cons element elements induction =>
      rw [List.foldlM_cons] at staged
      obtain ⟨next, first, staged⟩ := bind_eq_ok.mp staged
      obtain ⟨item, found, recorded⟩ := bind_eq_ok.mp first
      cases recorded
      obtain ⟨items, related, rfl⟩ := induction staged
      exact ⟨item :: items, .cons found related, rfl⟩

private theorem staged_foldl (items : List Staged) (start : Staging) :
    (items.foldl Staging.record start).staged = start.staged ++ items := by
  induction items generalizing start with
  | nil => simp
  | cons item items induction =>
      rw [List.foldl_cons, induction]
      unfold Staging.record
      split <;> simp

/-- Headers and footers with content. -/
def Staged.isFurniture (item : Staged) : Prop :=
  (item.kind = .header ∨ item.kind = .footer) ∧ item.content ≠ ""

instance (item : Staged) : Decidable item.isFurniture :=
  inferInstanceAs (Decidable (_ ∧ _))

/-- The pages on which a header or footer occurs. -/
def furniturePages (items : List Staged) (key : BoilerplateKey) : List ℤ :=
  (items.filter fun item =>
    item.isFurniture ∧ (item.kind, item.content) = key).map Staged.page

private theorem furniturePages_concat (items : List Staged) (item : Staged)
    (key : BoilerplateKey) :
    furniturePages (items ++ [item]) key = furniturePages items key ++
      if item.isFurniture ∧ (item.kind, item.content) = key then [item.page]
      else [] := by
  unfold furniturePages
  rw [List.filter_append, List.map_append]
  split_ifs with counted
  · rw [List.filter_cons_of_pos (by simpa using counted)]
    rfl
  · rw [List.filter_cons_of_neg (by simpa using counted)]
    rfl

/-- The counters after the items: how often, and on which pages. -/
private theorem record_foldl (items : List Staged) (key : BoilerplateKey) :
    (items.foldl Staging.record .empty).counts.getD key 0 =
        (furniturePages items key).length ∧
      (items.foldl Staging.record .empty).repeatedPages.getD key ∅ =
        (furniturePages items key).toFinset := by
  induction items using List.reverseRecOn with
  | nil => exact ⟨rfl, rfl⟩
  | append_singleton items item induction =>
      obtain ⟨counted, seen⟩ := induction
      rw [List.foldl_concat, furniturePages_concat]
      by_cases furniture : item.isFurniture
      · rw [Staging.record, if_pos (show _ ∧ _ from furniture)]
        simp only [Dict.getD_set]
        by_cases same : (item.kind, item.content) = key
        · subst same
          simp only [if_true, furniture, true_and, counted, seen]
          refine ⟨by simp, ?_⟩
          rw [List.toFinset_append, Finset.union_comm]
          rfl
        · simp [same, counted, seen]
      · rw [Staging.record, if_neg (show ¬ (_ ∧ _) from furniture)]
        simp [furniture, counted, seen]

/-- Repeated means: on three pages or more, once on each. -/
theorem isRepeated_iff (items : List Staged) (key : BoilerplateKey) :
    (items.foldl Staging.record .empty).isRepeated key = true ↔
      (furniturePages items key).Nodup ∧
        3 ≤ (furniturePages items key).length := by
  obtain ⟨counted, seen⟩ := record_foldl items key
  have read : (items.foldl Staging.record .empty).isRepeated key = true ↔
      3 ≤ (furniturePages items key).toFinset.card ∧
        (furniturePages items key).length =
          (furniturePages items key).toFinset.card := by
    rw [← seen, ← counted]
    unfold Staging.isRepeated
    rw [Dict.getD.eq_1 (Staging.repeatedPages _)]
    cases (items.foldl Staging.record .empty).repeatedPages.get? key with
    | none => simp
    | some pages => exact decide_eq_true_iff
  have once : (furniturePages items key).length =
      (furniturePages items key).toFinset.card ↔
        (furniturePages items key).Nodup := by
    rw [eq_comm]
    exact Multiset.toFinset_card_eq_card_iff_nodup
      (m := (furniturePages items key : Multiset ℤ))
  rw [read, once]
  constructor
  · rintro ⟨many, distinct⟩
    exact ⟨distinct, once.mpr distinct ▸ many⟩
  · rintro ⟨distinct, many⟩
    exact ⟨once.mpr distinct ▸ many, distinct⟩

/-- Where the elements of a document are staged. -/
structure IsStaged (tools : NormalizerTools) (input : NormalizerInput)
    (staging : Staging) : Prop where
  related : List.Forall₂ (fun indexed item =>
    stageElement tools input.pages indexed.1 indexed.2 = .ok item)
      input.elements.zipIdx staging.staged
  recorded : staging = staging.staged.foldl Staging.record .empty

theorem stageElements_spec
    (staged : stageElements tools input.pages input.elements = .ok staging) :
    IsStaged tools input staging := by
  obtain ⟨items, related, rfl⟩ := stage_foldlM staged
  have listed := staged_foldl items .empty
  rw [Staging.empty, List.nil_append] at listed
  refine ⟨?_, ?_⟩
  · rw [Staging.empty, listed]
    exact related
  · rw [Staging.empty, listed]

/-- What a staged element keeps of its element. -/
structure Staged.IsOf (tools : NormalizerTools) (input : NormalizerInput)
    (element : JsonObject) (index : ℕ) (item : Staged) : Prop where
  page : stagedPage tools element = .ok item.page
  within : 0 < item.page ∧ item.page ≤ input.pages
  kind : item.kind = elementKind tools element
  raw : item.raw = elementRaw tools element
  content : item.content = normalizedText tools item.raw
  index : item.index = index

theorem stageElement_spec {element : JsonObject} {index : ℕ} {item : Staged}
    (staged : stageElement tools input.pages element index = .ok item) :
    item.IsOf tools input element index := by
  obtain ⟨page, found, rest⟩ := bind_eq_ok.mp staged
  obtain ⟨⟨⟩, checked, built⟩ := bind_eq_ok.mp rest
  have within := raiseIf_eq_ok.mp checked
  cases built
  push Not at within
  exact ⟨found, within, rfl, rfl, rfl, rfl⟩

namespace IsStaged

variable (staged : IsStaged tools input staging)

include staged

/-- Each staged item comes from the element at its index. -/
theorem element_of_mem {item : Staged} (member : item ∈ staging.staged) :
    ∃ element, input.elements[item.index]? = some element ∧
      item.IsOf tools input element item.index := by
  obtain ⟨position, inside, rfl⟩ := List.getElem_of_mem member
  have long := staged.related.length_eq
  have related := staged.related.get (i := position)
    (by rw [long]; exact inside) inside
  have bound : position < input.elements.length := by
    simpa using inside.trans_eq long.symm
  have isOf : Staged.IsOf tools input input.elements[position] position
      staging.staged[position] := by
    simpa using stageElement_spec related
  refine ⟨input.elements[position], ?_, ?_⟩
  · rw [isOf.index]
    exact List.getElem?_eq_getElem bound
  · rw [isOf.index]
    exact isOf

theorem within {item : Staged} (member : item ∈ staging.staged) :
    0 < item.page ∧ item.page ≤ input.pages := by
  obtain ⟨element, -, isOf⟩ := staged.element_of_mem member
  exact isOf.within

theorem indexes :
    staging.staged.map Staged.index = List.range input.elements.length := by
  have positions : ∀ (items : List (JsonObject × ℕ)) (stagedItems),
      List.Forall₂ (fun indexed item =>
        stageElement tools input.pages indexed.1 indexed.2 = .ok item)
          items stagedItems →
      stagedItems.map Staged.index = items.map Prod.snd := by
    intro items stagedItems related
    induction related with
    | nil => rfl
    | cons first rest induction =>
        rw [List.map_cons, List.map_cons, induction,
          (stageElement_spec first).index]
  rw [positions _ _ staged.related, List.zipIdx_map_snd, List.range_eq_range']

theorem ascending :
    staging.staged.Pairwise fun left right => left.index < right.index := by
  have sorted := List.pairwise_lt_range (n := input.elements.length)
  rw [← staged.indexes] at sorted
  exact List.pairwise_map.mp sorted

end IsStaged

/-! ## Sources -/

/-- What one block is built from. -/
structure BlockSource where
  page : ℕ
  item : Option Staged

def pageSources (items : List Staged) (page : ℕ) : List BlockSource :=
  match items.filter fun item => item.page = (page : ℤ) with
  | [] => [{ page := page, item := none }]
  | found => found.map fun item => { page := page, item := some item }

/-- The sources of a document, in the order of its blocks. -/
def blockSources (items : List Staged) (pages : ℤ) : List BlockSource :=
  (List.range' 1 pages.toNat).flatMap (pageSources items)

/-- The heading of a source changes the section. -/
def BlockSource.sectionAfter (source : BlockSource)
    (sectionParts : List String) : List String :=
  match source.item with
  | some item => RagBench.sectionAfter sectionParts item
  | none => sectionParts

def emitSource (tools : NormalizerTools) (input : NormalizerInput)
    (staging : Staging) (emission : Emission) (source : BlockSource) :
    Except PyException Emission :=
  match source.item with
  | some item => emitItem tools input staging source.page emission item
  | none => do
      let identity ← tools.canonicalJsonHash
        (emptyPageIdentity input source.page)
      let block ← documentBlock identity input source.page
        emission.sectionParts .emptyPage "" "" [] false
      return { emission with blocks := emission.blocks ++ [block] }

theorem emitPage_eq (staged : IsStaged tools input staging)
    (emission : Emission) (page : ℕ) :
    emitPage tools input staging emission page =
      (pageSources staging.staged page).foldlM
        (emitSource tools input staging) emission := by
  have grouped : sortBy Staged.index
      ((groupInto Staged.page .empty staging.staged).getD page []) =
        staging.staged.filter fun item => item.page = (page : ℤ) := by
    rw [getD_groupInto]
    exact sortBy_eq_self
      ((staged.ascending.imp Nat.le_of_lt).sublist List.filter_sublist)
  unfold emitPage pageSources
  dsimp only
  rw [grouped]
  cases staging.staged.filter fun item => item.page = (page : ℤ) with
  | nil => simp [emitSource]
  | cons item items =>
      rw [if_neg (List.cons_ne_nil _ _), List.foldlM_map]
      rfl

theorem emitPages_eq (staged : IsStaged tools input staging)
    (start : Emission) (pages : List ℕ) :
    pages.foldlM (emitPage tools input staging) start =
      (pages.flatMap (pageSources staging.staged)).foldlM
        (emitSource tools input staging) start := by
  induction pages generalizing start with
  | nil => rfl
  | cons page pages induction =>
      rw [List.foldlM_cons, List.flatMap_cons, List.foldlM_append,
        emitPage_eq staged]
      exact bind_congr fun emission => induction emission

theorem normalizeInput_eq :
    normalizeInput tools input = do
      let staging ← stageElements tools input.pages input.elements
      let emission ← (blockSources staging.staged input.pages).foldlM
        (emitSource tools input staging) { blocks := [], sectionParts := [] }
      return emission.blocks := by
  unfold normalizeInput
  cases staged : stageElements tools input.pages input.elements with
  | error error => rfl
  | ok staging =>
      have isStaged := stageElements_spec staged
      change ((List.range' 1 input.pages.toNat).foldlM
        (emitPage tools input staging) _ >>= _) = _
      rw [emitPages_eq isStaged]
      rfl

theorem normalize_eq {parsed : Parsed} (read : parsed.read tools = .ok input) :
    normalize tools parsed = normalizeInput tools input := by
  rw [normalize, read]
  rfl

/-! ## Blocks -/

namespace BlockSource

def identity (input : NormalizerInput) (source : BlockSource) : Json :=
  match source.item with
  | some item => elementIdentity input item.index item.content
  | none => emptyPageIdentity input source.page

def kind (source : BlockSource) : BlockKind :=
  source.item.elim .emptyPage Staged.kind

def content (source : BlockSource) : String :=
  source.item.elim "" Staged.content

def raw (source : BlockSource) : String :=
  source.item.elim "" Staged.raw

def indexes (source : BlockSource) : List ℕ :=
  source.item.elim [] fun item => [item.index]

def isRepeated (staging : Staging) (source : BlockSource) : Bool :=
  source.item.elim false fun item =>
    staging.isRepeated (item.kind, item.content)

end BlockSource

/-- The block that is built from a source, in its section. -/
structure IsBlockOf (tools : NormalizerTools) (input : NormalizerInput)
    (staging : Staging) (source : BlockSource) (sectionParts : List String)
    (block : NormalizedBlock) : Prop where
  identity : tools.canonicalJsonHash (source.identity input) =
    .ok block.blockId
  page : block.page = source.page
  sectionPath : block.sectionPath = sectionParts
  kind : block.blockKind = source.kind
  content : block.content = source.content
  raw : block.sourceContent = source.raw
  indexes : block.sourceElementIndexes = source.indexes
  boilerplate : block.isBoilerplate = source.isRepeated staging

/-- The blocks of the sources from a section on. -/
inductive Emits (tools : NormalizerTools) (input : NormalizerInput)
    (staging : Staging) :
    List String → List BlockSource → List NormalizedBlock → Prop where
  | nil (sectionParts : List String) :
      Emits tools input staging sectionParts [] []
  | cons {sectionParts : List String} {source : BlockSource}
      {block : NormalizedBlock} {sources : List BlockSource}
      {blocks : List NormalizedBlock}
      (first : IsBlockOf tools input staging source
        (source.sectionAfter sectionParts) block)
      (rest : Emits tools input staging (source.sectionAfter sectionParts)
        sources blocks) :
      Emits tools input staging sectionParts (source :: sources)
        (block :: blocks)

private theorem documentBlock_ok {blockId : String} {page : ℕ}
    {sectionPath : List String} {blockKind : BlockKind}
    {content raw : String} {indexes : List ℕ} {isBoilerplate : Bool}
    {block : NormalizedBlock}
    (built : documentBlock blockId input page sectionPath blockKind content raw
      indexes isBoilerplate = .ok block) :
    block.blockId = blockId ∧ block.page = page ∧
      block.sectionPath = sectionPath ∧ block.blockKind = blockKind ∧
      block.content = content ∧ block.sourceContent = raw ∧
      block.sourceElementIndexes = indexes ∧
      block.isBoilerplate = isBoilerplate := by
  unfold documentBlock at built
  split_ifs at built
  cases built
  exact ⟨rfl, rfl, rfl, rfl, rfl, rfl, rfl, rfl⟩

theorem emitSource_spec {source : BlockSource} {emission next : Emission}
    (emitted : emitSource tools input staging emission source = .ok next) :
    ∃ block, next.blocks = emission.blocks ++ [block] ∧
      next.sectionParts = source.sectionAfter emission.sectionParts ∧
      IsBlockOf tools input staging source next.sectionParts block := by
  obtain ⟨page, item⟩ := source
  cases item with
  | none =>
      obtain ⟨identity, hashed, rest⟩ := bind_eq_ok.mp emitted
      obtain ⟨block, built, kept⟩ := bind_eq_ok.mp rest
      obtain ⟨named, paged, path, kind, content, raw, indexes, marked⟩ :=
        documentBlock_ok built
      cases kept
      exact ⟨block, rfl, rfl, named ▸ hashed, paged, path, kind, content, raw,
        indexes, marked⟩
  | some item =>
      obtain ⟨identity, hashed, rest⟩ := bind_eq_ok.mp emitted
      obtain ⟨block, built, kept⟩ := bind_eq_ok.mp rest
      obtain ⟨named, paged, path, kind, content, raw, indexes, marked⟩ :=
        documentBlock_ok built
      cases kept
      exact ⟨block, rfl, rfl, named ▸ hashed, paged, path, kind, content, raw,
        indexes, marked⟩

theorem emitSources_spec {sources : List BlockSource}
    {emission finish : Emission}
    (emitted : sources.foldlM (emitSource tools input staging) emission =
      .ok finish) :
    ∃ blocks, finish.blocks = emission.blocks ++ blocks ∧
      Emits tools input staging emission.sectionParts sources blocks := by
  induction sources generalizing emission with
  | nil =>
      cases emitted
      exact ⟨[], by simp, .nil _⟩
  | cons source sources induction =>
      rw [List.foldlM_cons] at emitted
      obtain ⟨next, first, rest⟩ := bind_eq_ok.mp emitted
      obtain ⟨block, listed, moved, isBlock⟩ := emitSource_spec first
      obtain ⟨blocks, further, emits⟩ := induction rest
      rw [moved] at isBlock emits
      refine ⟨block :: blocks, ?_, .cons isBlock emits⟩
      rw [further, listed, List.append_assoc]
      rfl

theorem normalizeInput_spec {blocks : List NormalizedBlock}
    (normalized : normalizeInput tools input = .ok blocks) :
    ∃ staging, IsStaged tools input staging ∧
      Emits tools input staging []
        (blockSources staging.staged input.pages) blocks := by
  obtain ⟨staging, staged, rest⟩ := bind_eq_ok.mp normalized
  obtain ⟨emission, emitted, returned⟩ := bind_eq_ok.mp rest
  cases returned
  have isStaged := stageElements_spec staged
  rw [emitPages_eq isStaged] at emitted
  obtain ⟨blocks, listed, emits⟩ := emitSources_spec emitted
  rw [List.nil_append] at listed
  exact ⟨staging, isStaged, listed ▸ emits⟩

namespace Emits

variable {sectionParts : List String} {sources : List BlockSource}
  {blocks : List NormalizedBlock}

/-- Block by block, whatever the sections. -/
theorem related
    (emits : Emits tools input staging sectionParts sources blocks) :
    List.Forall₂ (fun source block =>
      IsBlockOf tools input staging source block.sectionPath block)
        sources blocks := by
  induction emits with
  | nil => exact .nil
  | cons first rest induction =>
      exact .cons (first.sectionPath.symm ▸ first) induction

end Emits

end RagBench
