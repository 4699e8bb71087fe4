import Mathlib.Order.Interval.Finset.Nat
import RagBench.Ingestion.NormalizedElements

/-!
# Section paths

A heading closes the open headings of its level or deeper and opens itself.  The
normalizer keeps as many parts as the level says instead, which is the same as
long as no level is skipped on the way to a heading that is closed.
-/

namespace RagBench

structure Heading where
  level : ℕ
  label : String
  deriving DecidableEq

/-- The heading of a block or an element with content. -/
def headingOf (kind : BlockKind) (content : String) : Option Heading :=
  if kind = .heading ∧ content ≠ "" then
    some { level := headingLevel content, label := headingLabel content }
  else none

/-! ## Nested headings -/

/-- What is open after a heading. -/
def openNext (opened : List Heading) (heading : Heading) : List Heading :=
  opened.filter (fun other => other.level < heading.level) ++ [heading]

/-- The labels of the headings that are open at each block. -/
def nestedPaths (opened : List Heading) :
    List (Option Heading) → List (List String)
  | [] => []
  | none :: rest => opened.map Heading.label :: nestedPaths opened rest
  | some heading :: rest =>
      (openNext opened heading).map Heading.label ::
        nestedPaths (openNext opened heading) rest

def NormalizedBlock.heading (block : NormalizedBlock) : Option Heading :=
  headingOf block.blockKind block.content

/-- The section paths are those of the open headings. -/
def FollowsNesting (blocks : List NormalizedBlock) : Prop :=
  (blocks.map fun block => block.sectionPath) =
    nestedPaths [] (blocks.map NormalizedBlock.heading)

/-! ## Levels -/

/-- A level closes nothing, or all shallower levels are open. -/
def IsNested (opened : List ℕ) (level : ℕ) : Prop :=
  (∀ other ∈ opened, other < level) ∨
    ∀ other, 1 ≤ other → other < level → other ∈ opened

/-- Every heading of these levels is nested when it comes. -/
def AreNested (opened : List ℕ) : List ℕ → Prop
  | [] => True
  | level :: rest =>
      IsNested opened level ∧
        AreNested (opened.filter (· < level) ++ [level]) rest

/-- The heading of an element of a page. -/
def pageHeading (tools : NormalizerTools) (page : ℕ) (element : JsonObject) :
    Option Heading :=
  match stagedPage tools element with
  | .ok found =>
      if found = page then
        headingOf (elementKind tools element)
          (normalizedText tools (elementRaw tools element))
      else none
  | .error _ => none

/-- The headings of a document, page by page. -/
def documentHeadings (tools : NormalizerTools) (input : NormalizerInput) :
    List Heading :=
  (List.range' 1 input.pages.toNat).flatMap fun page =>
    input.elements.filterMap (pageHeading tools page)

/-- The levels of open headings. -/
structure AreOpen (levels : List ℕ) : Prop where
  positive : ∀ level ∈ levels, 1 ≤ level
  ascending : levels.Pairwise (· < ·)

namespace AreOpen

variable {levels : List ℕ} {level : ℕ}

theorem next (opened : AreOpen levels) (positive : 1 ≤ level) :
    AreOpen (levels.filter (· < level) ++ [level]) := by
  refine ⟨fun other member => ?_, ?_⟩
  · rcases List.mem_append.mp member with kept | last
    · exact opened.positive other (List.mem_of_mem_filter kept)
    · rwa [List.mem_singleton.mp last]
  · refine List.pairwise_append.mpr
      ⟨opened.ascending.sublist List.filter_sublist,
        List.pairwise_singleton _ _, fun other kept last final => ?_⟩
    rw [List.mem_singleton.mp final]
    simpa using (List.mem_filter.mp kept).2

/-- At most one open heading of each shallower level. -/
theorem shallower_le (opened : AreOpen levels) (level : ℕ) :
    (levels.filter (· < level)).length ≤ level - 1 ∧
      ((levels.filter (· < level)).length = level - 1 ↔
        ∀ other, 1 ≤ other → other < level → other ∈ levels) := by
  have distinct : (levels.filter (· < level)).Nodup :=
    (opened.ascending.imp Nat.ne_of_lt).sublist List.filter_sublist
  have within : (levels.filter (· < level)).toFinset ⊆ Finset.Ico 1 level := by
    intro other member
    obtain ⟨listed, shallow⟩ := List.mem_filter.mp (List.mem_toFinset.mp member)
    exact Finset.mem_Ico.mpr
      ⟨opened.positive other listed, of_decide_eq_true shallow⟩
  have card := List.toFinset_card_of_nodup distinct
  have bound := Finset.card_le_card within
  rw [card, Nat.card_Ico] at bound
  refine ⟨bound, fun full other low high => ?_, fun all => ?_⟩
  · have same := Finset.eq_of_subset_of_card_le within (by
      rw [card, Nat.card_Ico, full])
    have listed : other ∈ (levels.filter (· < level)).toFinset := by
      rw [same]
      exact Finset.mem_Ico.mpr ⟨low, high⟩
    exact List.mem_of_mem_filter (List.mem_toFinset.mp listed)
  · have whole : Finset.Ico 1 level ⊆
        (levels.filter (· < level)).toFinset := by
      intro other member
      obtain ⟨low, high⟩ := Finset.mem_Ico.mp member
      exact List.mem_toFinset.mpr (List.mem_filter.mpr
        ⟨all other low high, decide_eq_true high⟩)
    have reach := Finset.card_le_card whole
    rw [card, Nat.card_Ico] at reach
    omega

/-- Taking as many as the level says keeps the shallower ones. -/
theorem take_length_iff (opened : AreOpen levels) :
    min (level - 1) levels.length = (levels.filter (· < level)).length ↔
      IsNested levels level := by
  obtain ⟨bound, full⟩ := opened.shallower_le level
  have short := List.length_filter_le (fun other => other < level) levels
  have all : (levels.filter (· < level)).length = levels.length ↔
      ∀ other ∈ levels, other < level := by
    rw [List.length_filter_eq_length_iff]
    simp
  rw [IsNested, ← full, ← all]
  omega

end AreOpen

theorem one_le_headingLevel (content : String) : 1 ≤ headingLevel content :=
  le_max_left _ _

theorem level_positive {kind : BlockKind} {content : String}
    {heading : Heading} (found : headingOf kind content = some heading) :
    1 ≤ heading.level := by
  obtain ⟨-, same⟩ := Option.ite_none_right_eq_some.mp found
  rw [← Option.some.inj same]
  exact one_le_headingLevel content

/-! ## The normalizer -/

variable {tools : NormalizerTools} {input : NormalizerInput}
  {staging : Staging}

def BlockSource.heading (source : BlockSource) : Option Heading :=
  headingOf source.kind source.content

theorem map_level_filter (opened : List Heading) (level : ℕ) :
    (opened.filter fun other => other.level < level).map Heading.level =
      (opened.map Heading.level).filter (· < level) := by
  rw [List.filter_map]
  rfl

/-- The open headings that stay are the first ones. -/
theorem filter_openHeadings {opened : List Heading} {level : ℕ}
    (ascending : (opened.map Heading.level).Pairwise (· < ·)) :
    opened.filter (fun other => other.level < level) =
      opened.take (opened.filter fun other => other.level < level).length := by
  induction opened with
  | nil => rfl
  | cons first rest induction =>
      obtain ⟨later, ascending⟩ := List.pairwise_cons.mp ascending
      by_cases shallow : first.level < level
      · rw [List.filter_cons_of_pos (by simpa using shallow),
          List.length_cons, List.take_succ_cons, ← induction ascending]
      · have none : (first :: rest).filter
            (fun other => other.level < level) = [] := by
          rw [List.filter_eq_nil_iff]
          intro other member
          rw [decide_eq_true_eq, not_lt]
          rcases List.mem_cons.mp member with rfl | member
          · exact not_lt.mp shallow
          · exact (not_lt.mp shallow).trans
              (later _ (List.mem_map_of_mem member)).le
        rw [none]
        rfl

/-- The normalizer keeps the right parts for a nested heading only. -/
theorem parts_eq_iff {opened : List Heading} {heading : Heading}
    (areOpen : AreOpen (opened.map Heading.level)) :
    (opened.map Heading.label).take (heading.level - 1) ++ [heading.label] =
        (openNext opened heading).map Heading.label ↔
      IsNested (opened.map Heading.level) heading.level := by
  rw [← areOpen.take_length_iff, ← map_level_filter, List.length_map,
    List.length_map, openNext, List.map_append, List.map_singleton,
    List.append_left_inj, filter_openHeadings areOpen.ascending, List.map_take,
    List.take_eq_take_iff, List.length_map, List.length_take]

theorem openNext_areOpen {opened : List Heading} {heading : Heading}
    (areOpen : AreOpen (opened.map Heading.level))
    (positive : 1 ≤ heading.level) :
    (openNext opened heading).map Heading.level =
        (opened.map Heading.level).filter (· < heading.level) ++
          [heading.level] ∧
      AreOpen ((openNext opened heading).map Heading.level) := by
  have levels : (openNext opened heading).map Heading.level =
      (opened.map Heading.level).filter (· < heading.level) ++
        [heading.level] := by
    rw [openNext, List.map_append, map_level_filter]
    rfl
  exact ⟨levels, levels ▸ areOpen.next positive⟩

theorem sectionAfter_heading {source : BlockSource} {parts : List String} :
    source.sectionAfter parts =
      match source.heading with
      | some heading => parts.take (heading.level - 1) ++ [heading.label]
      | none => parts := by
  obtain ⟨page, item⟩ := source
  cases item with
  | none => rfl
  | some item =>
      by_cases headed : item.kind = .heading ∧ item.content ≠ ""
      · have found : BlockSource.heading { page := page, item := some item } =
            some { level := headingLevel item.content
                   label := headingLabel item.content } := if_pos headed
        rw [found]
        exact if_pos headed
      · have found : BlockSource.heading { page := page, item := some item } =
            none := if_neg headed
        rw [found]
        exact if_neg headed

/-- From a section on, the paths are right exactly when the headings are
nested. -/
theorem emits_nested {opened : List Heading} {sources : List BlockSource}
    {blocks : List NormalizedBlock}
    (areOpen : AreOpen (opened.map Heading.level))
    (emits : Emits tools input staging (opened.map Heading.label) sources
      blocks) :
    (blocks.map fun block => block.sectionPath) =
        nestedPaths opened (blocks.map NormalizedBlock.heading) ↔
      AreNested (opened.map Heading.level)
        ((sources.filterMap BlockSource.heading).map Heading.level) := by
  generalize shape : opened.map Heading.label = parts at emits
  induction emits generalizing opened with
  | nil => simp [nestedPaths, AreNested]
  | @cons parts source block sources blocks first rest induction =>
      have same : block.heading = source.heading := by
        rw [NormalizedBlock.heading, BlockSource.heading, first.kind,
          first.content]
      have path := first.sectionPath
      rw [sectionAfter_heading] at path rest induction
      rw [List.map_cons, List.map_cons, same]
      cases found : source.heading with
      | none =>
          rw [found] at path rest induction
          rw [List.filterMap_cons_none found, nestedPaths, List.cons.injEq,
            path, shape, induction areOpen shape]
          simp
      | some heading =>
          rw [found] at path rest induction
          obtain ⟨levels, areOpen'⟩ :=
            openNext_areOpen areOpen (level_positive found)
          rw [List.filterMap_cons_some found, nestedPaths, List.map_cons,
            AreNested, List.cons.injEq, path, ← levels, ← shape,
            parts_eq_iff areOpen]
          refine and_congr_right fun nested => ?_
          exact induction areOpen' (by rw [← shape]; exact
            ((parts_eq_iff areOpen).mpr nested).symm)

private theorem filterMap_staged (page : ℕ)
    {elements : List (JsonObject × ℕ)} {items : List Staged}
    (related : List.Forall₂ (fun indexed item =>
      stageElement tools input.pages indexed.1 indexed.2 = .ok item)
        elements items) :
    (items.filter fun item => item.page = (page : ℤ)).filterMap
        (fun item => headingOf item.kind item.content) =
      (elements.map Prod.fst).filterMap (pageHeading tools page) := by
  induction related with
  | nil => rfl
  | @cons indexed item elements items first rest induction =>
      have isOf := stageElement_spec first
      have heading : pageHeading tools page indexed.1 =
          if item.page = page then headingOf item.kind item.content
          else none := by
        rw [pageHeading, isOf.page, isOf.content, isOf.raw, isOf.kind]
      rw [List.map_cons, List.filterMap_cons, ← induction, heading]
      by_cases here : item.page = page
      · rw [List.filter_cons_of_pos (by simpa using here), if_pos here,
          List.filterMap_cons]
      · rw [List.filter_cons_of_neg (by simpa using here), if_neg here]

/-- The headings of the sources are those of the document. -/
theorem IsStaged.headings (staged : IsStaged tools input staging) :
    (blockSources staging.staged input.pages).filterMap BlockSource.heading =
      documentHeadings tools input := by
  rw [blockSources, List.filterMap_flatMap, documentHeadings]
  refine List.flatMap_congr fun page _ => ?_
  have listed := filterMap_staged page staged.related
  rw [List.zipIdx_map_fst] at listed
  rw [← listed, ← items_of_pageSources]
  have blank : headingOf .emptyPage "" = none := if_neg (by simp)
  rw [List.filterMap_filterMap]
  refine List.filterMap_congr fun source _ => ?_
  obtain ⟨page, item⟩ := source
  cases item with
  | none => exact blank
  | some item => rfl

/-- The section paths follow the nesting exactly when no heading closes another
one below a skipped level. -/
theorem normalize_followsNesting_iff {parsed : Parsed}
    {blocks : List NormalizedBlock} (read : parsed.read tools = .ok input)
    (normalized : normalize tools parsed = .ok blocks) :
    FollowsNesting blocks ↔
      AreNested [] ((documentHeadings tools input).map Heading.level) := by
  rw [normalize_eq read] at normalized
  obtain ⟨staging, staged, emits⟩ := normalizeInput_spec normalized
  rw [← staged.headings]
  have nothing : AreOpen (([] : List Heading).map Heading.level) :=
    ⟨fun _ member => absurd member List.not_mem_nil, .nil⟩
  exact emits_nested nothing emits

def nestedParts : List (ℕ × String × String) :=
  [(1, "heading", "# A"), (1, "heading", "## B"), (2, "text", "본문"),
    (2, "heading", "# C")]

theorem normalize_followsNesting_iff_report : ∃ blocks,
    normalize reportTools (.mapping (reportMapping 2 nestedParts)) =
      .ok blocks ∧
    (blocks.map fun block => block.sectionPath) =
      [["A"], ["A", "B"], ["A", "B"], ["C"]] ∧
    (FollowsNesting blocks ↔ AreNested []
      ((documentHeadings reportTools (reportInput 2 nestedParts)).map
        Heading.level)) := by
  obtain ⟨blocks, normalized, paths⟩ := exists_normalize_report
    (fun blocks => blocks.map fun block => block.sectionPath)
    2 nestedParts [["A"], ["A", "B"], ["A", "B"], ["C"]] (by decide +kernel)
  exact ⟨blocks, normalized, paths, normalize_followsNesting_iff
    (read_reportMapping 2 nestedParts) normalized⟩

/-- A third-level heading, then a second-level one. -/
def skippedParts : List (ℕ × String × String) :=
  [(1, "heading", "### A"), (1, "heading", "## B")]

/-- The second heading stays under the deeper first one. -/
theorem normalize_skippedLevel : ∃ blocks,
    normalize reportTools (.mapping (reportMapping 1 skippedParts)) =
      .ok blocks ∧
    (blocks.map fun block => block.sectionPath) = [["A"], ["A", "B"]] ∧
    ¬FollowsNesting blocks := by
  obtain ⟨blocks, normalized, seen⟩ := exists_normalize_report
    (fun blocks => (blocks.map fun block => block.sectionPath,
      blocks.map NormalizedBlock.heading))
    1 skippedParts ([["A"], ["A", "B"]],
      [some { level := 3, label := "A" }, some { level := 2, label := "B" }])
    (by decide +kernel)
  obtain ⟨paths, headings⟩ := Prod.mk.inj seen
  refine ⟨blocks, normalized, paths, fun follows => ?_⟩
  rw [FollowsNesting, paths, headings] at follows
  exact absurd follows (by decide)

end RagBench
