import RagBench.Ingestion.ParseContent
import RagBench.Providers.HtmlIds

/-!
# The content of merged parse chunks

The merge collects texts from content objects and elements from everywhere.
The extractor reads the elements of the merged response only when no content
object had a text.
-/

namespace RagBench

def numericId (element : JsonObject) : Option ℤ :=
  (Json.get? element "id").bind Json.asInt

/-- The ids of the elements of a response that are numbers. -/
def numericIds (raw : JsonObject) : List ℤ :=
  (responseElements raw).filterMap fun element =>
    match element with
    | .object entries => numericId entries
    | _ => none

/-- What is added to the ids of each response: one more than the greatest id
before it. -/
def elementIdOffsets (ids : List ℤ) (offset : ℤ) : List JsonObject → List ℤ
  | [] => []
  | raw :: raws =>
      let seen := ids ++ (numericIds raw).map (· + offset)
      offset ::
        elementIdOffsets seen ((seen.max?.map (· + 1)).getD offset) raws

/-! ## One element -/

/-- Only page numbers are shifted. -/
theorem get?_shiftPages (start : ℤ) (item : JsonObject) {key : String}
    (other : key ∉ ["page", "page_number", "source_page"]) :
    Json.get? (shiftPages start item) key = Json.get? item key := by
  unfold shiftPages
  generalize ["page", "page_number", "source_page"] = keys at other ⊢
  induction keys generalizing item with
  | nil => rfl
  | cons first keys induction =>
      rw [List.foldl_cons, induction _ fun later =>
        other (List.mem_cons_of_mem _ later)]
      split
      · rw [Json.get?, Dict.lookup_assign, if_neg]
        · rfl
        · rintro rfl
          exact other List.mem_cons_self
      · rfl

variable {platform : Platform}

/-- The first part of `mergeElement`: the id. -/
def numberElement (offset : ℤ) (source : JsonObject) :
    Except PyException JsonObject :=
  match Json.get? source "id" with
  | none | some .null => .ok source
  | some value =>
      match value.asInt with
      | some oldId => .ok (Dict.assign "id" (.int (oldId + offset)) source)
      | none => .error (.valueError "parse chunk element ID is not numeric")

/-- The last part of `mergeElement`: the ids in the HTML. -/
def mergeContent (platform : Platform) (offset : ℤ) (item : JsonObject) :
    Except PyException JsonObject :=
  match Json.get? item "content" with
  | some (.object content) =>
      match Json.get? content "html" with
      | some (.str html) => do
          let shifted ← offsetHtmlIds platform html offset
          return Dict.assign "content"
            (.object (Dict.assign "html" (.str shifted) content)) item
      | _ => .ok item
  | _ => .ok item

theorem mergeElement_eq (start offset : ℤ) (source : JsonObject) :
    mergeElement platform start offset source =
      numberElement offset source >>= fun numbered =>
        mergeContent platform offset (shiftPages start numbered) := by
  unfold mergeElement numberElement mergeContent
  cases Json.get? source "id" with
  | none => rfl
  | some value =>
      cases value with
      | null => rfl
      | int value => rfl
      | bool value => rfl
      | _ => rfl

private theorem numberElement_spec {offset : ℤ}
    {source numbered : JsonObject}
    (success : numberElement offset source = .ok numbered) :
    Json.get? numbered "content" = Json.get? source "content" ∧
      numericId numbered = (numericId source).map (· + offset) := by
  unfold numberElement at success
  unfold numericId
  split at success
  · rename_i absent
    cases success
    rw [absent]
    exact ⟨rfl, rfl⟩
  · rename_i absent
    cases success
    rw [absent]
    exact ⟨rfl, rfl⟩
  · rename_i value _ found
    cases number : value.asInt with
    | none => simp [number] at success
    | some oldId =>
        simp only [number, Except.ok.injEq] at success
        rw [← success, found]
        constructor
        · rw [Json.get?, Dict.lookup_assign, if_neg (by decide)]
          rfl
        · rw [Json.get?, Dict.lookup_assign, if_pos rfl, Option.bind_some,
            Option.bind_some, number]
          rfl

private theorem mergeContent_spec {offset : ℤ} {source item : JsonObject}
    (success : mergeContent platform offset source = .ok item) :
    numericId item = numericId source ∧
      elementMarkdown (.object item) = elementMarkdown (.object source) ∧
      List.Forall₂ (fun text result =>
          offsetHtmlIds platform text offset = .ok result)
        (elementHtml (.object source)) (elementHtml (.object item)) := by
  have kept : (elementHtml (.object source) = []) → source = item →
      numericId item = numericId source ∧
      elementMarkdown (.object item) = elementMarkdown (.object source) ∧
      List.Forall₂ (fun text result =>
          offsetHtmlIds platform text offset = .ok result)
        (elementHtml (.object source)) (elementHtml (.object item)) := by
    rintro none rfl
    rw [none]
    exact ⟨rfl, rfl, .nil⟩
  unfold mergeContent at success
  split at success
  · rename_i content found
    split at success
    · rename_i html inside
      obtain ⟨shifted, renumbered, same⟩ := bind_eq_ok.mp success
      cases same
      have contentAt : Json.get? (Dict.assign "content" (Json.object
          (Dict.assign "html" (.str shifted) content)) source) "content" =
            some (.object (Dict.assign "html" (.str shifted) content)) := by
        rw [Json.get?, Dict.lookup_assign, if_pos rfl]
      have htmlAt : Json.get? (Dict.assign "html" (.str shifted) content)
          "html" = some (.str shifted) := by
        rw [Json.get?, Dict.lookup_assign, if_pos rfl]
      have markdownAt : Json.get? (Dict.assign "html" (.str shifted) content)
          "markdown" = Json.get? content "markdown" := by
        rw [Json.get?, Dict.lookup_assign, if_neg (by decide)]
        rfl
      refine ⟨?_, ?_, ?_⟩
      · rw [numericId, Json.get?, Dict.lookup_assign, if_neg (by decide)]
        rfl
      · simp only [elementMarkdown, contentAt, markdownAt, found]
      · simp only [elementHtml, contentAt, htmlAt, found, inside, nonemptyText]
        by_cases empty : html = ""
        · subst empty
          cases renumbered
          exact .nil
        · have filled := offsetHtmlIds_ne_empty renumbered empty
          rw [if_neg empty, if_neg filled]
          exact .cons renumbered .nil
    · rename_i noText
      refine kept ?_ (Except.ok.inj success)
      simp only [elementHtml, found]
      unfold nonemptyText
      split
      · rename_i value inside
        exact absurd inside (noText value)
      · rfl
  · rename_i noObject
    refine kept ?_ (Except.ok.inj success)
    simp only [elementHtml]

/-- What the merge keeps of an element. -/
theorem mergeElement_spec {start offset : ℤ} {source item : JsonObject}
    (success : mergeElement platform start offset source = .ok item) :
    numericId item = (numericId source).map (· + offset) ∧
      elementMarkdown (.object item) = elementMarkdown (.object source) ∧
      List.Forall₂ (fun text result =>
          offsetHtmlIds platform text offset = .ok result)
        (elementHtml (.object source)) (elementHtml (.object item)) := by
  rw [mergeElement_eq] at success
  obtain ⟨numbered, renumbered, success⟩ := bind_eq_ok.mp success
  obtain ⟨sameContent, sameId⟩ := numberElement_spec renumbered
  obtain ⟨keptId, keptMarkdown, html⟩ := mergeContent_spec success
  have shifted : Json.get? (shiftPages start numbered) "content" =
      Json.get? source "content" :=
    (get?_shiftPages start numbered (by decide)).trans sameContent
  refine ⟨?_, ?_, ?_⟩
  · rw [keptId, ← sameId, numericId, get?_shiftPages start numbered
      (by decide)]
    rfl
  · rw [keptMarkdown]
    simp only [elementMarkdown, shifted]
  · simp only [elementHtml, shifted] at html ⊢
    exact html

theorem mergeElements_spec {start offset : ℤ}
    {sources merged : List JsonObject}
    (success : sources.mapM (mergeElement platform start offset) =
      .ok merged) :
    merged.filterMap numericId =
        (sources.filterMap numericId).map (· + offset) ∧
      merged.flatMap (fun item => elementMarkdown (.object item)) =
        sources.flatMap (fun item => elementMarkdown (.object item)) ∧
      List.Forall₂ (fun text result =>
          offsetHtmlIds platform text offset = .ok result)
        (sources.flatMap fun item => elementHtml (.object item))
        (merged.flatMap fun item => elementHtml (.object item)) := by
  induction mapM_eq_ok.mp success with
  | nil => exact ⟨rfl, rfl, .nil⟩
  | @cons source item sources merged first rest induction =>
      obtain ⟨ids, markdown, html⟩ := induction (mapM_eq_ok.mpr rest)
      obtain ⟨id, text, ownHtml⟩ := mergeElement_spec first
      refine ⟨?_, ?_, List.rel_append ownHtml html⟩
      · rw [List.filterMap_cons, List.filterMap_cons, id, ids]
        cases numericId source <;> rfl
      · rw [List.flatMap_cons, List.flatMap_cons, text, markdown]

/-! ## One chunk -/

def chunkElements (raw : JsonObject) : Except PyException (List JsonObject) :=
  match Json.get? raw "elements" with
  | none => .ok []
  | some (.array items) =>
      objects (.valueError "parse chunk elements are malformed") items
  | some _ => .error (.valueError "parse chunk elements are malformed")

def chunkPageMetadata (raw : JsonObject) : Except PyException (List JsonObject) :=
  match Json.get? raw "pages" with
  | some (.array items) =>
      objects (.valueError "parse chunk page metadata is malformed") items
  | _ => .ok []

def chunkContent (raw : JsonObject) : JsonObject :=
  match Json.get? raw "content" with
  | some (.object entries) => entries
  | _ => []

private theorem contentPart_eq (raw : JsonObject) (key : String) :
    contentPart (chunkContent raw) key =
      [contentText raw key].filter (· ≠ "") := by
  unfold chunkContent contentPart contentText
  cases Json.get? raw "content" with
  | none => rfl
  | some value =>
      cases value with
      | object content =>
          dsimp only
          cases Json.get? content key with
          | none => rfl
          | some value =>
              cases value with
              | str text =>
                  by_cases empty : text = "" <;> simp [textOrEmpty, empty]
              | _ => rfl
      | _ => rfl

theorem responseElements_eq {raw : JsonObject}
    {sources : List JsonObject} (read : chunkElements raw = .ok sources) :
    responseElements raw = sources.map .object := by
  unfold chunkElements at read
  unfold responseElements
  split at read
  · rename_i missing
    cases read
    rw [missing]
    rfl
  · rename_i items found
    rw [found]
    have each := mapM_eq_ok.mp read
    clear read found
    induction each with
    | nil => rfl
    | @cons item result items results first _ induction =>
        rw [List.map_cons, ← induction]
        cases item with
        | object entries =>
            cases first
            rfl
        | _ => cases first
  · cases read

/-- A text renumbered, kept when it is not empty. -/
private theorem mapM_offsetHtmlIds {offset : ℤ} {text : String}
    {renumbered : List String}
    (success : ([text].filter (· ≠ "")).mapM (fun value =>
      offsetHtmlIds platform value offset) = .ok renumbered) :
    ∃ result, offsetHtmlIds platform text offset = .ok result ∧
      renumbered = [result].filter (· ≠ "") := by
  by_cases empty : text = ""
  · subst empty
    cases success
    exact ⟨"", offsetHtmlIds_empty offset, rfl⟩
  · rw [List.filter_cons_of_pos (by simpa using empty), List.filter_nil,
      mapM_eq_ok, List.forall₂_cons_left_iff] at success
    obtain ⟨result, rest, found, none, rfl⟩ := success
    obtain rfl := List.forall₂_nil_left_iff.mp none
    have filled := offsetHtmlIds_ne_empty found empty
    exact ⟨result, found, by simp [filled]⟩

/-- The texts of the merged elements. -/
def MergeState.elementTexts (state : MergeState)
    (read : Json → List String) : List String :=
  state.elements.flatMap fun element => read (.object element)

def MergeState.ids (state : MergeState) : List ℤ :=
  state.elements.filterMap numericId

theorem mergeChunk_eq (state : MergeState) (start pageCount : ℕ)
    (response : ParsedDocument) :
    mergeChunk platform state (start, pageCount, response) =
      (do
        let raw := response.rawResponse
        let sources ← chunkElements raw
        let merged ←
          sources.mapM (mergeElement platform start state.nextElementId)
        let pages ← chunkPageMetadata raw
        let html ← (contentPart (chunkContent raw) "html").mapM fun value =>
          offsetHtmlIds platform value state.nextElementId
        let responseHash ← platform.canonicalJsonHash (.object raw)
        let elements := state.elements ++ merged
        return {
          elements := elements
          pages := state.pages ++ pages.map (shiftPages start)
          html := state.html ++ html
          markdown :=
            state.markdown ++ contentPart (chunkContent raw) "markdown"
          text := state.text ++ contentPart (chunkContent raw) "text"
          evidence := state.evidence ++
            [.object
              [("start_page", .int (start + 1)),
                ("end_page", .int (start + pageCount)),
                ("response_hash", .str responseHash),
                ("correlation_id", optionalText response.correlationId)]]
          nextElementId :=
            ((elements.filterMap numericId).max?.map (· + 1)).getD
              state.nextElementId }) := by
  unfold mergeChunk chunkElements chunkPageMetadata
  dsimp only
  cases Json.get? response.rawResponse "elements" with
  | none =>
      cases Json.get? response.rawResponse "pages" with
      | none => rfl
      | some pages => cases pages <;> rfl
  | some elements =>
      cases elements with
      | array items =>
          cases Json.get? response.rawResponse "pages" with
          | none => rfl
          | some pages => cases pages <;> rfl
      | _ => rfl

/-- What one round adds to the texts. -/
private theorem mergeChunk_spec {state next : MergeState}
    {start pageCount : ℕ} {response : ParsedDocument}
    (success : mergeChunk platform state (start, pageCount, response) =
      .ok next) :
    let raw := response.rawResponse
    next.ids = state.ids ++ (numericIds raw).map (· + state.nextElementId) ∧
      next.nextElementId =
        (next.ids.max?.map (· + 1)).getD state.nextElementId ∧
      next.markdown =
        state.markdown ++ [contentText raw "markdown"].filter (· ≠ "") ∧
      next.elementTexts elementMarkdown =
        state.elementTexts elementMarkdown ++
          (responseElements raw).flatMap elementMarkdown ∧
      (∃ html, offsetHtmlIds platform (contentText raw "html")
          state.nextElementId = .ok html ∧
        next.html = state.html ++ [html].filter (· ≠ "")) ∧
      ∃ texts, List.Forall₂ (fun text result =>
          offsetHtmlIds platform text state.nextElementId = .ok result)
          ((responseElements raw).flatMap elementHtml) texts ∧
        next.elementTexts elementHtml =
          state.elementTexts elementHtml ++ texts := by
  rw [mergeChunk_eq] at success
  obtain ⟨sources, read, success⟩ := bind_eq_ok.mp success
  obtain ⟨merged, elements, success⟩ := bind_eq_ok.mp success
  obtain ⟨pages, _, success⟩ := bind_eq_ok.mp success
  obtain ⟨html, renumbered, success⟩ := bind_eq_ok.mp success
  obtain ⟨responseHash, _, success⟩ := bind_eq_ok.mp success
  cases success
  rw [contentPart_eq] at renumbered
  obtain ⟨ids, markdown, texts⟩ := mergeElements_spec elements
  have sourceIds : numericIds response.rawResponse =
      sources.filterMap numericId := by
    rw [numericIds, responseElements_eq read, List.filterMap_map]
    rfl
  refine ⟨?_, rfl, ?_, ?_, ?_, ?_⟩
  · rw [sourceIds, ← ids]
    exact List.filterMap_append
  · rw [← contentPart_eq]
  · rw [responseElements_eq read, List.flatMap_map, ← markdown]
    exact List.flatMap_append
  · obtain ⟨result, found, rfl⟩ := mapM_offsetHtmlIds renumbered
    exact ⟨result, found, rfl⟩
  · rw [responseElements_eq read, List.flatMap_map]
    exact ⟨_, texts, List.flatMap_append⟩

/-! ## All chunks -/

/-- The texts of the chunks, each renumbered by the offset of its chunk. -/
def Renumbered (platform : Platform) (text : JsonObject → String)
    (located : List (ℤ × JsonObject)) (texts : List String) : Prop :=
  List.Forall₂ (fun chunk result =>
    offsetHtmlIds platform (text chunk.2) chunk.1 = .ok result) located texts

private theorem foldlM_mergeChunk
    {responses : List (ℕ × ℕ × ParsedDocument)} {state final : MergeState}
    (success : responses.foldlM (mergeChunk platform) state = .ok final) :
    let raws := responses.map (·.2.2.rawResponse)
    let located :=
      (elementIdOffsets state.ids state.nextElementId raws).zip raws
    final.markdown = state.markdown ++
        (raws.map (contentText · "markdown")).filter (· ≠ "") ∧
      final.elementTexts elementMarkdown =
        state.elementTexts elementMarkdown ++ (raws.map fun raw =>
          (responseElements raw).flatMap elementMarkdown).flatten ∧
      (∃ htmls, Renumbered platform (contentText · "html") located htmls ∧
        final.html = state.html ++ htmls.filter (· ≠ "")) ∧
      ∃ groups : List (List String),
        List.Forall₂ (fun chunk group => List.Forall₂ (fun text result =>
            offsetHtmlIds platform text chunk.1 = .ok result)
          ((responseElements chunk.2).flatMap elementHtml) group)
          located groups ∧
        final.elementTexts elementHtml =
          state.elementTexts elementHtml ++ groups.flatten := by
  induction responses generalizing state with
  | nil =>
      cases success
      exact ⟨(List.append_nil _).symm, (List.append_nil _).symm,
        ⟨[], .nil, (List.append_nil _).symm⟩,
        [], .nil, (List.append_nil _).symm⟩
  | cons response responses induction =>
      obtain ⟨start, pageCount, response⟩ := response
      rw [List.foldlM_cons] at success
      obtain ⟨next, first, success⟩ := bind_eq_ok.mp success
      obtain ⟨ids, nextId, markdown, texts, ⟨html, htmlAt, htmls⟩,
        group, groupAt, groups⟩ := mergeChunk_spec first
      obtain ⟨laterMarkdown, laterTexts, ⟨others, othersAt, laterHtmls⟩,
        rest, restAt, laterGroups⟩ := induction success
      rw [nextId, ids] at othersAt restAt
      refine ⟨?_, ?_, ⟨html :: others, .cons htmlAt othersAt, ?_⟩,
        group :: rest, .cons groupAt restAt, ?_⟩
      · rw [laterMarkdown, markdown, List.append_assoc, ← List.filter_append]
        rfl
      · rw [laterTexts, texts, List.append_assoc]
        rfl
      · rw [laterHtmls, htmls, List.append_assoc, ← List.filter_append]
        rfl
      · rw [laterGroups, groups, List.append_assoc]
        rfl

/-- The texts of a merge: those of the content objects, or else those of the
elements. -/
private theorem contentFields_mergeParseChunks (breaks : platform.BreaksLines)
    {responses : List (ℕ × ℕ × ParsedDocument)} {totalPages : ℤ}
    {merged : JsonObject}
    (accepted : mergeParseChunks platform responses totalPages = .ok merged) :
    let raws := responses.map (·.2.2.rawResponse)
    let located := (elementIdOffsets [] 0 raws).zip raws
    let markdown := joinNonempty "\n\n" (raws.map (contentText · "markdown"))
    ∃ htmls elements, Renumbered platform (contentText · "html") located
        htmls ∧
      Renumbered platform elementsHtml located elements ∧
      contentFields merged =
        (if markdown = "" then
            joinNonempty "\n\n" (raws.map elementsMarkdown)
          else markdown,
          if joinNonempty "\n" htmls = "" then joinNonempty "\n" elements
          else joinNonempty "\n" htmls) := by
  obtain ⟨model, _, success⟩ := bind_eq_ok.mp accepted
  obtain ⟨final, looped, success⟩ := bind_eq_ok.mp success
  have same := Except.ok.inj success
  obtain ⟨markdown, texts, ⟨htmls, htmlsAt, html⟩, groups, groupsAt,
    elements⟩ := foldlM_mergeChunk looped
  refine ⟨htmls, groups.map ("\n".intercalate ·), htmlsAt, ?_, ?_⟩
  · refine List.forall₂_map_right_iff.mpr (groupsAt.imp ?_)
    intro chunk group each
    exact offsetHtmlIds_intercalate breaks each
  · have markdowns : ∀ group ∈ (responses.map (·.2.2.rawResponse)).map
        fun raw => (responseElements raw).flatMap elementMarkdown,
        ∀ part ∈ group, part ≠ "" := by
      intro group found part member
      obtain ⟨raw, _, rfl⟩ := List.mem_map.mp found
      obtain ⟨element, _, inside⟩ := List.mem_flatMap.mp member
      exact elementMarkdown_ne_empty part inside
    have htmlTexts : ∀ group ∈ groups, ∀ part ∈ group, part ≠ "" := by
      intro group found part member
      obtain ⟨chunk, _, each⟩ := exists_left_of_forall₂ groupsAt found
      obtain ⟨text, source, renumbered⟩ := exists_left_of_forall₂ each member
      obtain ⟨element, _, inside⟩ := List.mem_flatMap.mp source
      exact offsetHtmlIds_ne_empty renumbered
        (elementHtml_ne_empty text inside)
    have sources : responseElements merged = final.elements.map .object := by
      rw [← same]
      split_ifs <;> rfl
    have elementsMarkdownAt : elementsMarkdown merged =
        joinNonempty "\n\n" ((responses.map (·.2.2.rawResponse)).map
          elementsMarkdown) := by
      rw [elementsMarkdown, sources, List.flatMap_map]
      refine (congrArg _ texts).trans ?_
      rw [show MergeState.elementTexts {} elementMarkdown = [] from rfl,
        List.nil_append, intercalate_flatten markdowns, List.map_map]
      rfl
    have elementsHtmlAt : elementsHtml merged =
        joinNonempty "\n" (groups.map ("\n".intercalate ·)) := by
      rw [elementsHtml, sources, List.flatMap_map]
      refine (congrArg _ elements).trans ?_
      rw [show MergeState.elementTexts {} elementHtml = [] from rfl,
        List.nil_append, intercalate_flatten htmlTexts]
    rw [List.nil_append] at markdown html
    rw [contentFields_of_texts (by rw [← same]; split_ifs <;> rfl) rfl rfl,
      elementsMarkdownAt, elementsHtmlAt, markdown, html]
    rfl

/-! ## The texts of the merge and of the chunks -/

/-- The chunks with the offsets of their ids. -/
def located (raws : List JsonObject) : List (ℤ × JsonObject) :=
  (elementIdOffsets [] 0 raws).zip raws

/-- The texts of the merge are the texts of the chunks, joined. -/
def KeepsContent (platform : Platform) (raws : List JsonObject)
    (merged : JsonObject) : Prop :=
  (contentFields merged).1 =
      joinNonempty "\n\n" (raws.map fun raw => (contentFields raw).1) ∧
    ∃ htmls, Renumbered platform (fun raw => (contentFields raw).2)
        (located raws) htmls ∧
      (contentFields merged).2 = joinNonempty "\n" htmls

/-- Once a content object has a text, all texts are in content objects.  When
none has, the stated texts read like the elements. -/
structure TextsAgree (platform : Platform) (raws : List JsonObject) :
    Prop where
  markdownInContent :
    (∃ raw ∈ raws, contentText raw "markdown" ≠ "") →
      ∀ raw ∈ raws, contentText raw "markdown" = "" →
        statedOr (statedMarkdown raw) (elementsMarkdown raw) = ""
  markdownInElements :
    (∀ raw ∈ raws, contentText raw "markdown" = "") →
      joinNonempty "\n\n" (raws.map elementsMarkdown) =
        joinNonempty "\n\n" (raws.map fun raw =>
          statedOr (statedMarkdown raw) (elementsMarkdown raw))
  htmlInContent :
    (∃ raw ∈ raws, contentText raw "html" ≠ "") →
      ∀ raw ∈ raws, contentText raw "html" = "" →
        statedOr (statedHtml raw) (elementsHtml raw) = ""
  htmlInElements :
    (∀ raw ∈ raws, contentText raw "html" = "") →
      ∃ elements stated, Renumbered platform elementsHtml (located raws)
          elements ∧
        Renumbered platform (fun raw =>
          statedOr (statedHtml raw) (elementsHtml raw)) (located raws)
          stated ∧
        joinNonempty "\n" elements = joinNonempty "\n" stated

private theorem map_snd_located (raws : List JsonObject) :
    (located raws).map Prod.snd = raws := by
  have count : ∀ (ids : List ℤ) (offset : ℤ),
      (elementIdOffsets ids offset raws).length = raws.length := by
    induction raws with
    | nil => exact fun _ _ => rfl
    | cons raw raws induction =>
        exact fun ids offset => congrArg (· + 1) (induction _ _)
  exact List.map_snd_zip (count [] 0).ge

private theorem forall_located {raws : List JsonObject}
    (property : JsonObject → Prop) :
    (∀ chunk ∈ located raws, property chunk.2) ↔
      ∀ raw ∈ raws, property raw := by
  conv_rhs => rw [← map_snd_located raws]
  exact List.forall_mem_map.symm

private theorem exists_located {raws : List JsonObject}
    (property : JsonObject → Prop) :
    (∃ chunk ∈ located raws, property chunk.2) ↔
      ∃ raw ∈ raws, property raw := by
  conv_rhs => rw [← map_snd_located raws]
  simp only [List.mem_map, exists_exists_and_eq_and]

private theorem markdown_iff {raws : List JsonObject} {merged : String}
    (texts : merged =
      if joinNonempty "\n\n" (raws.map (contentText · "markdown")) = "" then
        joinNonempty "\n\n" (raws.map elementsMarkdown)
      else joinNonempty "\n\n" (raws.map (contentText · "markdown"))) :
    merged = joinNonempty "\n\n" (raws.map fun raw =>
          (contentFields raw).1) ↔
      ((∃ raw ∈ raws, contentText raw "markdown" ≠ "") →
        ∀ raw ∈ raws, contentText raw "markdown" = "" →
          (contentFields raw).1 = "") ∧
      ((∀ raw ∈ raws, contentText raw "markdown" = "") →
        joinNonempty "\n\n" (raws.map elementsMarkdown) =
          joinNonempty "\n\n" (raws.map fun raw =>
            (contentFields raw).1)) := by
  have single : ∀ (text : JsonObject → String) results,
      List.Forall₂ (fun raw result => text raw = result) raws results ↔
        results = raws.map text := by
    intro text results
    constructor
    · intro related
      have same := map_eq_of_forall₂ text id
        (fun _ _ same => same.symm) related
      rwa [List.map_id] at same
    · rintro rfl
      rw [List.forall₂_map_right_iff, List.forall₂_same]
      exact fun _ _ => rfl
  have joined := fallback_join_iff "\n\n" (raws.map elementsMarkdown)
    (fun _ text result => text = result)
    (fun _ _ _ _ left right => left.symm.trans right)
    (fun _ _ _ same => by rw [same])
    (fun raw (_ : raw ∈ raws) filled => contentFields_markdown filled)
    ((single (contentText · "markdown") _).mpr rfl)
  simp only [single, exists_eq_left] at joined
  rw [texts]
  exact joined

private theorem html_iff {raws : List JsonObject} {merged : String}
    {htmls elements : List String}
    (htmlsAt : Renumbered platform (contentText · "html") (located raws) htmls)
    (texts : merged =
      if joinNonempty "\n" htmls = "" then joinNonempty "\n" elements
      else joinNonempty "\n" htmls) :
    (∃ htmls, Renumbered platform (fun raw => (contentFields raw).2)
        (located raws) htmls ∧ merged = joinNonempty "\n" htmls) ↔
      ((∃ raw ∈ raws, contentText raw "html" ≠ "") →
        ∀ raw ∈ raws, contentText raw "html" = "" →
          (contentFields raw).2 = "") ∧
      ((∀ raw ∈ raws, contentText raw "html" = "") →
        ∃ stated, Renumbered platform (fun raw => (contentFields raw).2)
            (located raws) stated ∧
          joinNonempty "\n" elements = joinNonempty "\n" stated) := by
  have joined := fallback_join_iff "\n" elements
    (fun (chunk : ℤ × JsonObject) text result =>
      offsetHtmlIds platform text chunk.1 = .ok result)
    (fun _ _ _ _ left right => Except.ok.inj (left.symm.trans right))
    (fun _ _ _ renumbered => offsetHtmlIds_eq_empty_iff renumbered)
    (fun chunk (_ : chunk ∈ located raws) filled => contentFields_html filled)
    htmlsAt
  rw [forall_located (fun raw => contentText raw "html" = "" →
      (contentFields raw).2 = ""),
    forall_located (fun raw => contentText raw "html" = ""),
    exists_located (fun raw => contentText raw "html" ≠ "")]
    at joined
  rw [texts]
  exact joined

/-- The merge of parse chunks keeps all texts exactly when the chunks agree
on where their texts are. -/
theorem merge_keeps_content_iff (breaks : platform.BreaksLines)
    {responses : List (ℕ × ℕ × ParsedDocument)} {totalPages : ℤ}
    {merged : JsonObject}
    (accepted : mergeParseChunks platform responses totalPages = .ok merged) :
    KeepsContent platform (responses.map (·.2.2.rawResponse)) merged ↔
      TextsAgree platform (responses.map (·.2.2.rawResponse)) := by
  obtain ⟨htmls, elements, htmlsAt, elementsAt, texts⟩ :=
    contentFields_mergeParseChunks breaks accepted
  have markdown := markdown_iff (congrArg Prod.fst texts)
  have html := html_iff htmlsAt (congrArg Prod.snd texts)
  rw [KeepsContent, markdown, html]
  simp only [contentFields_eq]
  constructor
  · rintro ⟨⟨inContent, inElements⟩, inContent', inElements'⟩
    exact
      { markdownInContent := inContent
        markdownInElements := inElements
        htmlInContent := inContent'
        htmlInElements := fun none => by
          obtain ⟨stated, statedAt, same⟩ := inElements' none
          exact ⟨elements, stated, elementsAt, statedAt, same⟩ }
  · intro agree
    refine ⟨⟨agree.markdownInContent, agree.markdownInElements⟩,
      agree.htmlInContent, fun none => ?_⟩
    obtain ⟨elements', stated, elementsAt', statedAt, same⟩ :=
      agree.htmlInElements none
    have unique : elements = elements' := List.right_unique_forall₂'
      (fun _ _ _ left right => Except.ok.inj (left.symm.trans right))
      elementsAt elementsAt'
    exact ⟨stated, statedAt, unique ▸ same⟩

private theorem samplePlatform_breaksLines : samplePlatform.BreaksLines :=
  { notWord := by decide
    notDigit := by decide }

/-- Pages 1 to 10 with their Markdown at the top level, page 11 with a content
object. -/
def mixedChunks : List (ℕ × ℕ × ParsedDocument) :=
  [(0, 10, { rawResponse := [("model", .str "m"), ("markdown", .str "a")] }),
    (10, 1,
      { rawResponse := [("model", .str "m"),
          ("content", .object [("markdown", .str "b")])] })]

theorem top_level_markdown_dropped :
    ∃ merged, samplePlatform.BreaksLines ∧
      mergeParseChunks samplePlatform mixedChunks 11 = .ok merged ∧
      ¬KeepsContent samplePlatform
        (mixedChunks.map (·.2.2.rawResponse)) merged := by
  refine ⟨_, samplePlatform_breaksLines, rfl, ?_⟩
  rintro ⟨markdown, _⟩
  revert markdown
  decide +kernel

/-- Two chunks with content objects; the ids of the second are renumbered. -/
def uniformChunks : List (ℕ × ℕ × ParsedDocument) :=
  [(0, 10,
      { rawResponse := [("model", .str "m"),
          ("content", .object [("markdown", .str "a"), ("html", .str "a")])] }),
    (10, 1,
      { rawResponse := [("model", .str "m"),
          ("content", .object [("markdown", .str "b")])] })]

theorem uniform_chunks_kept :
    ∃ merged, mergeParseChunks samplePlatform uniformChunks 11 = .ok merged ∧
      KeepsContent samplePlatform
        (uniformChunks.map (·.2.2.rawResponse)) merged := by
  have accepted : mergeParseChunks samplePlatform uniformChunks 11 =
      .ok _ := rfl
  refine ⟨_, accepted,
    (merge_keeps_content_iff samplePlatform_breaksLines accepted).mpr ?_⟩
  exact
    { markdownInContent := fun _ => by decide +kernel
      markdownInElements := by decide +kernel
      htmlInContent := fun _ => by decide +kernel
      htmlInElements := fun none => absurd none (by decide +kernel) }

end RagBench
