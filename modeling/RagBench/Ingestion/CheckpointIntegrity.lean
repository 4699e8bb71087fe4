import RagBench.Grouping
import RagBench.Ingestion.ChunkPageCounts

/-!
# Integrity of new checkpoints

What `_normalize` stores passes the test of a cache hit: the hash, the content
fields, the elements and the page mappings are computed again from the same
response.  A response without NaN equals itself.
-/

namespace RagBench

namespace Json

/-- A decoded value without infinite floats and NaN. -/
structure Plain (value : Json) : Prop where
  compliant : value.isCompliant = true
  unique : value.UniqueKeys

theorem Plain.items {items : List Json} (plain : (array items).Plain) :
    ∀ item ∈ items, item.Plain := by
  have compliant := (itemsCompliant_iff items).mp plain.compliant
  have unique : ∀ items : List Json, ItemsUnique items →
      ∀ item ∈ items, item.UniqueKeys := by
    intro items
    induction items with
    | nil => exact fun _ => List.forall_mem_nil _
    | cons item rest induction =>
        rintro ⟨here, later⟩
        exact List.forall_mem_cons.mpr ⟨here, induction later⟩
  exact fun item member => ⟨compliant item member,
    unique items plain.unique item member⟩

theorem Plain.values {entries : List (String × Json)}
    (plain : (object entries).Plain) :
    ∀ entry ∈ entries, entry.2.Plain := by
  have compliant := (entriesCompliant_iff entries).mp plain.compliant
  have unique : ∀ entries : List (String × Json), EntriesUnique entries →
      ∀ entry ∈ entries, entry.2.UniqueKeys := by
    intro entries
    induction entries with
    | nil => exact fun _ => List.forall_mem_nil _
    | cons entry rest induction =>
        rintro ⟨here, later⟩
        exact List.forall_mem_cons.mpr ⟨here, induction later⟩
  exact fun entry member => ⟨compliant entry member,
    unique entries plain.unique.2 entry member⟩

theorem Plain.get? {entries : List (String × Json)} {key : String}
    {value : Json} (plain : (object entries).Plain)
    (found : get? entries key = some value) : value.Plain :=
  plain.values (key, value)
    ((Dict.lookup_eq_some_iff plain.unique.1).mp found)

theorem plain_array {items : List Json} (plain : ∀ item ∈ items, item.Plain) :
    (array items).Plain := by
  refine ⟨(itemsCompliant_iff items).mpr fun item member =>
    (plain item member).compliant, ?_⟩
  change ItemsUnique items
  induction items with
  | nil => trivial
  | cons item rest induction =>
      obtain ⟨here, later⟩ := List.forall_mem_cons.mp plain
      exact ⟨here.unique, induction later⟩

theorem plain_object {entries : List (String × Json)}
    (nodup : (entries.map Prod.fst).Nodup)
    (plain : ∀ entry ∈ entries, entry.2.Plain) : (object entries).Plain := by
  refine ⟨(entriesCompliant_iff entries).mpr fun entry member =>
    (plain entry member).compliant, nodup, ?_⟩
  clear nodup
  induction entries with
  | nil => trivial
  | cons entry rest induction =>
      obtain ⟨here, later⟩ := List.forall_mem_cons.mp plain
      exact ⟨here.unique, induction later⟩

mutual

/-- A plain value equals itself. -/
theorem equals_self : ∀ value : Json, value.Plain → equals value value = true
  | .null, _ => rfl
  | .bool value, _ => by cases value <;> rfl
  | .int value, _ => decide_eq_true rfl
  | .float (.finite value), _ => decide_eq_true rfl
  | .float .infinity, _ => rfl
  | .float .negativeInfinity, _ => rfl
  | .float .nan, plain => by cases plain.compliant
  | .str value, _ => decide_eq_true rfl
  | .array items, plain => itemsEqual_self items plain.items
  | .object entries, plain => by
      rw [equals, entriesEqual_self entries entries plain.unique.1
        (fun _ member => member) plain.values]
      simp

theorem itemsEqual_self : ∀ items : List Json,
    (∀ item ∈ items, item.Plain) → itemsEqual items items = true
  | [], _ => rfl
  | item :: rest, plain => by
      obtain ⟨here, later⟩ := List.forall_mem_cons.mp plain
      rw [itemsEqual, equals_self item here, itemsEqual_self rest later]
      rfl

theorem entriesEqual_self : ∀ rest entries : List (String × Json),
    (entries.map Prod.fst).Nodup → (∀ entry ∈ rest, entry ∈ entries) →
      (∀ entry ∈ rest, entry.2.Plain) → entriesEqual rest entries = true
  | [], _, _, _, _ => rfl
  | (key, value) :: rest, entries, nodup, within, plain => by
      obtain ⟨listed, within⟩ := List.forall_mem_cons.mp within
      obtain ⟨here, plain⟩ := List.forall_mem_cons.mp plain
      have found : Json.get? entries key = some value :=
        (Dict.lookup_eq_some_iff nodup).mpr listed
      rw [entriesEqual, found]
      dsimp only
      rw [equals_self value here,
        entriesEqual_self rest entries nodup within plain]
      rfl

end

end Json

theorem sameItems_self {items : List JsonObject}
    (plain : ∀ item ∈ items, (Json.object item).Plain) :
    sameItems items items = true :=
  Json.itemsEqual_self _ (List.forall_mem_map.mpr plain)

/-! ## Page mappings -/

/-- The element indexes of a mapping. -/
def mappedIndexes (mapping : JsonObject) : List ℤ :=
  match Json.get? mapping "element_indexes" with
  | some (.array items) => items.filterMap Json.asInt
  | _ => []

/-- `item.get("page", item.get("page_number"))`. -/
def elementPage (element : JsonObject) : Option ℤ :=
  ((Json.get? element "page").getD
    ((Json.get? element "page_number").getD .null)).asInt

/-- The mappings cover the pages, and each element belongs to its page. -/
structure MapsPages (pages : ℕ) (elements mappings : List JsonObject) :
    Prop where
  covered : mappings.map (Json.get? · "page") =
    (pageRange pages).map fun page => some (.int page)
  once : (mappings.flatMap mappedIndexes).Perm
    ((List.range elements.length).map fun (index : ℕ) => (index : ℤ))
  own_page : ∀ mapping ∈ mappings, ∀ index : ℕ,
    (index : ℤ) ∈ mappedIndexes mapping →
      ∃ element page, elements[index]? = some element ∧
        elementPage element = some page ∧
        Json.get? mapping "page" = some (.int page)

@[simp] theorem mappedIndexes_pageMapping (page : ℤ) (indexes : List ℕ)
    (metadata : Option JsonObject) :
    mappedIndexes (pageMapping page indexes metadata) =
      indexes.map fun (index : ℕ) => (index : ℤ) := by
  have found : Json.get? (pageMapping page indexes metadata)
      "element_indexes" = some (.array (indexes.map fun (index : ℕ) =>
        Json.int index)) := by
    simp [pageMapping, Json.get?, Dict.lookup, ← List.map_eq_flatMap]
  rw [mappedIndexes, found]
  simp [List.filterMap_map, Function.comp_def, Json.asInt]

theorem get?_page_pageMapping (page : ℤ) (indexes : List ℕ)
    (metadata : Option JsonObject) :
    Json.get? (pageMapping page indexes metadata) "page" =
      some (.int page) := rfl

theorem mem_pageRange {pages : ℕ} {page : ℤ} :
    page ∈ pageRange pages ↔ 1 ≤ page ∧ page ≤ pages := by
  unfold pageRange
  rw [List.mem_map]
  constructor
  · rintro ⟨index, small, rfl⟩
    have below := List.mem_range.mp small
    omega
  · rintro ⟨low, high⟩
    exact ⟨(page - 1).toNat, List.mem_range.mpr (by omega), by omega⟩

theorem pageRange_nodup (pages : ℕ) : (pageRange pages).Nodup :=
  List.nodup_range.map fun left right same => by
    simpa using same

theorem elementPages_ok {raw : JsonObject} {expectedPages : ℕ}
    {elements : List JsonObject} {pages : List ℤ}
    (listed : responseElements raw = elements.map .object)
    (located : elementPages raw expectedPages = .ok pages) :
    List.Forall₂ (fun element page => elementPage element = some page ∧
      page ∈ pageRange expectedPages) elements pages := by
  unfold elementPages at located
  rw [listed, mapM_eq_ok, List.forall₂_map_left_iff] at located
  refine located.imp fun element page read => ?_
  dsimp only at read
  unfold readPage at read
  split at read
  · cases read
  · next value found =>
      split_ifs at read with inside
      cases read
      exact ⟨found, mem_pageRange.mpr inside⟩

/-- The mappings of a response. -/
theorem pageMappings_maps {raw : JsonObject} {expectedPages : ℕ}
    {elements mappings : List JsonObject}
    (listed : responseElements raw = elements.map .object)
    (built : pageMappings raw expectedPages = .ok mappings) :
    MapsPages expectedPages elements mappings := by
  obtain ⟨metadata, -, built⟩ := bind_eq_ok.mp built
  obtain ⟨pages, located, built⟩ := bind_eq_ok.mp built
  obtain rfl := Except.ok.inj built
  have read := elementPages_ok listed located
  have pageAt : ∀ page index, (page, index) ∈ pages.zipIdx →
      page ∈ pageRange expectedPages ∧ ∃ element,
        elements[index]? = some element ∧ elementPage element = some page := by
    intro page index member
    have there : pages[index]? = some page :=
      List.mem_zipIdx_iff_getElem?.mp member
    obtain ⟨small, rfl⟩ := List.getElem?_eq_some_iff.mp there
    have small' : index < elements.length := read.length_eq ▸ small
    obtain ⟨stated, inside⟩ := read.get small' small
    exact ⟨inside, _, List.getElem?_eq_getElem small', stated⟩
  refine ⟨?_, ?_, ?_⟩
  · rw [List.map_map]
    exact List.map_congr_left fun page _ => rfl
  · have within : ∀ entry ∈ pages.zipIdx, entry.1 ∈ pageRange expectedPages :=
      fun entry member => (pageAt entry.1 entry.2 member).1
    rw [List.flatMap_map]
    simp only [mappedIndexes_pageMapping]
    rw [← List.map_flatMap, ← List.map_flatMap]
    refine List.Perm.map _ ?_
    refine ((flatMap_filter_perm Prod.fst (pageRange_nodup _)
      within).map Prod.snd).trans ?_
    rw [List.zipIdx_map_snd, read.length_eq, List.range_eq_range']
  · intro mapping member index listed
    obtain ⟨page, -, rfl⟩ := List.mem_map.mp member
    rw [mappedIndexes_pageMapping, List.mem_map] at listed
    obtain ⟨position, listed, same⟩ := listed
    obtain rfl := Int.ofNat_inj.mp same
    obtain ⟨⟨other, position⟩, chosen, rfl⟩ := List.mem_map.mp listed
    obtain ⟨located, there⟩ := List.mem_filter.mp chosen
    obtain rfl := of_decide_eq_true there
    obtain ⟨-, element, found, stated⟩ := pageAt _ _ located
    exact ⟨element, other, found, stated, get?_page_pageMapping _ _ _⟩

/-! ## What `_normalize` stores -/

/-- The metadata of a page comes from the response. -/
private theorem metadata_plain {raw : JsonObject} {expectedPages : ℕ}
    {metadata : Dict ℤ JsonObject} (plain : (Json.object raw).Plain)
    (read : metadataByPage raw expectedPages = .ok metadata) {page : ℤ}
    {entries : JsonObject} (found : metadata.get? page = some entries) :
    (Json.object entries).Plain := by
  unfold metadataByPage at read
  dsimp only at read
  split at read
  · cases read
    cases found
  · cases read
    cases found
  · next items listed =>
      obtain ⟨pages, located, built⟩ := bind_eq_ok.mp read
      obtain rfl := Except.ok.inj built
      have member := Dict.mem_of_get?_ofList found
      obtain ⟨index, small, same⟩ := List.getElem_of_mem member
      have each := mapM_eq_ok.mp located
      have step := each.get (each.length_eq ▸ small) small
      rw [List.get_eq_getElem, List.get_eq_getElem, same] at step
      split at step
      · next stated item =>
          obtain ⟨_, -, returned⟩ := bind_eq_ok.mp step
          obtain ⟨rfl, rfl⟩ := Prod.mk.inj (Except.ok.inj returned)
          exact item ▸ (plain.get? listed).items _ (List.getElem_mem _)
      · cases step
  · cases read

private theorem pageMapping_plain {page : ℤ} {indexes : List ℕ}
    {metadata : Option JsonObject}
    (plain : ∀ entries, metadata = some entries →
      (Json.object entries).Plain) :
    (Json.object (pageMapping page indexes metadata)).Plain := by
  have number : ∀ value : ℤ, (Json.int value).Plain :=
    fun _ => ⟨rfl, trivial⟩
  have listed : ∀ values : List ℤ, (Json.array (values.map .int)).Plain :=
    fun values => Json.plain_array (List.forall_mem_map.mpr
      fun value _ => number value)
  cases metadata with
  | none =>
      refine Json.plain_object (by simp [pageMapping]) ?_
      simp [pageMapping, number, listed]
  | some entries =>
      refine Json.plain_object (by simp [pageMapping]) ?_
      simp [pageMapping, number, listed, plain entries rfl]

/-- The fields that identify a new checkpoint, and what it keeps. -/
structure Normalized (parser : CorpusParser) (snapshot : CorpusSnapshot)
    (document : DocumentRecord) (mode : ParseMode) (raw : JsonObject)
    (checkpoint : ParseCheckpoint) : Prop where
  key : checkpoint.key =
    { snapshotId := snapshot.snapshotId
      sourceSha256 := document.sha256
      mode := mode
      providerModelId := parser.modelId
      providerModelVersion := parser.modelVersion }
  documentId : checkpoint.documentId = document.documentId
  expectedPages : checkpoint.expectedPages = document.pageCount
  status : checkpoint.status = .succeeded
  rawResponse : checkpoint.rawResponse = some raw
  hash : ∃ hash, checkpoint.rawResponseHash = some hash ∧
    parser.platform.canonicalJsonHash (.object raw) = .ok hash
  markdown : checkpoint.markdown = (contentFields raw).1
  html : checkpoint.html = (contentFields raw).2
  elements : (Json.get? raw "elements").getD (.array []) =
    .array (checkpoint.elements.map .object)
  pageMappings : pageMappings raw document.pageCount =
    .ok checkpoint.pageMappings

theorem objects_ok {malformed : PyException} {items : List Json}
    {elements : List JsonObject}
    (read : objects malformed items = .ok elements) :
    items = elements.map .object := by
  have each := mapM_eq_ok.mp read
  clear read
  induction each with
  | nil => rfl
  | @cons item element _ _ here _ induction =>
      rw [List.map_cons, induction]
      split at here
      · cases here
        rfl
      · cases here

theorem normalize_ok {parser : CorpusParser} {snapshot : CorpusSnapshot}
    {document : DocumentRecord} {mode : ParseMode}
    {response : ParsedDocument} {latencyMs : ℕ} {checkpoint : ParseCheckpoint}
    (normalized : parser.normalize snapshot document mode response latencyMs =
      .ok checkpoint) :
    Normalized parser snapshot document mode response.rawResponse
      checkpoint := by
  unfold CorpusParser.normalize at normalized
  dsimp only at normalized
  split_ifs at normalized
  · cases normalized
  · obtain ⟨elements, listed, normalized⟩ := bind_eq_ok.mp normalized
    obtain ⟨stated, -, normalized⟩ := bind_eq_ok.mp normalized
    split_ifs at normalized
    · cases normalized
    · obtain ⟨mappings, mapped, normalized⟩ := bind_eq_ok.mp normalized
      obtain ⟨cost, -, normalized⟩ := bind_eq_ok.mp normalized
      obtain ⟨hash, hashed, normalized⟩ := bind_eq_ok.mp normalized
      obtain rfl := Except.ok.inj normalized
      refine ⟨rfl, rfl, rfl, rfl, rfl, ⟨hash, rfl, hashed⟩, rfl, rfl,
        ?_, mapped⟩
      unfold CorpusParser.providerElements at listed
      dsimp only at listed
      split at listed
      · next items found =>
          rw [found, objects_ok listed]
      · cases listed

/-- A new checkpoint passes both tests of a cache hit. -/
theorem Normalized.passes {parser : CorpusParser} {snapshot : CorpusSnapshot}
    {document : DocumentRecord} {mode : ParseMode} {raw : JsonObject}
    {checkpoint : ParseCheckpoint} {floats : FloatText}
    (normalized : Normalized parser snapshot document mode raw checkpoint)
    (hashes : parser.platform.HashesCanonically floats)
    (digests : ∀ bytes, parser.platform.sha256Hex bytes ≠ "")
    (unique : (Json.object raw).UniqueKeys) :
    checkpoint.cacheIntegrityOk parser.platform = .ok true ∧
      parser.checkpointMatches checkpoint document = true := by
  obtain ⟨hash, stored, hashed⟩ := normalized.hash
  obtain ⟨text, printed, same⟩ : ∃ text, PyValue.canonicalJson floats
      (PyValue.ofJson (.object raw)) = .ok text ∧
        parser.platform.sha256Hex text.toByteArray.data.toList = hash := by
    rw [hashes] at hashed
    obtain ⟨text, printed, same⟩ := bind_eq_ok.mp hashed
    exact ⟨text, printed, Except.ok.inj same⟩
  have nonempty : hash ≠ "" := same ▸ digests _
  have plain : (Json.object raw).Plain :=
    ⟨(PyValue.canonicalJson_ofJson.mp printed).1, unique⟩
  have elements : ∀ element ∈ checkpoint.elements,
      (Json.object element).Plain := by
    refine List.forall_mem_map.mp (Json.Plain.items ?_)
    rw [← normalized.elements]
    cases found : Json.get? raw "elements" with
    | none => exact Json.plain_array (List.forall_mem_nil _)
    | some value => exact plain.get? found
  have mappings : ∀ mapping ∈ checkpoint.pageMappings,
      (Json.object mapping).Plain := by
    obtain ⟨metadata, read, built⟩ := bind_eq_ok.mp normalized.pageMappings
    obtain ⟨pages, -, built⟩ := bind_eq_ok.mp built
    rw [← Except.ok.inj built]
    exact List.forall_mem_map.mpr fun page _ =>
      pageMapping_plain fun entries found => metadata_plain plain read found
  constructor
  · unfold ParseCheckpoint.cacheIntegrityOk
    rw [normalized.status, normalized.rawResponse, stored]
    dsimp only
    rw [if_neg nonempty, normalized.elements]
    dsimp only
    rw [normalized.expectedPages, normalized.pageMappings]
    dsimp only
    rw [hashed]
    have same_elements : sameItems checkpoint.elements
        (dictItems (checkpoint.elements.map .object)) = true := by
      rw [dictItems, List.filterMap_map]
      simpa [Function.comp_def] using sameItems_self elements
    exact congrArg Except.ok (decide_eq_true ⟨rfl, normalized.markdown,
      normalized.html, same_elements, sameItems_self mappings⟩)
  · have key := normalized.key
    cases checkpoint
    cases key
    simp [CorpusParser.checkpointMatches, ← normalized.expectedPages]

end RagBench
