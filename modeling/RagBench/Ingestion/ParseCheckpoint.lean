import RagBench.Ingestion.ParseContent
import RagBench.Ingestion.ParsePlanning

/-!
# Parse checkpoints

A checkpoint keeps the raw response of a document next to the normalized
content.  It is valid as a cache entry when the content is still what the raw
response says.
-/

namespace RagBench

/-- `ParseIntegrityError(RuntimeError)`. -/
def parseIntegrityErrorClass : ExceptionClass :=
  .derived "ParseIntegrityError" .runtimeError

def parseIntegrityError (message : String) : PyException :=
  ⟨parseIntegrityErrorClass, message⟩

/-- The fields of a manifest record that the parser reads. -/
structure DocumentRecord where
  documentId : String
  sha256 : String
  pageCount : ℕ
  localPath : String
  deriving DecidableEq

structure CorpusSnapshot where
  snapshotId : String
  documents : List DocumentRecord
  snapshotId_ne_empty : snapshotId ≠ ""
  unique : (documents.map (·.sha256)).Nodup

inductive CheckpointStatus where
  | succeeded
  | failed
  | reconciliationRequired
  deriving DecidableEq, Repr

structure ParseCheckpoint where
  snapshotId : String
  documentId : String
  sourceSha256 : String
  expectedPages : ℕ
  providerModelId : String
  providerModelVersion : String
  mode : ParseMode
  status : CheckpointStatus
  rawResponse : Option JsonObject
  rawResponseHash : Option String
  markdown : String
  html : String
  elements : List JsonObject
  pageMappings : List JsonObject
  latencyMs : ℕ
  costUsd : ℚ
  correlationId : Option String := none
  error : Option String := none

/-! ## Reading a raw response -/

/-- `_provider_version`. -/
def providerVersion (raw : JsonObject) : Option String :=
  match (Json.get? raw "model").getD
      ((Json.get? raw "model_version").getD .null) with
  | .str value => if value = "" then none else some value
  | _ => none

/-- The dictionaries of a list, as in `_evidence_elements`. -/
def dictItems (items : List Json) : List JsonObject :=
  items.filterMap fun item =>
    match item with
    | .object entries => some entries
    | _ => none

/-- `_evidence_elements`. -/
def evidenceElements (raw : JsonObject) : List JsonObject :=
  dictItems (responseElements raw)

/-- A page number from 1 to the expected number of pages. -/
def readPage (expectedPages : ℕ) (value : Json) (lacking outside : String) :
    Except PyException ℤ :=
  match value.asInt with
  | none => .error (parseIntegrityError lacking)
  | some page =>
      if 1 ≤ page ∧ page ≤ expectedPages then .ok page
      else .error (parseIntegrityError outside)

def metadataByPage (raw : JsonObject) (expectedPages : ℕ) :
    Except PyException (Dict ℤ JsonObject) :=
  let malformed := parseIntegrityError "provider page metadata is malformed"
  match Json.get? raw "pages" with
  | none | some .null => .ok .empty
  | some (.array items) => do
      let pages ← items.mapM fun item =>
        match item with
        | .object entries => do
            let page ← readPage expectedPages
              ((Json.get? entries "source_page").getD
                ((Json.get? entries "page_number").getD
                  ((Json.get? entries "page").getD .null)))
              "provider page metadata lacks a page number"
              "provider page metadata is outside the manifest page set"
            return (page, entries)
        | _ => .error malformed
      return .ofList pages
  | some _ => .error malformed

/-- The page of each element. -/
def elementPages (raw : JsonObject) (expectedPages : ℕ) :
    Except PyException (List ℤ) :=
  (responseElements raw).mapM fun item =>
    match item with
    | .object entries =>
        readPage expectedPages
          ((Json.get? entries "page").getD
            ((Json.get? entries "page_number").getD .null))
          "provider element lacks a page number"
          "provider element page is outside the manifest page set"
    | _ => .error (parseIntegrityError
        "provider response elements are malformed")

def pageMapping (page : ℤ) (indexes : List ℕ)
    (metadata : Option JsonObject) : JsonObject :=
  [("page", .int page),
    ("source_page", .int page),
    ("element_count", .int indexes.length),
    ("element_indexes", .array (indexes.map fun index => .int index))] ++
    match metadata with
    | some entries => [("provider_page_metadata", .object entries)]
    | none => []

/-- `range(1, expected_pages + 1)`. -/
def pageRange (expectedPages : ℕ) : List ℤ :=
  (List.range expectedPages).map fun (index : ℕ) => (index : ℤ) + 1

/-- `_page_mappings`. -/
def pageMappings (raw : JsonObject) (expectedPages : ℕ) :
    Except PyException (List JsonObject) := do
  let metadata ← metadataByPage raw expectedPages
  let pages ← elementPages raw expectedPages
  return (pageRange expectedPages).map fun page =>
    let indexes := (pages.zipIdx.filter fun located => located.1 = page).map
      Prod.snd
    pageMapping page indexes (metadata.get? page)

/-- `_safe_page_mappings`. -/
def safePageMappings (raw : JsonObject) (expectedPages : ℕ) :
    Except PyException (List JsonObject) :=
  match pageMappings raw expectedPages with
  | .ok mappings => .ok mappings
  | .error error =>
      if error.isInstance parseIntegrityErrorClass = true then
        .ok ((pageRange expectedPages).map fun page => pageMapping page [] none)
      else .error error

/-- The page counts a response states, in its usage and at the top. -/
def observedPageCounts (raw : JsonObject) : Except PyException (List Json) := do
  let usage ← match Json.get? raw "usage" with
    | none | some .null => .ok []
    | some (.object usage) => .ok usage
    | some _ => .error (parseIntegrityError "provider usage is malformed")
  return ["billable_pages", "pages", "page_count"].filterMap
      (Json.get? usage) ++
    ["billable_pages", "page_count"].filterMap (Json.get? raw)

/-- `_validate_provider_page_count`. -/
def validateProviderPageCount (raw : JsonObject) (expectedPages : ℕ) :
    Except PyException Bool := do
  let observed ← observedPageCounts raw
  if observed.any fun value => value.asInt.isNone then
    throw (parseIntegrityError "provider billable page count is malformed")
  if observed.any fun value => value.asInt ≠ some (expectedPages : ℤ) then
    throw (parseIntegrityError
      "provider billable page count does not match the corpus")
  return !observed.isEmpty

/-- `tuple(left) == tuple(right)` on dictionaries. -/
def sameItems (left right : List JsonObject) : Bool :=
  Json.itemsEqual (left.map .object) (right.map .object)

/-- `cache_integrity_ok`. -/
def ParseCheckpoint.cacheIntegrityOk (platform : Platform)
    (checkpoint : ParseCheckpoint) : Except PyException Bool :=
  match checkpoint.status, checkpoint.rawResponse,
      checkpoint.rawResponseHash with
  | .succeeded, some raw, some hash =>
      if hash = "" then .ok false
      else
        match (Json.get? raw "elements").getD (.array []) with
        | .array elements =>
            match RagBench.pageMappings raw checkpoint.expectedPages with
            | .error error =>
                if error.isInstance parseIntegrityErrorClass = true then
                  .ok false
                else .error error
            | .ok mappings => do
                let current ← platform.canonicalJsonHash (.object raw)
                return current = hash ∧
                  checkpoint.markdown = (contentFields raw).1 ∧
                  checkpoint.html = (contentFields raw).2 ∧
                  sameItems checkpoint.elements (dictItems elements) ∧
                  sameItems checkpoint.pageMappings mappings
        | _ => .ok false
  | _, _, _ => .ok false

/-! ## The repository -/

structure CheckpointKey where
  snapshotId : String
  sourceSha256 : String
  mode : ParseMode
  providerModelId : String
  providerModelVersion : String
  deriving DecidableEq

def ParseCheckpoint.key (checkpoint : ParseCheckpoint) : CheckpointKey :=
  { snapshotId := checkpoint.snapshotId
    sourceSha256 := checkpoint.sourceSha256
    mode := checkpoint.mode
    providerModelId := checkpoint.providerModelId
    providerModelVersion := checkpoint.providerModelVersion }

/-- Both repositories keep one checkpoint under each key. -/
structure ParseRepository where
  checkpoints : Dict CheckpointKey ParseCheckpoint
  keyed : ∀ entry ∈ checkpoints.entries, entry.2.key = entry.1

namespace ParseRepository

def empty : ParseRepository :=
  { checkpoints := .empty
    keyed := fun _ member => by cases member }

/-- `get`: the last checkpoint of the document, mode and model. -/
def get (repository : ParseRepository) (key : CheckpointKey) :
    Option ParseCheckpoint :=
  (repository.checkpoints.entries.filter fun entry =>
    entry.1.snapshotId = key.snapshotId ∧
      entry.1.sourceSha256 = key.sourceSha256 ∧ entry.1.mode = key.mode ∧
      entry.2.providerModelId = key.providerModelId ∧
      entry.2.providerModelVersion = key.providerModelVersion).getLast?.map
    Prod.snd

/-- `put`. -/
def put (repository : ParseRepository) (checkpoint : ParseCheckpoint) :
    ParseRepository :=
  { checkpoints := repository.checkpoints.set checkpoint.key checkpoint
    keyed := by
      intro entry member
      have found := (Dict.get?_eq_some_iff _).mpr member
      rw [Dict.get?_set] at found
      split_ifs at found with same
      · cases found
        exact same
      · exact repository.keyed _ ((Dict.get?_eq_some_iff _).mp found) }

private theorem getLast?_filter {entries : List (CheckpointKey × ParseCheckpoint)}
    (nodup : (entries.map Prod.fst).Nodup) (key : CheckpointKey) :
    (entries.filter fun entry => entry.1 = key).getLast?.map Prod.snd =
      Dict.lookup key entries := by
  induction entries with
  | nil => rfl
  | cons entry rest induction =>
      obtain ⟨fresh, nodup⟩ := List.nodup_cons.mp nodup
      by_cases same : entry.1 = key
      · have none : rest.filter (fun entry => entry.1 = key) = [] := by
          refine List.filter_eq_nil_iff.mpr fun other member => ?_
          have different : other.1 ≠ key := fun equal =>
            fresh (List.mem_map.mpr ⟨other, member, equal.trans same.symm⟩)
          simpa using different
        rw [List.filter_cons_of_pos (by simpa using same), none, Dict.lookup,
          if_pos same]
        rfl
      · rw [List.filter_cons_of_neg (by simpa using same), induction nodup,
          Dict.lookup, if_neg same]

/-- The checkpoints that match a key are the one under it. -/
theorem get_eq (repository : ParseRepository) (key : CheckpointKey) :
    repository.get key = repository.checkpoints.get? key := by
  rw [get, Dict.get?, ← getLast?_filter repository.checkpoints.nodup]
  congr 2
  refine List.filter_congr fun entry member => ?_
  have keyed := repository.keyed entry member
  rw [decide_eq_decide, ← keyed]
  cases key
  simp [ParseCheckpoint.key]

theorem key_of_get {repository : ParseRepository} {key : CheckpointKey}
    {checkpoint : ParseCheckpoint}
    (found : repository.get key = some checkpoint) : checkpoint.key = key := by
  rw [get_eq] at found
  exact repository.keyed _ ((Dict.get?_eq_some_iff _).mp found)

theorem get_put (repository : ParseRepository) (checkpoint : ParseCheckpoint)
    (key : CheckpointKey) :
    (repository.put checkpoint).get key =
      if checkpoint.key = key then some checkpoint
      else repository.get key := by
  rw [get_eq, get_eq]
  exact Dict.get?_set _ _ _ _

end ParseRepository

end RagBench
