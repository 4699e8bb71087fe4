import RagBench.Chunking.Records
import RagBench.Core.JsonDumps
import RagBench.Grouping
import RagBench.Ingestion.ParseCheckpoint
import RagBench.PyText
import RagBench.Sorting

/-!
# Normalizing a parse into blocks

The elements of a parsed document become blocks in the order of their pages.  A
page without elements becomes one empty block, and headers and footers that are
repeated over the pages are marked.
-/

namespace RagBench

inductive BlockKind where
  | heading
  | paragraph
  | table
  | image
  | header
  | footer
  | other
  | emptyPage
  deriving DecidableEq, Repr

/-- The other fields of a `DocumentBlock`. -/
structure NormalizedBlock extends DocumentBlock where
  blockKind : BlockKind
  sourceContent : String
  sourceElementIndexes : List ℕ

/-- What the normalizer uses of the libraries. -/
structure NormalizerTools extends Platform where
  floats : FloatText
  /-- `repr(text)`. -/
  reprText : String → List Char
  /-- `unicodedata.normalize("NFC", text)`. -/
  nfc : String → String

/-- `_KINDS`. -/
def blockKinds : List (String × BlockKind) :=
  [("heading", .heading), ("heading1", .heading), ("heading2", .heading),
    ("heading3", .heading), ("heading4", .heading), ("heading5", .heading),
    ("heading6", .heading), ("title", .heading), ("paragraph", .paragraph),
    ("text", .paragraph), ("table", .table), ("image", .image),
    ("header", .header), ("footer", .footer)]

/-- `value.get(key)`, with `None` for a missing key. -/
def getOrNone (entries : JsonObject) (key : String) : Json :=
  (Json.get? entries key).getD .null

/-- `left or right`. -/
def Json.orElse (left right : Json) : Json :=
  if left.truthy then left else right

/-! ## Texts -/

/-- The first string of these keys. -/
def firstText (entries : JsonObject) : List String → Option String
  | [] => none
  | key :: keys =>
      match Json.get? entries key with
      | some (.str candidate) => some candidate
      | _ => firstText entries keys

/-- `_text`. -/
def elementText (floats : FloatText) (value : Json)
    (preserveStructure : Bool) : String :=
  let dumped := String.ofList (value.dumps floats)
  match value with
  | .str text => text
  | .object entries =>
      match firstText entries ["markdown", "text", "html"] with
      | some candidate => candidate
      | none => if preserveStructure then dumped else ""
  | .array _ => if preserveStructure then dumped else ""
  | _ => ""

/-- `text.replace("\r\n", "\n")`. -/
def joinReturns : List Char → List Char
  | '\r' :: '\n' :: rest => '\n' :: joinReturns rest
  | character :: rest => character :: joinReturns rest
  | [] => []

/-- `text.replace("\r\n", "\n").replace("\r", "\n")`. -/
def unixLines (text : String) : String :=
  String.ofList ((joinReturns text.toList).map fun character =>
    if character = '\r' then '\n' else character)

/-- The characters of `_SPACE_RUN`. -/
def isRunSpace (character : Char) : Bool :=
  character ∈ [' ', '\x0c', '\x0b']

/-- A run of at least two of them becomes one space. -/
def closeRun : List Char → List Char
  | [] => []
  | [single] => [single]
  | _ => [' ']

/-- `_SPACE_RUN.sub(" ", line)`; a line has no `\n` to look back at. -/
def collapseRuns (run : List Char) : List Char → List Char
  | [] => closeRun run
  | character :: rest =>
      if isRunSpace character then collapseRuns (character :: run) rest
      else closeRun run ++ character :: collapseRuns [] rest

/-- `text.strip("\n")`. -/
def stripBreaks (text : List Char) : List Char :=
  (text.dropWhile (· = '\n')).rdropWhile (· = '\n')

/-- `_normalized`. -/
def normalizedText (tools : NormalizerTools) (value : String) : String :=
  let value := tools.nfc (unixLines value)
  String.ofList (stripBreaks (['\n'].intercalate
    ((value.toList.splitOn '\n').map fun line =>
      (collapseRuns [] line).rdropWhile isSpace)))

/-- `content.lstrip("#")`. -/
def withoutMarkers (content : String) : String :=
  String.ofList (content.toList.dropWhile (· = '#'))

/-- `_heading_label`. -/
def headingLabel (content : String) : String :=
  strip (withoutMarkers content)

/-- `_heading_level`. -/
def headingLevel (content : String) : ℕ :=
  let markers := content.length - (withoutMarkers content).length
  max 1 (min (if markers = 0 then 1 else markers) 6)

/-! ## The parsed document -/

/-- The argument of `normalize`. -/
inductive Parsed where
  | checkpoint (checkpoint : ParseCheckpoint)
  | mapping (entries : JsonObject)

/-- What `normalize` reads of it. -/
structure NormalizerInput where
  snapshot : String
  document : String
  sourceHash : String
  pages : ℤ
  elements : List JsonObject

/-- `for item in value`, of which the dictionaries are kept. -/
def iterateDicts : Option Json → Except PyException (List JsonObject)
  | none => .ok []
  | some (.array items) => .ok (dictItems items)
  | some (.object _) => .ok []
  | some (.str _) => .ok []
  | some value => .error (.typeError
      ("'" ++ value.typeName ++ "' object is not iterable"))

def Parsed.read (tools : NormalizerTools) :
    Parsed → Except PyException NormalizerInput
  | .checkpoint parsed => .ok
      { snapshot := parsed.snapshotId
        document := parsed.documentId
        sourceHash := parsed.sourceSha256
        pages := parsed.expectedPages
        elements := parsed.elements }
  | .mapping parsed => do
      let textOf (value : Json) : String :=
        (value.orElse (.str "")).pyStr tools.floats tools.reprText
      let pages ← ((getOrNone parsed "expected_pages").orElse (.int 0)).toInt
        tools.parseInt
      let elements ← iterateDicts (Json.get? parsed "elements")
      return {
        snapshot := textOf ((getOrNone parsed "parse_snapshot_id").orElse
          (getOrNone parsed "snapshot_id"))
        document := textOf (getOrNone parsed "document_id")
        sourceHash := textOf (getOrNone parsed "source_sha256")
        pages := pages
        elements := elements }

/-! ## Staging the elements -/

structure Staged where
  page : ℤ
  kind : BlockKind
  content : String
  raw : String
  index : ℕ
  deriving DecidableEq

/-- The kind of an element. -/
def elementKind (tools : NormalizerTools) (element : JsonObject) : BlockKind :=
  let category := ((Json.get? element "category").getD (.str "")).pyStr
    tools.floats tools.reprText
  (Dict.lookup (tools.lower category) blockKinds).getD .other

/-- The raw text of an element. -/
def elementRaw (tools : NormalizerTools) (element : JsonObject) : String :=
  elementText tools.floats ((Json.get? element "content").getD (.str ""))
    (elementKind tools element = .table)

/-- The page of an element. -/
def stagedPage (tools : NormalizerTools) (element : JsonObject) :
    Except PyException ℤ :=
  (((getOrNone element "page").orElse
    (getOrNone element "page_number")).orElse (.int 0)).toInt tools.parseInt

def stageElement (tools : NormalizerTools) (pages : ℤ)
    (element : JsonObject) (index : ℕ) : Except PyException Staged := do
  let page ← stagedPage tools element
  raiseIf (page ≤ 0 ∨ pages < page)
    (.valueError "element page outside declared page range")
  return {
    page := page
    kind := elementKind tools element
    content := normalizedText tools (elementRaw tools element)
    raw := elementRaw tools element
    index := index }

abbrev BoilerplateKey := BlockKind × String

structure Staging where
  staged : List Staged
  counts : Dict BoilerplateKey ℕ
  repeatedPages : Dict BoilerplateKey (Finset ℤ)

namespace Staging

def empty : Staging :=
  { staged := [], counts := .empty, repeatedPages := .empty }

/-- A header or a footer with content is counted. -/
def record (staging : Staging) (item : Staged) : Staging :=
  let staged := staging.staged ++ [item]
  if (item.kind = .header ∨ item.kind = .footer) ∧ item.content ≠ "" then
    let key := (item.kind, item.content)
    { staged := staged
      counts := staging.counts.set key (staging.counts.getD key 0 + 1)
      repeatedPages := staging.repeatedPages.set key
        (insert item.page (staging.repeatedPages.getD key ∅)) }
  else { staging with staged := staged }

def isRepeated (staging : Staging) (key : BoilerplateKey) : Bool :=
  match staging.repeatedPages.get? key with
  | some seen => 3 ≤ seen.card ∧ staging.counts.getD key 0 = seen.card
  | none => false

end Staging

def stageElements (tools : NormalizerTools) (pages : ℤ)
    (elements : List JsonObject) : Except PyException Staging :=
  elements.zipIdx.foldlM (fun staging (element, index) => do
    let item ← stageElement tools pages element index
    return staging.record item) Staging.empty

/-! ## Emitting the blocks -/

structure Emission where
  blocks : List NormalizedBlock
  sectionParts : List String

/-- `DocumentBlock(...)`, with the checks of `__post_init__`. -/
def documentBlock (blockId : String) (input : NormalizerInput) (page : ℕ)
    (sectionPath : List String) (blockKind : BlockKind)
    (content sourceContent : String) (sourceElementIndexes : List ℕ)
    (isBoilerplate : Bool) : Except PyException NormalizedBlock :=
  if pagePositive : 0 < page then
    if identified : blockId ≠ "" ∧ input.document ≠ "" ∧
        input.snapshot ≠ "" then
      .ok
        { blockId := blockId
          documentId := input.document
          parseSnapshotId := input.snapshot
          sourceSha256 := input.sourceHash
          page := page
          sectionPath := sectionPath
          blockKind := blockKind
          content := content
          sourceContent := sourceContent
          sourceElementIndexes := sourceElementIndexes
          isBoilerplate := isBoilerplate
          pagePositive := pagePositive
          identified := identified }
    else .error (.valueError "block identity fields cannot be empty")
  else .error (.valueError "page must be positive")

/-- What the identity of an empty page is the hash of. -/
def emptyPageIdentity (input : NormalizerInput) (page : ℕ) : Json :=
  .object
    [("parse", .str input.snapshot), ("document", .str input.document),
      ("empty_page", .int page)]

/-- What the identity of an element's block is the hash of. -/
def elementIdentity (input : NormalizerInput) (index : ℕ)
    (content : String) : Json :=
  .object
    [("parse", .str input.snapshot), ("document", .str input.document),
      ("element", .int index), ("content", .str content)]

/-- A heading with content closes the parts from its level on. -/
def sectionAfter (sectionParts : List String) (item : Staged) : List String :=
  if item.kind = .heading ∧ item.content ≠ "" then
    sectionParts.take (headingLevel item.content - 1) ++
      [headingLabel item.content]
  else sectionParts

section Emit

variable (tools : NormalizerTools) (input : NormalizerInput)
  (staging : Staging)

def emitItem (page : ℕ) (emission : Emission) (item : Staged) :
    Except PyException Emission := do
  let sectionParts := sectionAfter emission.sectionParts item
  let identity ← tools.canonicalJsonHash
    (elementIdentity input item.index item.content)
  let block ← documentBlock identity input page sectionParts item.kind
    item.content item.raw [item.index]
    (staging.isRepeated (item.kind, item.content))
  return { blocks := emission.blocks ++ [block], sectionParts := sectionParts }

def emitPage (emission : Emission) (page : ℕ) :
    Except PyException Emission := do
  let stagedByPage := groupInto Staged.page .empty staging.staged
  let pageItems := sortBy Staged.index (stagedByPage.getD page [])
  if pageItems = [] then
    let identity ← tools.canonicalJsonHash (emptyPageIdentity input page)
    let block ← documentBlock identity input page emission.sectionParts
      .emptyPage "" "" [] false
    return { emission with blocks := emission.blocks ++ [block] }
  else
    pageItems.foldlM (emitItem tools input staging page) emission

end Emit

/-- `normalize` on what it reads. -/
def normalizeInput (tools : NormalizerTools) (input : NormalizerInput) :
    Except PyException (List NormalizedBlock) := do
  let staging ← stageElements tools input.pages input.elements
  let emission ← (List.range' 1 input.pages.toNat).foldlM
    (emitPage tools input staging) { blocks := [], sectionParts := [] }
  return emission.blocks

def normalize (tools : NormalizerTools) (parsed : Parsed) :
    Except PyException (List NormalizedBlock) := do
  normalizeInput tools (← parsed.read tools)

end RagBench
