import RagBench.Benchmark.Splits
import RagBench.Core.JsonLines
import RagBench.Core.JsonReader

/-!
# Sealed gold

Sealing writes the items one to a line, sorted by their ids, into a private
file that is never replaced.  Public metadata hold the hash of the bytes and a
snapshot id over version, hash, count and scope.  Loading derives them again.
-/

namespace RagBench

/-! ## Items -/

/-- The fields of a `GoldItem`. -/
structure GoldFields where
  itemId : String
  naturalQuestion : String
  expectedAnswer : Option String
  evidence : List String
  questionType : String
  difficulty : String
  answerable : Bool
  documentClusterId : String
  deriving DecidableEq

namespace GoldFields

/-- No field with `min_length=1` is empty. -/
def isNamed (fields : GoldFields) : Bool :=
  fields.itemId ≠ "" ∧ fields.naturalQuestion ≠ "" ∧
    fields.questionType ≠ "" ∧ fields.difficulty ≠ "" ∧
    fields.documentClusterId ≠ ""

/-- `_answerability_is_consistent`. -/
def answerabilityIsConsistent (fields : GoldFields) : Bool :=
  if fields.answerable then
    (fields.expectedAnswer.getD "" ≠ "" ∧ fields.evidence ≠ [])
  else fields.expectedAnswer = none ∧ fields.evidence = []

def entries (fields : GoldFields) : List (String × Json) :=
  [("item_id", .str fields.itemId),
    ("natural_question", .str fields.naturalQuestion),
    ("expected_answer", (fields.expectedAnswer.map .str).getD .null),
    ("evidence", .array (fields.evidence.map .str)),
    ("question_type", .str fields.questionType),
    ("difficulty", .str fields.difficulty),
    ("answerable", .bool fields.answerable),
    ("document_cluster_id", .str fields.documentClusterId)]

/-- `item.model_dump(mode="json")`. -/
def modelDump (fields : GoldFields) : Json :=
  .object fields.entries

def names : List String :=
  ["item_id", "natural_question", "expected_answer", "evidence",
    "question_type", "difficulty", "answerable", "document_cluster_id"]

def readText : Json → Option String
  | .str text => some text
  | _ => none

def readOptionalText : Json → Option (Option String)
  | .null => some none
  | .str text => some (some text)
  | _ => none

def readTexts : Json → Option (List String)
  | .array items => items.mapM readText
  | _ => none

def readBool : Json → Option Bool
  | .bool value => some value
  | _ => none

/-- The strict fields of a decoded item, without extra keys. -/
def ofEntries (entries : List (String × Json)) : Option GoldFields := do
  if entries.any fun entry => entry.1 ∉ names then none
  else
    let field (key : String) := Json.get? entries key
    return {
      itemId := ← (← field "item_id") |> readText
      naturalQuestion := ← (← field "natural_question") |> readText
      expectedAnswer := ← (← field "expected_answer") |> readOptionalText
      evidence := ← (← field "evidence") |> readTexts
      questionType := ← (← field "question_type") |> readText
      difficulty := ← (← field "difficulty") |> readText
      answerable := ← (← field "answerable") |> readBool
      documentClusterId := ← (← field "document_cluster_id") |> readText }

end GoldFields

/-- A validated `GoldItem`. -/
structure GoldItem extends GoldFields where
  named : toGoldFields.isNamed = true
  consistent : toGoldFields.answerabilityIsConsistent = true
  deriving DecidableEq

def GoldFields.validate (fields : GoldFields) : Except PyException GoldItem :=
  if named : fields.isNamed = true then
    if consistent : fields.answerabilityIsConsistent = true then
      .ok { toGoldFields := fields, named, consistent }
    else .error (validationError "GoldItem")
  else .error (validationError "GoldItem")

/-- `GoldItem.model_validate_json(line)`. -/
def GoldItem.modelValidateJson {floats : FloatText} (parser : JsonParser floats)
    (line : Bytes) : Except PyException GoldItem :=
  match parser.parse line with
  | some (.object entries) =>
      match GoldFields.ofEntries entries with
      | some fields => fields.validate
      | none => .error (validationError "GoldItem")
  | _ => .error (validationError "GoldItem")

/-! ## Metadata and access -/

/-- A `datetime`, with its offset in minutes when it is aware. -/
structure Moment where
  time : Timestamp
  utcoffset : Option ℤ
  deriving DecidableEq

structure GoldMetadata where
  snapshotId : String
  version : String
  fileName : String
  contentSha256 : String
  itemCount : ℤ
  scopeStatus : String
  sealedAt : Moment
  deriving DecidableEq

/-- The field constraints of `GoldMetadata`. -/
def GoldMetadata.validate (metadata : GoldMetadata) :
    Except PyException GoldMetadata :=
  if isHexDigest metadata.snapshotId ∧ metadata.version ≠ "" ∧
      metadata.fileName ≠ "" ∧ isHexDigest metadata.contentSha256 ∧
      0 < metadata.itemCount ∧ metadata.scopeStatus ∈ ["full", "reduced"] ∧
      metadata.sealedAt.utcoffset.isSome then .ok metadata
  else .error (validationError "GoldMetadata")

/-- `GoldAccessError(PermissionError)`. -/
def goldAccessError (message : String) : PyException :=
  ⟨.derived "GoldAccessError" .permissionError, message⟩

/-- `ImmutableSnapshotError(RuntimeError)`. -/
def immutableSnapshotError (message : String) : PyException :=
  ⟨.derived "ImmutableSnapshotError" .runtimeError, message⟩

structure GoldAuthorization where
  command : String
  /-- It holds `_AUTHORIZATION_CAPABILITY`. -/
  isCapable : Bool

def goldCommands : List String :=
  ["evaluate-gold", "sealed-gold-test"]

/-- `authorize_gold_access` under a value of `ALLOW_GOLD_ACCESS`. -/
def authorizeGoldAccess (allowGoldAccess : Option String) (command : String)
    (explicit : Bool) : Except PyException GoldAuthorization :=
  if allowGoldAccess ≠ some "1" then
    .error (goldAccessError "gold access requires ALLOW_GOLD_ACCESS=1")
  else if ¬ explicit then
    .error (goldAccessError
      "gold access requires an explicit gold command or flag")
  else if command ∉ goldCommands then
    .error (goldAccessError "requested gold command is not permitted")
  else .ok { command, isCapable := true }

/-! ## The private directory -/

/-- An entry of the directory, opened without following links. -/
structure PrivateFile where
  content : Bytes
  isRegular : Bool
  isOwned : Bool
  mode : ℕ
  deriving DecidableEq

def PrivateFile.sealed (payload : Bytes) : PrivateFile :=
  { content := payload
    isRegular := true
    isOwned := true
    mode := 0o600 }

structure GoldDirectory where
  /-- No component of its path is a link, and the effective user owns it. -/
  isSafe : Bool
  files : Dict String PrivateFile

namespace GoldDirectory

/-- `_open_private_parent`. -/
def openPrivateParent (directory : GoldDirectory) (name : String) :
    Except PyException Unit :=
  if name ∈ ["", ".", ".."] then
    .error (immutableSnapshotError
      "sealed gold path requires a direct file name")
  else if ¬ directory.isSafe then
    .error (immutableSnapshotError
      "sealed gold parent is not a safe directory")
  else .ok ()

/-- The directory with a new file of the effective user with mode 0600. -/
def withFile (directory : GoldDirectory) (name : String) (payload : Bytes) :
    GoldDirectory :=
  { directory with
    files := directory.files.set name (PrivateFile.sealed payload) }

/-- `_publish_private_immutable`: the link appears with all of its bytes. -/
def publishPrivateImmutable (directory : GoldDirectory) (name : String)
    (payload : Bytes) : Except PyException GoldDirectory := do
  directory.openPrivateParent name
  match directory.files.get? name with
  | some _ => .error (immutableSnapshotError "sealed gold path already exists")
  | none =>
      .ok (directory.withFile name payload)

/-- `_read_private_regular`. -/
def readPrivateRegular (directory : GoldDirectory) (name : String) :
    Except PyException Bytes := do
  directory.openPrivateParent name
  match directory.files.get? name with
  | none => .error (immutableSnapshotError
      "sealed gold must be an EUID-owned regular private file")
  | some file =>
      if ¬ file.isRegular ∨ ¬ file.isOwned then
        .error (immutableSnapshotError
          "sealed gold must be an EUID-owned regular private file")
      else if file.mode ≠ 0o600 then
        .error (immutableSnapshotError "sealed gold must have mode 0600")
      else .ok file.content

end GoldDirectory

/-! ## Sealing and loading -/

section Seal

variable (floats : FloatText) (platform : Platform)

/-- The line of an item with its line break. -/
def goldLine (item : GoldItem) : Bytes :=
  utf8 (Json.text floats item.modelDump ++ ['\n'])

def goldPayload (items : List GoldItem) : Bytes :=
  (sortBy (fun item => item.itemId) items).flatMap (goldLine floats)

/-- What the snapshot id is the hash of. -/
def snapshotIdentity (version contentSha256 : String) (itemCount : ℤ)
    (scopeStatus : String) : Json :=
  .object [
    ("version", .str version),
    ("content_sha256", .str contentSha256),
    ("item_count", .int itemCount),
    ("scope_status", .str scopeStatus)]

def requiredItems (qualityThresholdMet : Bool) : ℕ :=
  if qualityThresholdMet then 300 else 150

def sealedScope (qualityThresholdMet : Bool) : String :=
  if qualityThresholdMet then "full" else "reduced"

/-- `seal_gold` on a path in the directory. -/
def sealGold (now : Timestamp) (directory : GoldDirectory)
    (items : List GoldItem) (name version : String)
    (qualityThresholdMet : Bool) (sealedAt : Option Moment) :
    Except PyException (GoldMetadata × GoldDirectory) := do
  raiseIf (strip version = "") (.valueError "gold version cannot be blank")
  let label := if qualityThresholdMet then "300" else "exactly 150"
  raiseIf (items.length ≠ requiredItems qualityThresholdMet)
    (.valueError ("gold sealing requires " ++ label ++ " reviewed items"))
  raiseIf (¬ (items.map fun item => item.itemId).Nodup)
    (.valueError "gold item IDs must be unique")
  let payload := goldPayload floats items
  let contentHash := platform.sha256Hex payload
  let scope := sealedScope qualityThresholdMet
  let timestamp := sealedAt.getD { time := now, utcoffset := some 0 }
  raiseIf timestamp.utcoffset.isNone
    (.valueError "sealed timestamp must include timezone")
  let snapshotId ← platform.canonicalJsonHash
    (snapshotIdentity version contentHash items.length scope)
  let directory ← directory.publishPrivateImmutable name payload
  let metadata ← GoldMetadata.validate
    { snapshotId
      version
      fileName := name
      contentSha256 := contentHash
      itemCount := items.length
      scopeStatus := scope
      sealedAt := timestamp }
  return (metadata, directory)

variable {floats}

/-- The lines that are not blank, each validated. -/
def parseGoldLines (parser : JsonParser floats) (payload : Bytes) :
    Except PyException (List GoldItem) :=
  match ((splitLines payload).filter isWritten).mapM
    (GoldItem.modelValidateJson parser) with
  | .ok parsed => .ok parsed
  | .error error =>
      .error (if error.isInstance .valueError then
        immutableSnapshotError "sealed gold payload is invalid"
      else error)

/-- `load_sealed_gold` on a path in the directory. -/
def loadSealedGold (parser : JsonParser floats) (directory : GoldDirectory)
    (name : String) (metadata : GoldMetadata)
    (authorization : GoldAuthorization) :
    Except PyException (List GoldItem) := do
  raiseIf (¬ authorization.isCapable)
    (goldAccessError "invalid gold authorization")
  raiseIf (authorization.command ∉ goldCommands)
    (goldAccessError "requested gold command is not permitted")
  raiseIf (name ≠ metadata.fileName)
    (immutableSnapshotError "sealed gold file name does not match metadata")
  let expectedCount := if metadata.scopeStatus = "full" then 300 else 150
  raiseIf (metadata.itemCount ≠ expectedCount)
    (immutableSnapshotError "sealed gold scope metadata is invalid")
  let expectedSnapshotId ← platform.canonicalJsonHash (snapshotIdentity
    metadata.version metadata.contentSha256 metadata.itemCount
    metadata.scopeStatus)
  raiseIf (metadata.snapshotId ≠ expectedSnapshotId)
    (immutableSnapshotError "sealed gold metadata identity is invalid")
  let payload ← directory.readPrivateRegular name
  raiseIf (platform.sha256Hex payload ≠ metadata.contentSha256)
    (immutableSnapshotError "sealed gold hash mismatch")
  let parsed ← parseGoldLines parser payload
  raiseIf ((parsed.length : ℤ) ≠ metadata.itemCount)
    (immutableSnapshotError "sealed gold item count mismatch")
  return parsed

end Seal

end RagBench
