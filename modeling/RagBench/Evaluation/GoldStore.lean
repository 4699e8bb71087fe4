import RagBench.Evaluation.Gold

/-!
# The protected gold store

The manifest binds the store to a preregistration.  A result is a private file
that is written once, bound by a hash to the preregistration.  Invalidations
are numbered and only appended.
-/

namespace RagBench

structure ProtectedManifest where
  preregistrationHash : String
  configHashes : List String
  orderedMembershipHash : String
  itemCount : ℕ
  deriving DecidableEq

/-- A checkpoint file.  A link, a directory or another mode is unsafe, and a
content that cannot be decoded is nothing. -/
structure ProtectedFile (α : Type) where
  content : Option α
  isSafe : Bool

structure InvalidationRecord where
  sequence : ℕ
  preregistrationHash : String
  reason : String
  replacementCodeCommit : String
  invalidatedAt : Moment
  deriving DecidableEq

/-- `InvalidationRecord(**fields)`: the reason is stored stripped. -/
def InvalidationRecord.validate (record : InvalidationRecord) :
    Except PyException InvalidationRecord :=
  if 0 < record.sequence ∧ isHexDigest record.preregistrationHash ∧
      strip record.reason ≠ "" ∧ isCommit record.replacementCodeCommit ∧
      record.invalidatedAt.utcoffset.isSome then
    .ok { record with reason := strip record.reason }
  else .error (validationError "InvalidationRecord")

/-- The files below the root.  The order of keys in a JSON file is not
observed. -/
structure GoldResultRepository where
  /-- `manifest.json`, with nothing inside if it does not validate. -/
  manifestFile : Option (Option ProtectedManifest)
  /-- The files under `results`, by directory and name. -/
  results : Dict (String × String) (ProtectedFile Json)
  /-- The files under `invalidations`. -/
  invalidationFiles : Dict String (ProtectedFile InvalidationRecord)

namespace GoldResultRepository

/-! ## The manifest -/

section Manifest

variable (platform : Platform)

/-- `_item_id`. -/
def itemIdOf (item : GoldItem) : Except PyException String := do
  raiseIf (strip item.itemId = "")
    (.valueError "gold cohort item identity is invalid")
  return item.itemId

/-- `_ordered_item_ids`. -/
def orderedItemIds (items : List GoldItem) :
    Except PyException (List String) := do
  let values ← items.mapM itemIdOf
  raiseIf (sortBy id values ≠ values ∨ ¬ values.Nodup) (.valueError
    "gold items differ from the preregistered ordered cohort")
  return values

/-- `_manifest`. -/
def manifest (repository : GoldResultRepository) :
    Except PyException ProtectedManifest :=
  match repository.manifestFile with
  | some (some manifest) => .ok manifest
  | _ => .error (.valueError
      "protected gold manifest is missing or invalid")

def manifestOf (envelope : PreregistrationEnvelope) : ProtectedManifest :=
  { preregistrationHash := envelope.artifactSha256
    configHashes := envelope.preregistration.configHashes
    orderedMembershipHash :=
      envelope.preregistration.cohort.orderedMembershipHash
    itemCount := envelope.preregistration.cohort.itemCount }

/-- `initialize`. -/
def initializeRun (repository : GoldResultRepository)
    (envelope : PreregistrationEnvelope) (items : List GoldItem) :
    Except PyException GoldResultRepository := do
  verifyEnvelopeHash platform envelope
  let itemIds ← orderedItemIds items
  let cohort := envelope.preregistration.cohort
  let membership ← platform.canonicalJsonHash (.array (itemIds.map .str))
  raiseIf (itemIds.length ≠ cohort.itemCount ∨
      membership ≠ cohort.orderedMembershipHash) (.valueError
    "gold items differ from the preregistered ordered cohort")
  match repository.manifestFile with
  | none => .ok { repository with
      manifestFile := some (some (manifestOf envelope)) }
  | some none => .error (.valueError "protected gold manifest is invalid")
  | some (some existing) =>
      if existing ≠ manifestOf envelope then
        .error (.valueError
          "protected gold manifest does not match preregistration")
      else .ok repository

def assertBound (repository : GoldResultRepository)
    (envelope : PreregistrationEnvelope) : Except PyException Unit := do
  verifyEnvelopeHash platform envelope
  let manifest ← repository.manifest
  raiseIf (manifest ≠ manifestOf envelope) (.valueError
    "protected gold repository is not bound to preregistration")

end Manifest

/-! ## Results -/

section Results

variable (platform : Platform)

/-- `_result_path`. -/
def resultPath (configHash itemId : String) :
    Except PyException (String × String) := do
  let directory ← platform.canonicalJsonHash (.str configHash)
  let name ← platform.canonicalJsonHash (.str itemId)
  return (directory, name ++ ".json")

def binding (preregistrationHash result : Json) : Json :=
  .object [("preregistration_hash", preregistrationHash), ("result", result)]

/-- `_encode_result`. -/
def encodeResult (result : GoldEvaluationResult)
    (manifest : ProtectedManifest) : Except PyException Json := do
  let artifact ← platform.canonicalJsonHash
    (binding (.str manifest.preregistrationHash) result.modelDump)
  return .object
    [("preregistration_hash", .str manifest.preregistrationHash),
      ("result", result.modelDump),
      ("artifact_sha256", .str artifact)]

/-- `_decode_result`. -/
def decodeResult (payload : Json) (manifest : ProtectedManifest) :
    Except PyException GoldEvaluationResult :=
  match payload with
  | .object entries =>
      match Json.get? entries "preregistration_hash",
        Json.get? entries "result", Json.get? entries "artifact_sha256" with
      | some preregistrationHash, some result, some artifact => do
          raiseIf (entries.length ≠ 3) (.valueError
            "protected gold checkpoint artifact is invalid")
          let mismatch : PyException := .valueError
            "protected gold checkpoint artifact hash mismatch"
          raiseIf (¬ preregistrationHash.equals
            (.str manifest.preregistrationHash)) mismatch
          let expected ← platform.canonicalJsonHash
            (binding preregistrationHash result)
          raiseIf (¬ artifact.equals (.str expected)) mismatch
          GoldEvaluationResult.modelValidate result
      | _, _, _ => .error (.valueError
          "protected gold checkpoint artifact is invalid")
  | _ => .error (.valueError "protected gold checkpoint artifact is invalid")

/-- `save`: the link appears with all of its bytes, or not at all. -/
def save (repository : GoldResultRepository) (result : GoldEvaluationResult) :
    Except PyException GoldResultRepository := do
  let manifest ← repository.manifest
  raiseIf (result.configHash ∉ manifest.configHashes)
    (.valueError "result belongs to an unregistered config")
  let path ← resultPath platform result.configHash result.itemId
  let payload ← encodeResult platform result manifest
  raiseIf (repository.results.get? path).isSome ⟨.fileExistsError,
    "immutable gold checkpoint already exists: " ++ path.2⟩
  return { repository with
    results := repository.results.set path
      { content := some payload, isSafe := true } }

/-- Reading a result file, with the errors that `load` and `all_results`
translate. -/
def readResult (file : ProtectedFile Json)
    (manifest : Except PyException ProtectedManifest) :
    Except PyException GoldEvaluationResult := do
  raiseIf (¬ file.isSafe) (.valueError "protected gold checkpoint is unsafe")
  let invalid : PyException :=
    .valueError "protected gold checkpoint is invalid"
  match file.content with
  | none => .error invalid
  | some payload => do
      let manifest ← manifest
      match decodeResult platform payload manifest with
      | .ok result => .ok result
      | .error error =>
          .error (if error.cls = (validationError "").cls then invalid
            else error)

def load (repository : GoldResultRepository) (configHash itemId : String) :
    Except PyException (Option GoldEvaluationResult) := do
  let path ← resultPath platform configHash itemId
  match repository.results.get? path with
  | none => return none
  | some file => do
      let result ← readResult platform file repository.manifest
      raiseIf (result.configHash ≠ configHash ∨ result.itemId ≠ itemId)
        (.valueError "protected gold checkpoint identity mismatch")
      return some result

/-- The files of a configuration in the order of their names. -/
def filesOf (repository : GoldResultRepository) (directory : String) :
    List (String × ProtectedFile Json) :=
  sortBy Prod.fst ((repository.results.entries.filter fun entry =>
    entry.1.1 = directory).map fun entry => (entry.1.2, entry.2))

/-- A file of `all_results`. -/
def readNamed (manifest : ProtectedManifest) (configHash : String)
    (entry : String × ProtectedFile Json) :
    Except PyException GoldEvaluationResult := do
  let result ← readResult platform entry.2 (.ok manifest)
  raiseIf (result.configHash ≠ configHash)
    (.valueError "protected gold checkpoint identity mismatch")
  let name ← platform.canonicalJsonHash (.str result.itemId)
  raiseIf (entry.1 ≠ name ++ ".json")
    (.valueError "protected gold checkpoint filename identity mismatch")
  return result

def resultsOf (repository : GoldResultRepository)
    (manifest : ProtectedManifest) (configHash : String) :
    Except PyException (List GoldEvaluationResult) := do
  let directory ← platform.canonicalJsonHash (.str configHash)
  (repository.filesOf directory).mapM (readNamed platform manifest configHash)

def allResults (repository : GoldResultRepository) :
    Except PyException (List GoldEvaluationResult) := do
  let manifest ← repository.manifest
  let results ← manifest.configHashes.mapM
    (repository.resultsOf platform manifest)
  return results.flatten

end Results

/-! ## Invalidations -/

/-- `f"{sequence:04d}.json"`. -/
def invalidationName (sequence : ℕ) : String :=
  fourDigits sequence ++ ".json"

def readInvalidation (entry : String × ProtectedFile InvalidationRecord) :
    Except PyException InvalidationRecord := do
  raiseIf (¬ entry.2.isSafe)
    (.valueError "protected gold invalidation is unsafe")
  match entry.2.content with
  | none => .error (.valueError "protected gold invalidation is invalid")
  | some record => do
      raiseIf (entry.1 ≠ invalidationName record.sequence)
        (.valueError "protected gold invalidation sequence mismatch")
      return record

def invalidations (repository : GoldResultRepository) :
    Except PyException (List InvalidationRecord) := do
  let records ← (sortBy Prod.fst repository.invalidationFiles.entries).mapM
    readInvalidation
  raiseIf (records.map InvalidationRecord.sequence ≠
      (List.range records.length).map (· + 1))
    (.valueError "protected gold invalidation lineage is not contiguous")
  return records

def writeInvalidation (repository : GoldResultRepository)
    (record : InvalidationRecord) :
    Except PyException GoldResultRepository := do
  let name := invalidationName record.sequence
  raiseIf (repository.invalidationFiles.get? name).isSome ⟨.fileExistsError,
    "immutable invalidation already exists: " ++ toString record.sequence⟩
  let records ← repository.invalidations
  raiseIf (record.sequence ≠ records.length + 1)
    (.valueError "invalidation sequence must be contiguous and append-only")
  let manifest ← repository.manifest
  raiseIf (record.preregistrationHash ≠ manifest.preregistrationHash)
    (.valueError "invalidation does not belong to this preregistration")
  return { repository with
    invalidationFiles := repository.invalidationFiles.set name
      { content := some record, isSafe := true } }

def appendInvalidation (repository : GoldResultRepository)
    (reason replacementCodeCommit : String) (invalidatedAt : Moment) :
    Except PyException (InvalidationRecord × GoldResultRepository) := do
  let records ← repository.invalidations
  let manifest ← repository.manifest
  let record ← InvalidationRecord.validate
    { sequence := records.length + 1
      preregistrationHash := manifest.preregistrationHash
      reason, replacementCodeCommit, invalidatedAt }
  let repository ← repository.writeInvalidation record
  return (record, repository)

end GoldResultRepository

end RagBench
