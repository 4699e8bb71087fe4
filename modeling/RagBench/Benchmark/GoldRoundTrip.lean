import RagBench.Benchmark.SealedGold
import RagBench.Benchmark.SplitLeakage

/-!
# Sealed gold is loaded back

Every item is read back from its line, so loading returns the sealed items in
the order of their ids.  Other bytes have another hash, and other metadata
another snapshot id.
-/

namespace RagBench

/-! ## Reading an item back -/

namespace GoldFields

/-- The order of the entries does not matter. -/
theorem ofEntries_perm {entries entries' : List (String × Json)}
    (unique : (entries.map Prod.fst).Nodup) (same : entries.Perm entries') :
    ofEntries entries = ofEntries entries' := by
  have found (key : String) : Json.get? entries key = Json.get? entries' key :=
    Dict.lookup_perm unique same key
  have extra : (entries.any fun entry => entry.1 ∉ names) =
      entries'.any fun entry => entry.1 ∉ names := by
    rw [Bool.eq_iff_iff, List.any_eq_true, List.any_eq_true]
    simp only [same.mem_iff]
  unfold ofEntries
  simp only [found, extra]

theorem readTexts_map (texts : List String) :
    readTexts (.array (texts.map .str)) = some texts := by
  rw [readTexts]
  induction texts with
  | nil => rfl
  | cons text texts induction =>
      rw [List.map_cons, List.mapM_cons, induction]
      rfl

theorem readOptionalText_dump (text : Option String) :
    readOptionalText ((text.map .str).getD .null) = some text := by
  cases text <;> rfl

private theorem sorted_texts (texts : List String) :
    (Json.array (texts.map .str)).sorted = .array (texts.map .str) := by
  rw [Json.sorted, Json.sortedItems_eq, List.map_map]
  rfl

private theorem sorted_optionalText (text : Option String) :
    ((text.map Json.str).getD .null).sorted = (text.map .str).getD .null := by
  cases text <;> rfl

theorem entries_unique (fields : GoldFields) :
    (fields.entries.map Prod.fst).Nodup := by
  simp [entries]

theorem ofEntries_entries (fields : GoldFields) :
    ofEntries fields.entries = some fields := by
  simp [ofEntries, entries, names, Json.get?, Dict.lookup, readText, readBool,
    readTexts_map, readOptionalText_dump]

theorem sorted_modelDump (fields : GoldFields) :
    fields.modelDump.sorted = .object (sortByKey fields.entries) := by
  rw [modelDump, Json.sorted]
  simp only [entries, Json.sortedEntries, sorted_texts, sorted_optionalText]
  rfl

theorem compliant_modelDump (fields : GoldFields) :
    fields.modelDump.isCompliant := by
  have texts : Json.itemsCompliant (fields.evidence.map .str) := by
    rw [Json.itemsCompliant_iff]
    exact List.forall_mem_map.mpr fun _ _ => rfl
  have answer :
      ((fields.expectedAnswer.map Json.str).getD .null).isCompliant := by
    cases fields.expectedAnswer <;> rfl
  simp [modelDump, entries, Json.isCompliant, Json.entriesCompliant, texts,
    answer]

theorem uniqueKeys_modelDump (fields : GoldFields) :
    fields.modelDump.UniqueKeys := by
  have texts : ∀ texts : List String,
      Json.ItemsUnique (texts.map .str) := by
    intro texts
    induction texts with
    | nil => exact trivial
    | cons text texts induction => exact ⟨trivial, induction⟩
  have answer : ((fields.expectedAnswer.map Json.str).getD .null).UniqueKeys :=
    by cases fields.expectedAnswer <;> exact trivial
  refine ⟨fields.entries_unique, ?_⟩
  simp [entries, Json.EntriesUnique, Json.UniqueKeys, texts, answer]

theorem depth_modelDump (fields : GoldFields) :
    fields.modelDump.depth ≤ 100 := by
  have texts : ∀ texts : List String,
      Json.itemsDepth (texts.map .str) = 0 := by
    intro texts
    induction texts with
    | nil => rfl
    | cons text texts induction =>
        rw [List.map_cons, Json.itemsDepth, induction]
        rfl
  have answer :
      ((fields.expectedAnswer.map Json.str).getD .null).depth = 0 := by
    cases fields.expectedAnswer <;> rfl
  simp [modelDump, entries, Json.depth, Json.entriesDepth, texts, answer]

end GoldFields

section Lines

variable {floats : FloatText} (parser : JsonParser floats)

theorem modelValidateJson_text (item : GoldItem) :
    GoldItem.modelValidateJson parser
      (utf8 (Json.text floats item.modelDump)) = .ok item := by
  have read := parser.parse_text _ item.compliant_modelDump
    item.uniqueKeys_modelDump item.depth_modelDump
  have fields : GoldFields.ofEntries (sortByKey item.entries) =
      some item.toGoldFields := by
    rw [← GoldFields.ofEntries_entries]
    refine (GoldFields.ofEntries_perm item.entries_unique ?_).symm
    exact (List.perm_insertionSort _ _).symm
  unfold GoldItem.modelValidateJson
  rw [read, GoldFields.sorted_modelDump]
  dsimp only
  rw [fields]
  dsimp only
  rw [GoldFields.validate, dif_pos item.named, dif_pos item.consistent]

/-- The lines of the payload are the items in the order of their ids. -/
theorem parseGoldLines_payload (items : List GoldItem) :
    parseGoldLines parser (goldPayload floats items) =
      .ok (sortBy (fun item => item.itemId) items) := by
  have line (item : GoldItem) : goldLine floats item =
      utf8 (Json.text floats item.modelDump) ++ [10] := by
    rw [goldLine, Utf8.utf8_append]
    rfl
  have lines : splitLines (goldPayload floats items) =
      (sortBy (fun item => item.itemId) items).map fun item =>
        utf8 (Json.text floats item.modelDump) := by
    have areLines : ∀ line ∈ (sortBy (fun item => item.itemId) items).map
        fun item => utf8 (Json.text floats item.modelDump), IsLine line :=
      List.forall_mem_map.mpr fun item _ => Json.isLine_text _
    have split := splitLines_flatMap areLines
    rw [List.flatMap_map] at split
    rw [goldPayload, List.flatMap_congr fun item _ => line item]
    exact split
  have written (item : GoldItem) :
      isWritten (utf8 (Json.text floats item.modelDump)) = true := by
    rw [GoldFields.modelDump, Json.text_object]
    rfl
  rw [parseGoldLines, lines, List.filter_eq_self.mpr
    (List.forall_mem_map.mpr fun item _ => written item), List.mapM_map]
  have each : ∀ items : List GoldItem,
      items.mapM (GoldItem.modelValidateJson parser ∘ fun item =>
        utf8 (Json.text floats item.modelDump)) = .ok items := by
    intro items
    induction items with
    | nil => rfl
    | cons item items induction =>
        rw [List.mapM_cons, induction, Function.comp_apply,
          modelValidateJson_text]
        rfl
  rw [each]

end Lines

/-! ## What sealing leaves -/

section Sealed

variable {floats : FloatText} {platform : Platform} {now : Timestamp}
  {directory sealed : GoldDirectory} {items : List GoldItem}
  {name version : String} {qualityThresholdMet : Bool}
  {sealedAt : Option Moment} {metadata : GoldMetadata}

/-- A successful sealing: the file, its metadata and what was checked. -/
structure Sealed (floats : FloatText) (platform : Platform)
    (items : List GoldItem) (name version : String)
    (qualityThresholdMet : Bool) (directory sealed : GoldDirectory)
    (metadata : GoldMetadata) : Prop where
  count : items.length = requiredItems qualityThresholdMet
  unique : (items.map fun item => item.itemId).Nodup
  direct : directory.openPrivateParent name = .ok ()
  fresh : directory.files.get? name = none
  published : sealed = directory.withFile name (goldPayload floats items)
  fileName : metadata.fileName = name
  version_eq : metadata.version = version
  contentSha256 :
    metadata.contentSha256 = platform.sha256Hex (goldPayload floats items)
  itemCount : metadata.itemCount = items.length
  scopeStatus : metadata.scopeStatus = sealedScope qualityThresholdMet
  snapshotId : platform.canonicalJsonHash (snapshotIdentity metadata.version
    metadata.contentSha256 metadata.itemCount metadata.scopeStatus) =
      .ok metadata.snapshotId

theorem sealGold_ok (success : sealGold floats platform now directory items
    name version qualityThresholdMet sealedAt = .ok (metadata, sealed)) :
    Sealed floats platform items name version qualityThresholdMet directory
      sealed metadata := by
  unfold sealGold at success
  obtain ⟨_, -, success⟩ := bind_eq_ok.mp success
  obtain ⟨_, count, success⟩ := bind_eq_ok.mp success
  obtain ⟨_, unique, success⟩ := bind_eq_ok.mp success
  obtain ⟨_, -, success⟩ := bind_eq_ok.mp success
  obtain ⟨snapshotId, identity, success⟩ := bind_eq_ok.mp success
  obtain ⟨after, published, success⟩ := bind_eq_ok.mp success
  obtain ⟨validated, accepted, success⟩ := bind_eq_ok.mp success
  cases success
  obtain ⟨_, direct, published⟩ := bind_eq_ok.mp published
  unfold GoldMetadata.validate at accepted
  split_ifs at accepted
  cases accepted
  cases found : directory.files.get? name with
  | some _ =>
      rw [found] at published
      cases published
  | none =>
      rw [found] at published
      cases published
      exact
        { count := not_ne_iff.mp (raiseIf_eq_ok.mp count)
          unique := not_not.mp (raiseIf_eq_ok.mp unique)
          direct := direct
          fresh := found
          published := rfl
          fileName := rfl
          version_eq := rfl
          contentSha256 := rfl
          itemCount := rfl
          scopeStatus := rfl
          snapshotId := identity }

/-! ## Loading -/

/-- It raises an `ImmutableSnapshotError`. -/
def Rejected {α : Type} (outcome : Except PyException α) : Prop :=
  ∃ message, outcome = .error (immutableSnapshotError message)

/-- No other bytes have the hash of these. -/
def Platform.NoSecondPreimage (platform : Platform) (bytes : Bytes) : Prop :=
  ∀ other, platform.sha256Hex other = platform.sha256Hex bytes → other = bytes

/-- The bytes that the snapshot id is the hash of. -/
def snapshotBytes (floats : FloatText) (metadata : GoldMetadata) : Bytes :=
  (String.ofList (Json.text floats (snapshotIdentity metadata.version
    metadata.contentSha256 metadata.itemCount
    metadata.scopeStatus))).toByteArray.data.toList

variable {parser : JsonParser floats} {authorization : GoldAuthorization}
  {allowGoldAccess : Option String} {command : String} {explicit : Bool}

theorem authorizeGoldAccess_ok
    (authorized : authorizeGoldAccess allowGoldAccess command explicit =
      .ok authorization) :
    authorization.isCapable = true ∧
      authorization.command ∈ goldCommands := by
  unfold authorizeGoldAccess at authorized
  split_ifs at authorized with _ _ permitted
  cases authorized
  exact ⟨rfl, permitted⟩

theorem Sealed.load
    (kept : Sealed floats platform items name version qualityThresholdMet
      directory sealed metadata)
    (authorized : authorizeGoldAccess allowGoldAccess command explicit =
      .ok authorization) :
    loadSealedGold platform parser sealed name metadata authorization =
      .ok (sortBy (fun item => item.itemId) items) := by
  obtain ⟨capable, permitted⟩ := authorizeGoldAccess_ok authorized
  have scope : metadata.itemCount =
      if metadata.scopeStatus = "full" then 300 else 150 := by
    rw [kept.itemCount, kept.scopeStatus, kept.count]
    cases qualityThresholdMet <;> rfl
  have direct : sealed.openPrivateParent name = .ok () := by
    rw [kept.published]
    exact kept.direct
  have found : sealed.files.get? name =
      some (PrivateFile.sealed (goldPayload floats items)) := by
    rw [kept.published]
    exact Dict.get?_set_self _ _ _
  have read : sealed.readPrivateRegular name =
      .ok (goldPayload floats items) := by
    rw [GoldDirectory.readPrivateRegular, direct, found]
    rfl
  have count : ((sortBy (fun item => item.itemId) items).length : ℤ) =
      metadata.itemCount := by
    rw [(sortBy_perm _ items).length_eq, kept.itemCount]
  unfold loadSealedGold
  rw [raiseIf_bind (not_not.mpr capable), raiseIf_bind (not_not.mpr permitted),
    raiseIf_bind (not_not.mpr kept.fileName.symm)]
  dsimp only
  rw [raiseIf_bind (not_not.mpr scope), kept.snapshotId]
  change (raiseIf _ _ >>= fun _ => _) = _
  rw [raiseIf_bind (not_not.mpr rfl), read]
  change (raiseIf _ _ >>= fun _ => _) = _
  rw [raiseIf_bind (not_not.mpr kept.contentSha256.symm),
    parseGoldLines_payload]
  change (raiseIf _ _ >>= fun _ => _) = _
  rw [raiseIf_bind (not_not.mpr count)]
  rfl

/-! ## Tampering -/

section Rejections

variable {α β : Type}

theorem Rejected.bind {outcome : Except PyException α}
    {next : α → Except PyException β} (rejected : Rejected outcome) :
    Rejected (outcome >>= next) := by
  obtain ⟨message, rfl⟩ := rejected
  exact ⟨message, rfl⟩

/-- Where a check passes, the rest rejects. -/
theorem rejected_raiseIf {condition : Prop} [Decidable condition]
    {message : String} {next : Unit → Except PyException α}
    (later : ¬condition → Rejected (next ())) :
    Rejected (raiseIf condition (immutableSnapshotError message) >>=
      next) := by
  by_cases fails : condition
  · rw [raiseIf_bind_error fails]
    exact ⟨message, rfl⟩
  · rw [raiseIf_bind fails]
    exact later fails

end Rejections

theorem readPrivateRegular_cases (directory : GoldDirectory) (name : String) :
    Rejected (directory.readPrivateRegular name) ∨
      ∃ file, directory.files.get? name = some file ∧
        directory.readPrivateRegular name = .ok file.content := by
  have opened : Rejected (directory.openPrivateParent name) ∨
      directory.openPrivateParent name = .ok () := by
    unfold GoldDirectory.openPrivateParent
    split_ifs
    · exact .inl ⟨_, rfl⟩
    · exact .inr rfl
    · exact .inl ⟨_, rfl⟩
  unfold GoldDirectory.readPrivateRegular
  rcases opened with rejected | opened
  · exact .inl rejected.bind
  · have passed : directory.openPrivateParent name = pure () := opened
    rw [passed, pure_bind]
    cases found : directory.files.get? name with
    | none => exact .inl ⟨_, rfl⟩
    | some file =>
        by_cases regular : ¬ file.isRegular ∨ ¬ file.isOwned
        · exact .inl ⟨_, if_pos regular⟩
        · by_cases mode : file.mode ≠ 0o600
          · exact .inl ⟨_, (if_neg regular).trans (if_pos mode)⟩
          · exact .inr ⟨file, rfl, (if_neg regular).trans (if_neg mode)⟩

/-- Other bytes have another hash. -/
theorem Sealed.rejects_payload
    (kept : Sealed floats platform items name version qualityThresholdMet
      directory sealed metadata)
    (authorized : authorizeGoldAccess allowGoldAccess command explicit =
      .ok authorization)
    (collisionFree : platform.NoSecondPreimage (goldPayload floats items))
    {other : GoldDirectory}
    (differs : ∀ file, other.files.get? name = some file →
      file.content ≠ goldPayload floats items) :
    Rejected (loadSealedGold platform parser other name metadata
      authorization) := by
  obtain ⟨capable, permitted⟩ := authorizeGoldAccess_ok authorized
  unfold loadSealedGold
  rw [raiseIf_bind (not_not.mpr capable), raiseIf_bind (not_not.mpr permitted)]
  refine rejected_raiseIf fun _ => rejected_raiseIf fun _ => ?_
  rw [kept.snapshotId]
  refine rejected_raiseIf fun _ => ?_
  rcases readPrivateRegular_cases other name with rejected | ⟨file, found, read⟩
  · exact rejected.bind
  · rw [read]
    refine rejected_raiseIf fun same => absurd ?_ (differs file found)
    rw [not_ne_iff, kept.contentSha256] at same
    exact collisionFree _ same

/-- The snapshot id determines what it is the hash of. -/
theorem snapshotIdentity_inj {forged : GoldMetadata}
    (hashes : platform.HashesCanonically floats)
    (collisionFree : platform.NoSecondPreimage (snapshotBytes floats metadata))
    {snapshotId : String}
    (genuine : platform.canonicalJsonHash (snapshotIdentity metadata.version
      metadata.contentSha256 metadata.itemCount metadata.scopeStatus) =
        .ok snapshotId)
    (same : platform.canonicalJsonHash (snapshotIdentity forged.version
      forged.contentSha256 forged.itemCount forged.scopeStatus) =
        .ok snapshotId) :
    forged.version = metadata.version ∧
      forged.contentSha256 = metadata.contentSha256 ∧
      forged.itemCount = metadata.itemCount ∧
      forged.scopeStatus = metadata.scopeStatus := by
  rw [hashes, PyValue.canonicalJsonHash] at genuine same
  obtain ⟨text, read, hash⟩ := bind_eq_ok.mp genuine
  obtain ⟨text', read', hash'⟩ := bind_eq_ok.mp same
  have bytes : snapshotBytes floats metadata =
      text.toByteArray.data.toList := by
    rw [snapshotBytes, (PyValue.canonicalJson_ofJson.mp read).2]
  have equal : text'.toByteArray.data.toList =
      text.toByteArray.data.toList := by
    rw [← bytes]
    refine collisionFree _ ?_
    rw [bytes]
    exact (Except.ok.inj hash').trans (Except.ok.inj hash).symm
  have texts : text' = text :=
    String.toByteArray_inj.mp (ByteArray.ext (Array.toList_inj.mp equal))
  have fields := (PyValue.same_of_canonicalJson_eq (texts ▸ read') read).lookup
    (by simp) (by simp)
  exact ⟨str_of_rel (fields "version"), str_of_rel (fields "content_sha256"),
    int_of_rel (fields "item_count"), str_of_rel (fields "scope_status")⟩

/-- Other metadata have another snapshot id. -/
theorem Sealed.rejects_metadata
    (kept : Sealed floats platform items name version qualityThresholdMet
      directory sealed metadata)
    (authorized : authorizeGoldAccess allowGoldAccess command explicit =
      .ok authorization)
    (hashes : platform.HashesCanonically floats)
    (collisionFree : platform.NoSecondPreimage (snapshotBytes floats metadata))
    {forged : GoldMetadata} (sameId : forged.snapshotId = metadata.snapshotId)
    (differs : ¬(forged.version = metadata.version ∧
      forged.contentSha256 = metadata.contentSha256 ∧
      forged.itemCount = metadata.itemCount ∧
      forged.scopeStatus = metadata.scopeStatus))
    (other : GoldDirectory) (path : String) :
    Rejected (loadSealedGold platform parser other path forged
      authorization) := by
  obtain ⟨capable, permitted⟩ := authorizeGoldAccess_ok authorized
  obtain ⟨bytes, hashed⟩ := hashes.ok (show (snapshotIdentity forged.version
    forged.contentSha256 forged.itemCount forged.scopeStatus).isCompliant =
      true from rfl)
  unfold loadSealedGold
  rw [raiseIf_bind (not_not.mpr capable), raiseIf_bind (not_not.mpr permitted)]
  refine rejected_raiseIf fun _ => rejected_raiseIf fun _ => ?_
  rw [hashed]
  refine rejected_raiseIf fun same => absurd ?_ differs
  rw [not_ne_iff, sameId] at same
  exact snapshotIdentity_inj hashes collisionFree kept.snapshotId
    (hashed.trans (congrArg Except.ok same.symm))

/-- Loading returns what was sealed, sorted by id, and rejects other bytes and
other metadata. -/
theorem sealed_gold_kept (parser : JsonParser floats)
    (success : sealGold floats platform now directory items name version
      qualityThresholdMet sealedAt = .ok (metadata, sealed))
    (authorized : authorizeGoldAccess allowGoldAccess command explicit =
      .ok authorization)
    (hashes : platform.HashesCanonically floats) :
    loadSealedGold platform parser sealed name metadata authorization =
        .ok (sortBy (fun item => item.itemId) items) ∧
      (platform.NoSecondPreimage (goldPayload floats items) →
        ∀ other : GoldDirectory,
          (∀ file, other.files.get? name = some file →
            file.content ≠ goldPayload floats items) →
          Rejected (loadSealedGold platform parser other name metadata
            authorization)) ∧
      (platform.NoSecondPreimage (snapshotBytes floats metadata) →
        ∀ forged : GoldMetadata, forged.snapshotId = metadata.snapshotId →
          ¬(forged.version = metadata.version ∧
            forged.contentSha256 = metadata.contentSha256 ∧
            forged.itemCount = metadata.itemCount ∧
            forged.scopeStatus = metadata.scopeStatus) →
          ∀ (other : GoldDirectory) (path : String),
            Rejected (loadSealedGold platform parser other path forged
              authorization)) := by
  have kept := sealGold_ok success
  refine ⟨kept.load authorized, ?_, ?_⟩
  · intro collisionFree other differs
    exact kept.rejects_payload authorized collisionFree differs
  · intro collisionFree forged sameId differs other path
    exact kept.rejects_metadata authorized hashes collisionFree sameId differs
      other path

/-! ## A sealed cohort -/

/-- Items of the required number with distinct ids are accepted. -/
theorem sealGold_accepts (hashes : platform.HashesCanonically floats)
    (digests : ∀ bytes, isHexDigest (platform.sha256Hex bytes) = true)
    (versioned : strip version ≠ "")
    (count : items.length = requiredItems qualityThresholdMet)
    (unique : (items.map fun item => item.itemId).Nodup)
    (direct : directory.openPrivateParent name = .ok ())
    (fresh : directory.files.get? name = none) :
    ∃ metadata sealed, sealGold floats platform now directory items name
      version qualityThresholdMet none = .ok (metadata, sealed) := by
  obtain ⟨bytes, hashed⟩ := hashes.ok (show (snapshotIdentity version
    (platform.sha256Hex (goldPayload floats items)) items.length
    (sealedScope qualityThresholdMet)).isCompliant = true from rfl)
  have published : directory.publishPrivateImmutable name
      (goldPayload floats items) =
        .ok (directory.withFile name (goldPayload floats items)) := by
    rw [GoldDirectory.publishPrivateImmutable, direct, fresh]
    rfl
  have named : name ≠ "" := by
    rintro rfl
    exact absurd direct (by simp [GoldDirectory.openPrivateParent])
  have nonblank : version ≠ "" := by
    rintro rfl
    exact versioned (by decide)
  have positive : (0 : ℤ) < items.length := by
    rw [count]
    cases qualityThresholdMet <;> decide
  have scope : sealedScope qualityThresholdMet ∈ ["full", "reduced"] := by
    cases qualityThresholdMet <;> decide
  refine ⟨
    { snapshotId := platform.sha256Hex bytes
      version := version
      fileName := name
      contentSha256 := platform.sha256Hex (goldPayload floats items)
      itemCount := items.length
      scopeStatus := sealedScope qualityThresholdMet
      sealedAt := { time := now, utcoffset := some 0 } },
    directory.withFile name (goldPayload floats items), ?_⟩
  unfold sealGold
  rw [raiseIf_bind versioned]
  dsimp only
  rw [raiseIf_bind (not_ne_iff.mpr count),
    raiseIf_bind (not_not.mpr unique), raiseIf_bind (by simp), hashed]
  change (directory.publishPrivateImmutable _ _ >>= fun _ => _) = _
  rw [published]
  change (GoldMetadata.validate _ >>= fun _ => _) = _
  rw [GoldMetadata.validate, if_pos ⟨digests _, nonblank, named, digests _,
    positive, scope, rfl⟩]
  rfl

end Sealed

/-- Its id is as long as its number says. -/
def sampleItem (number : ℕ) : GoldItem :=
  { itemId := String.ofList (List.replicate (number + 1) 'g')
    naturalQuestion := "Which year?"
    expectedAnswer := some "1999"
    evidence := ["Founded in 1999."]
    questionType := "factoid"
    difficulty := "easy"
    answerable := true
    documentClusterId := "cluster"
    named := by simp [GoldFields.isNamed, List.replicate_succ]
    consistent := by simp [GoldFields.answerabilityIsConsistent] }

theorem sampleItem_consistent (number : ℕ) :
    (sampleItem number).answerabilityIsConsistent :=
  (sampleItem number).consistent

def sampleItems (count : ℕ) : List GoldItem :=
  (List.range count).map sampleItem

theorem sampleItems_unique (count : ℕ) :
    ((sampleItems count).map fun item => item.itemId).Nodup := by
  rw [sampleItems, List.map_map]
  refine List.nodup_range.map fun left right same => ?_
  have lengths := congrArg (fun text => text.toList.length) same
  simpa [sampleItem] using lengths

/-- Every hash but that of the payload and that of the identity is zeros. -/
def sealSha256 (payload identity bytes : Bytes) : String :=
  String.ofList (List.replicate 64
    (if bytes = payload then '1' else if bytes = identity then '2' else '0'))

def sealPlatform (payload identity : Bytes) : Platform :=
  { samplePlatform with
    sha256Hex := sealSha256 payload identity
    canonicalJsonHash := fun value => (PyValue.ofJson value).canonicalJsonHash
      sampleFloats (sealSha256 payload identity) }

theorem sealPlatform_hashes (payload identity : Bytes) :
    (sealPlatform payload identity).HashesCanonically sampleFloats :=
  fun _ => rfl

theorem sealSha256_isHexDigest (payload identity bytes : Bytes) :
    isHexDigest (sealSha256 payload identity bytes) = true := by
  unfold sealSha256
  split_ifs
  all_goals decide

theorem sealPlatform_collisionFree (payload identity : Bytes) :
    (sealPlatform payload identity).NoSecondPreimage payload ∧
      (sealPlatform payload identity).NoSecondPreimage identity := by
  have mark (bytes : Bytes) :
      ((sealPlatform payload identity).sha256Hex bytes).toList.head? =
        some (if bytes = payload then '1'
          else if bytes = identity then '2' else '0') := by
    simp [sealPlatform, sealSha256, List.replicate_succ]
  constructor
  all_goals
    intro other same
    have marks := congrArg (fun text => text.toList.head?) same
    simp only [mark] at marks
    grind

def emptyDirectory : GoldDirectory :=
  { isSafe := true
    files := Dict.empty }

/-- The identity that a reduced cohort of sample items is sealed with. -/
def sampleIdentity : Bytes :=
  snapshotBytes sampleFloats
    { snapshotId := ""
      version := "v1"
      fileName := "gold.jsonl"
      contentSha256 := String.ofList (List.replicate 64 '1')
      itemCount := 150
      scopeStatus := "reduced"
      sealedAt := { time := 0, utcoffset := some 0 } }

def sampleSealPlatform : Platform :=
  sealPlatform (goldPayload sampleFloats (sampleItems 150)) sampleIdentity

def sampleAuthorization : GoldAuthorization :=
  { command := "sealed-gold-test"
    isCapable := true }

/-- A sealed cohort is loaded, and with other bytes or metadata it is not. -/
theorem sample_items_kept :
    ∃ metadata sealed,
      sealGold sampleFloats sampleSealPlatform 0 emptyDirectory
        (sampleItems 150) "gold.jsonl" "v1" false none =
          .ok (metadata, sealed) ∧
      loadSealedGold sampleSealPlatform sampleParser sealed
        "gold.jsonl" metadata sampleAuthorization =
          .ok (sortBy (fun item => item.itemId) (sampleItems 150)) ∧
      Rejected (loadSealedGold sampleSealPlatform sampleParser
        (emptyDirectory.withFile "gold.jsonl" []) "gold.jsonl" metadata
        sampleAuthorization) ∧
      Rejected (loadSealedGold sampleSealPlatform sampleParser sealed
        "gold.jsonl" { metadata with version := "v2" }
        sampleAuthorization) := by
  have hashes : sampleSealPlatform.HashesCanonically sampleFloats :=
    sealPlatform_hashes _ _
  have count : (sampleItems 150).length = requiredItems false := by
    rw [sampleItems, List.length_map, List.length_range]
    rfl
  have versioned : strip "v1" ≠ "" := by decide
  have authorized : authorizeGoldAccess (some "1") "sealed-gold-test" true =
      .ok sampleAuthorization := rfl
  have accepted : ∃ metadata sealed, sealGold sampleFloats sampleSealPlatform 0
      emptyDirectory (sampleItems 150) "gold.jsonl" "v1" false none =
        .ok (metadata, sealed) :=
    sealGold_accepts hashes (sealSha256_isHexDigest _ _) versioned count
      (sampleItems_unique 150) rfl rfl
  obtain ⟨metadata, sealed, success⟩ := accepted
  obtain ⟨loaded, payload, forged⟩ :=
    sealed_gold_kept sampleParser success authorized hashes
  obtain ⟨payloadFree, identityFree⟩ := sealPlatform_collisionFree
    (goldPayload sampleFloats (sampleItems 150)) sampleIdentity
  have kept := sealGold_ok success
  have hash : metadata.contentSha256 =
      String.ofList (List.replicate 64 '1') := by
    rw [kept.contentSha256]
    change sealSha256 _ _ _ = _
    rw [sealSha256, if_pos rfl]
  have identity : snapshotBytes sampleFloats metadata = sampleIdentity := by
    have number : ((requiredItems false : ℕ) : ℤ) = 150 := rfl
    have scope : sealedScope false = "reduced" := rfl
    rw [snapshotBytes, kept.version_eq, hash, kept.itemCount,
      kept.scopeStatus, count, number, scope, sampleIdentity, snapshotBytes]
  refine ⟨metadata, sealed, success, loaded, ?_, ?_⟩
  · refine payload payloadFree _ ?_
    intro file found
    rw [GoldDirectory.withFile, Dict.get?_set_self] at found
    cases found
    have nonempty : goldPayload sampleFloats (sampleItems 150) ≠ [] := by
      intro empty
      have none : parseGoldLines sampleParser [] = .ok [] := by
        simp [parseGoldLines, splitLines]
        rfl
      have items := parseGoldLines_payload sampleParser (sampleItems 150)
      rw [empty, none] at items
      have lengths := congrArg List.length (Except.ok.inj items)
      rw [(sortBy_perm _ _).length_eq, count] at lengths
      exact absurd lengths (by decide)
    exact nonempty.symm
  · have identityFree' : sampleSealPlatform.NoSecondPreimage
        (snapshotBytes sampleFloats metadata) := by
      rw [identity]
      exact identityFree
    refine forged identityFree' { metadata with version := "v2" } rfl ?_
      sealed "gold.jsonl"
    rw [kept.version_eq]
    rintro ⟨same, -⟩
    exact absurd same (show "v2" ≠ "v1" by decide)

end RagBench
