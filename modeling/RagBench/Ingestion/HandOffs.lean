import RagBench.Chunking.Records
import RagBench.Core.JsonReader
import RagBench.Embeddings.BuildPlan
import RagBench.Ingestion.ParseCheckpoint
import RagBench.Ingestion.ParsePlanning

/-!
# Files between the scripts

The scripts print one JSON object to a line, and read a file line by line.  The
writers end a line with `\n`; the readers end it wherever `str.splitlines`
does.
-/

namespace RagBench

/-! ## Writers -/

/-- `json.dumps(record, ensure_ascii=False, sort_keys=True)`. -/
def recordLine (floats : FloatText) (record : JsonObject) : List Char :=
  (Json.object record).sorted.dumps floats

/-- The payload of a file with one record to a line. -/
def recordLines (floats : FloatText) (records : List JsonObject) : List Char :=
  (records.map (recordLine floats)).flatMap fun line => line ++ ['\n']

/-- `asdict(record)`. -/
def ChunkRecord.asdict (record : ChunkRecord) : JsonObject :=
  [("chunk_id", .str record.chunkId),
    ("document_id", .str record.documentId),
    ("parse_snapshot_id", .str record.parseSnapshotId),
    ("strategy", .str record.strategy),
    ("strategy_hash", .str record.strategyHash),
    ("ordinal", .int record.ordinal),
    ("page_start", .int record.pageStart),
    ("page_end", .int record.pageEnd),
    ("section_path", .array (record.sectionPath.map .str)),
    ("content", .str record.content),
    ("token_count", .int record.tokenCount),
    ("token_start", .int record.tokenStart),
    ("token_end", .int record.tokenEnd),
    ("source_block_ids", .array (record.sourceBlockIds.map .str))]

/-- The dataset that `build_chunk_snapshots` writes. -/
def chunkDataset (floats : FloatText) (records : List ChunkRecord) : Bytes :=
  utf8 (recordLines floats (records.map ChunkRecord.asdict))

def CheckpointStatus.value : CheckpointStatus → String
  | .succeeded => "succeeded"
  | .failed => "failed"
  | .reconciliationRequired => "reconciliation_required"

/-- `asdict(checkpoint)`; `decimalText` is the `str` that `default` names. -/
def ParseCheckpoint.asdict (decimalText : ℚ → String)
    (checkpoint : ParseCheckpoint) : JsonObject :=
  [("snapshot_id", .str checkpoint.snapshotId),
    ("document_id", .str checkpoint.documentId),
    ("source_sha256", .str checkpoint.sourceSha256),
    ("expected_pages", .int checkpoint.expectedPages),
    ("provider_model_id", .str checkpoint.providerModelId),
    ("provider_model_version", .str checkpoint.providerModelVersion),
    ("mode", .str checkpoint.mode.value),
    ("status", .str checkpoint.status.value),
    ("raw_response", (checkpoint.rawResponse.map .object).getD .null),
    ("raw_response_hash", optionalText checkpoint.rawResponseHash),
    ("markdown", .str checkpoint.markdown),
    ("html", .str checkpoint.html),
    ("elements", .array (checkpoint.elements.map .object)),
    ("page_mappings", .array (checkpoint.pageMappings.map .object)),
    ("latency_ms", .int checkpoint.latencyMs),
    ("cost_usd", .str (decimalText checkpoint.costUsd)),
    ("correlation_id", optionalText checkpoint.correlationId),
    ("error", optionalText checkpoint.error)]

/-- What `write_checkpoints` writes. -/
def writeCheckpoints (floats : FloatText) (decimalText : ℚ → String)
    (checkpoints : List ParseCheckpoint) : Bytes :=
  utf8 (recordLines floats
    (checkpoints.map (ParseCheckpoint.asdict decimalText)))

/-! ## Readers -/

/-- What reading a text file makes of its line ends. -/
def universalNewlines : List Char → List Char
  | [] => []
  | '\r' :: '\n' :: rest => '\n' :: universalNewlines rest
  | '\r' :: rest => '\n' :: universalNewlines rest
  | character :: rest => character :: universalNewlines rest

/-- `json.loads(line)`. -/
def loadLine (loads : List Char → Option Json) (line : List Char) :
    Except PyException Json :=
  match loads line with
  | none => .error (.valueError "invalid JSON")
  | some value => .ok value

/-- The checkpoints that `main` of `build_chunks` reads. -/
def readCheckpoints (loads : List Char → Option Json) (payload : Bytes) :
    Except PyException (List Json) :=
  match Utf8.decode payload with
  | none => .error (.unicodeDecodeError "invalid UTF-8")
  | some text => (writtenLines (universalNewlines text)).mapM (loadLine loads)

/-! ## The line of a record -/

variable {floats : FloatText}

/-- A string without NEL, LINE SEPARATOR and PARAGRAPH SEPARATOR.  The other
line breaks are control characters, which are escaped. -/
def KeepsLine (text : String) : Prop :=
  ∀ character ∈ text.toList, character.toNat ∉ [0x85, 0x2028, 0x2029]

instance (text : String) : Decidable (KeepsLine text) :=
  decidable_of_iff (text.toList.all fun character =>
    character.toNat ∉ [0x85, 0x2028, 0x2029]) (by simp [KeepsLine])

private theorem recordLine_eq (record : JsonObject) :
    recordLine floats record =
      Json.laidOut [' '] floats (Json.object record).sorted :=
  Json.dumps_eq _

private theorem recordLine_braces (record : JsonObject) :
    ∃ inner, recordLine floats record = '{' :: (inner ++ ['}']) :=
  ⟨_, (recordLine_eq record).trans (Json.laidOut_object _)⟩

private theorem printable_recordLine (record : JsonObject) :
    ∀ character ∈ recordLine floats record, 32 ≤ character.toNat := by
  rw [recordLine_eq]
  exact Json.printable_laidOut (List.forall_mem_singleton.mpr (by decide))

/-- Of the line breaks, only the wide ones can stand in a record. -/
private theorem unbroken_recordLine_iff (record : JsonObject) :
    Unbroken (recordLine floats record) ↔
      ∀ text ∈ (Json.object record).strings, KeepsLine text := by
  have wide (character : Char) (large : 32 ≤ character.toNat) :
      isLineBreak character = true ↔
        character.toNat ∈ [0x85, 0x2028, 0x2029] := by
    simp only [isLineBreak, List.mem_cons, List.not_mem_nil, or_false,
      decide_eq_true_eq]
    omega
  have stands (character : Char)
      (isWide : character.toNat ∈ [0x85, 0x2028, 0x2029]) :
      character ∈ recordLine floats record ↔
        ∃ text ∈ (Json.object record).strings, character ∈ text.toList := by
    have large : 127 ≤ character.toNat := by
      simp only [List.mem_cons, List.not_mem_nil, or_false] at isWide
      omega
    rw [recordLine_eq, Json.mem_laidOut_iff large]
    · simp only [(Json.strings_sorted (.object record)).mem_iff]
    · rintro member
      rw [List.mem_singleton.mp member] at large
      exact absurd large (by decide)
  constructor
  · intro unbroken text written character inText isWide
    have member := (stands character isWide).mpr ⟨text, written, inText⟩
    have ends := (wide character
      (printable_recordLine record character member)).mpr isWide
    rw [unbroken character member] at ends
    cases ends
  · intro keeps character member
    by_contra ends
    have isWide := (wide character
      (printable_recordLine record character member)).mp
        (Bool.not_eq_false _ ▸ ends)
    obtain ⟨text, written, inText⟩ := (stands character isWide).mp member
    exact keeps text written character inText isWide

private theorem noReturn_recordLine (record : JsonObject) :
    '\r' ∉ recordLine floats record := fun member =>
  absurd (printable_recordLine record '\r' member) (by decide)

/-! ## Reading the lines back -/

/-- The records are read back one by one exactly when their strings keep the
lines. -/
private theorem mapM_recordLines_iff {β : Type}
    {step : List Char → Except PyException β} {same : JsonObject → β → Prop}
    {records : List JsonObject}
    (reads : ∀ record ∈ records, ∃ row,
      step (recordLine floats record) = .ok row ∧ same record row) :
    (∃ rows, (writtenLines (recordLines floats records)).mapM step =
        .ok rows ∧ List.Forall₂ same records rows) ↔
      ∀ record ∈ records, ∀ text ∈ (Json.object record).strings,
        KeepsLine text := by
  have filled : ∀ line ∈ records.map (recordLine floats), line ≠ [] := by
    refine List.forall_mem_map.mpr fun record _ => ?_
    obtain ⟨inner, braces⟩ := @recordLine_braces floats record
    rw [braces]
    exact List.cons_ne_nil _ _
  constructor
  · rintro ⟨rows, mapped, related⟩
    have length := (mapM_eq_ok.mp mapped).length_eq
    rw [← related.length_eq, ← List.length_map (recordLine floats)] at length
    have unbroken := unbroken_of_length_writtenLines ?_ filled ?_ ?_ length
    · intro record member
      exact (unbroken_recordLine_iff record).mp
        (unbroken _ (List.mem_map_of_mem member))
    · exact List.forall_mem_map.mpr fun record _ => noReturn_recordLine record
    · refine List.forall_mem_map.mpr fun record _ character first => ?_
      obtain ⟨inner, braces⟩ := @recordLine_braces floats record
      rw [braces] at first
      rw [← Option.some.inj first]
      rfl
    · refine List.forall_mem_map.mpr fun record _ character last => ?_
      obtain ⟨inner, braces⟩ := @recordLine_braces floats record
      rw [braces, ← List.cons_append, List.getLast?_concat] at last
      rw [← Option.some.inj last]
      rfl
  · intro keeps
    have unbroken : ∀ line ∈ records.map (recordLine floats), Unbroken line :=
      List.forall_mem_map.mpr fun record member =>
        (unbroken_recordLine_iff record).mpr (keeps record member)
    rw [recordLines, writtenLines_of_all_unbroken filled unbroken]
    clear keeps unbroken filled
    induction records with
    | nil => exact ⟨[], rfl, .nil⟩
    | cons record records induction =>
        obtain ⟨here, later⟩ := List.forall_mem_cons.mp reads
        obtain ⟨row, read, related⟩ := here
        obtain ⟨rows, mapped, others⟩ := induction later
        refine ⟨row :: rows, ?_, .cons related others⟩
        rw [mapM_eq_ok, List.map_cons]
        exact .cons read (mapM_eq_ok.mp mapped)

/-- Nothing is changed where no carriage return stands. -/
private theorem universalNewlines_eq {text : List Char}
    (noReturn : '\r' ∉ text) : universalNewlines text = text := by
  induction text with
  | nil => rfl
  | cons first text induction =>
      rw [List.mem_cons, not_or] at noReturn
      rw [universalNewlines, induction noReturn.2]
      · rintro rest rfl _
        exact noReturn.1 rfl
      · rintro rfl
        exact noReturn.1 rfl

private theorem noReturn_recordLines (records : List JsonObject) :
    '\r' ∉ recordLines floats records := by
  intro member
  obtain ⟨line, listed, inside⟩ := List.mem_flatMap.mp member
  obtain ⟨record, -, rfl⟩ := List.mem_map.mp listed
  rcases List.mem_append.mp inside with inLine | ending
  · exact noReturn_recordLine record inLine
  · exact absurd (List.mem_singleton.mp ending) (by decide)

section Reader

open JsonReader

variable (reader : FloatReader floats)

private theorem loads_recordLine {record : JsonObject}
    (unique : (Json.object record).UniqueKeys) :
    loads reader (recordLine floats record) =
      some (Json.object record).sorted :=
  loads_dumps (Json.uniqueKeys_sorted _ unique)

private theorem uniqueKeys_chunk (record : ChunkRecord) :
    (Json.object record.asdict).UniqueKeys := by
  have texts (items : List String) : Json.ItemsUnique (items.map .str) := by
    induction items with
    | nil => trivial
    | cons item items induction => exact ⟨trivial, induction⟩
  refine ⟨?_, ?_⟩
  · change List.Nodup ["chunk_id", "document_id", "parse_snapshot_id",
      "strategy", "strategy_hash", "ordinal", "page_start", "page_end",
      "section_path", "content", "token_count", "token_start", "token_end",
      "source_block_ids"]
    decide
  · simp [ChunkRecord.asdict, Json.EntriesUnique, Json.UniqueKeys, texts]

/-- `build_plan` reads the rows of the dataset exactly when no string of a
chunk breaks its line. -/
private theorem datasetRows_iff (records : List ChunkRecord) :
    (∃ rows, datasetRows (loads reader) (chunkDataset floats records) =
        .ok rows ∧ List.Forall₂ (fun record row =>
          (Json.object record).Same (.object row))
          (records.map ChunkRecord.asdict) rows) ↔
      ∀ record ∈ records, ∀ text ∈ (Json.object record.asdict).strings,
        KeepsLine text := by
  have lines : datasetRows (loads reader) (chunkDataset floats records) =
      (writtenLines (recordLines floats
        (records.map ChunkRecord.asdict))).mapM (datasetRow (loads reader)) := by
    rw [datasetRows, chunkDataset, Utf8.decode_eq_some_iff.mpr rfl]
    rfl
  rw [lines, mapM_recordLines_iff, List.forall_mem_map]
  refine List.forall_mem_map.mpr fun record _ => ?_
  refine ⟨_, ?_, Json.same_sorted _⟩
  rw [datasetRow, loads_recordLine reader (uniqueKeys_chunk record)]
  rfl

/-- `main` reads the checkpoints exactly when no string breaks its line. -/
private theorem readCheckpoints_iff (decimalText : ℚ → String)
    {checkpoints : List ParseCheckpoint}
    (unique : ∀ checkpoint ∈ checkpoints,
      (Json.object (checkpoint.asdict decimalText)).UniqueKeys) :
    (∃ rows, readCheckpoints (loads reader)
        (writeCheckpoints floats decimalText checkpoints) = .ok rows ∧
        List.Forall₂ (fun record row => (Json.object record).Same row)
          (checkpoints.map (ParseCheckpoint.asdict decimalText)) rows) ↔
      ∀ checkpoint ∈ checkpoints,
        ∀ text ∈ (Json.object (checkpoint.asdict decimalText)).strings,
          KeepsLine text := by
  have lines : readCheckpoints (loads reader)
      (writeCheckpoints floats decimalText checkpoints) =
        (writtenLines (recordLines floats (checkpoints.map
          (ParseCheckpoint.asdict decimalText)))).mapM
          (loadLine (loads reader)) := by
    rw [readCheckpoints, writeCheckpoints, Utf8.decode_eq_some_iff.mpr rfl]
    dsimp only
    rw [universalNewlines_eq (noReturn_recordLines _)]
  rw [lines, mapM_recordLines_iff, List.forall_mem_map]
  refine List.forall_mem_map.mpr fun checkpoint member => ?_
  refine ⟨_, ?_, Json.same_sorted _⟩
  rw [loadLine, loads_recordLine reader (unique checkpoint member)]

/-- The files hand over what was written exactly when no string of a record
has a line break that is not escaped. -/
theorem handOffs_lossless_iff (decimalText : ℚ → String) :
    (∀ records : List ChunkRecord,
      (∃ rows, datasetRows (loads reader) (chunkDataset floats records) =
          .ok rows ∧ List.Forall₂ (fun record row =>
            (Json.object record).Same (.object row))
            (records.map ChunkRecord.asdict) rows) ↔
        ∀ record ∈ records, ∀ text ∈ (Json.object record.asdict).strings,
          KeepsLine text) ∧
    ∀ checkpoints : List ParseCheckpoint,
      (∀ checkpoint ∈ checkpoints,
        (Json.object (checkpoint.asdict decimalText)).UniqueKeys) →
      ((∃ rows, readCheckpoints (loads reader)
          (writeCheckpoints floats decimalText checkpoints) = .ok rows ∧
          List.Forall₂ (fun record row => (Json.object record).Same row)
            (checkpoints.map (ParseCheckpoint.asdict decimalText)) rows) ↔
        ∀ checkpoint ∈ checkpoints,
          ∀ text ∈ (Json.object (checkpoint.asdict decimalText)).strings,
            KeepsLine text) :=
  ⟨datasetRows_iff reader, fun _ unique =>
    readCheckpoints_iff reader decimalText unique⟩

end Reader

/-- A chunk with one string of text. -/
def chunkOf (content : String) : ChunkRecord where
  chunkId := "c"
  documentId := "d"
  parseSnapshotId := "p"
  strategy := "fixed"
  strategyHash := "h"
  ordinal := 0
  pageStart := 1
  pageEnd := 1
  sectionPath := []
  content := content
  tokenCount := 1
  tokenStart := 0
  tokenEnd := 1
  sourceBlockIds := ["b"]
  pages := by decide
  tokens := by decide

/-- A failed checkpoint with one string of Markdown. -/
def checkpointOf (markdown : String) : ParseCheckpoint where
  snapshotId := "s"
  documentId := "d"
  sourceSha256 := "h"
  expectedPages := 1
  providerModelId := "m"
  providerModelVersion := "m"
  mode := .standard
  status := .failed
  rawResponse := none
  rawResponseHash := none
  markdown := markdown
  html := ""
  elements := []
  pageMappings := []
  latencyMs := 0
  costUsd := 0

theorem handOffs_lossless_iff_plain :
    (∃ rows, readCheckpoints (JsonReader.loads JsonReader.sampleReader)
        (writeCheckpoints sampleFloats (fun _ => "0") [checkpointOf "a"]) =
          .ok rows ∧ rows.length = 1) := by
  have lossless := (handOffs_lossless_iff JsonReader.sampleReader
    fun _ => "0").2 [checkpointOf "a"]
  obtain ⟨rows, read, same⟩ := (lossless (by
      refine List.forall_mem_singleton.mpr ⟨?_, ?_⟩
      · decide
      · simp [ParseCheckpoint.asdict, Json.EntriesUnique, Json.UniqueKeys,
          checkpointOf, optionalText, Json.ItemsUnique])).mpr (by
      intro checkpoint member
      rw [List.mem_singleton.mp member]
      decide +kernel)
  exact ⟨rows, read, same.length_eq.symm⟩

/-- A line separator in the text of a chunk ends its line, and neither half is
JSON. -/
theorem line_separator_breaks_row :
    ¬∃ rows, datasetRows (JsonReader.loads JsonReader.sampleReader)
      (chunkDataset sampleFloats [chunkOf "a\u2028b"]) = .ok rows := by
  have fails : (datasetRows (JsonReader.loads JsonReader.sampleReader)
      (chunkDataset sampleFloats [chunkOf "a\u2028b"])).isOk = false := by
    decide +kernel
  rintro ⟨rows, read⟩
  rw [read] at fails
  cases fails

end RagBench
