import RagBench.Experiments.Screening

/-!
# Checkpoints of a screen

A record that was written is read back as it is, with its latencies in the
order of the questions, exactly when its books are in order.  The evaluation is
not written.
-/

namespace RagBench

/-! ## Hits -/

namespace PersistedRankedHit

theorem entries_nodup (hit : PersistedRankedHit) :
    (hit.entries.map Prod.fst).Nodup := by
  have names : persistedHitNames.Nodup := by
    decide
  exact names

/-- The scores of the components are finite. -/
def IsWritable (hit : PersistedRankedHit) : Prop :=
  hit.score.isFinite = true ∧ hit.fusedScore.isFinite = true ∧
    (∀ score ∈ hit.denseScore, score.isFinite = true) ∧
      ∀ score ∈ hit.sparseScore, score.isFinite = true

theorem compliant_float {value : PyFloat} :
    (Json.float value).isCompliant = true ↔ value.isFinite = true := by
  cases value with
  | finite value => exact Iff.rfl
  | infinity | negativeInfinity | nan => exact Iff.rfl

private theorem compliant_score (score : Option PyFloat) :
    ((score.map Json.float).getD .null).isCompliant = true ↔
      ∀ value ∈ score, value.isFinite = true := by
  cases score with
  | none => exact iff_of_true rfl fun _ member => absurd member (by simp)
  | some score =>
      rw [Option.map_some, Option.getD_some, compliant_float]
      simp

private theorem compliant_rank (rank : Option ℤ) :
    ((rank.map Json.int).getD .null).isCompliant = true := by
  cases rank with
  | none => rfl
  | some rank => rfl

theorem compliant_iff (hit : PersistedRankedHit) :
    (Json.object hit.entries).isCompliant = true ↔ hit.IsWritable := by
  rw [Json.isCompliant, Json.entriesCompliant_iff, entries]
  simp only [List.forall_mem_cons, compliant_float, compliant_score,
    compliant_rank, List.not_mem_nil, false_imp_iff, implies_true, and_true,
    true_and, IsWritable]
  have text (value : String) : (Json.str value).isCompliant = true := rfl
  have rank (value : ℤ) : (Json.int value).isCompliant = true := rfl
  simp only [text, rank, true_and]
  tauto

theorem uniqueKeys (hit : PersistedRankedHit) :
    (Json.object hit.entries).UniqueKeys := by
  have score (score : Option PyFloat) :
      ((score.map Json.float).getD .null).UniqueKeys := by
    cases score with
    | none => exact trivial
    | some score => exact trivial
  have rank (rank : Option ℤ) :
      ((rank.map Json.int).getD .null).UniqueKeys := by
    cases rank with
    | none => exact trivial
    | some rank => exact trivial
  refine ⟨hit.entries_nodup, ?_⟩
  simp [entries, Json.EntriesUnique, Json.UniqueKeys, score, rank]

private theorem optional_sorted {α : Type} {read : Json → Option α}
    {write : α → Json} (value : Option α)
    (atom : ∀ value, (write value).sorted = write value)
    (inverse : ∀ value, Json.asOptional read (write value) =
      some (some value)) :
    Json.asOptional read ((value.map write).getD .null).sorted =
      some value := by
  cases value with
  | none => rfl
  | some value =>
      rw [Option.map_some, Option.getD_some, atom]
      exact inverse value

/-- A row is read back from its sorted entries. -/
theorem ofJson_sorted (hit : PersistedRankedHit) :
    ofJson (Json.object hit.entries).sorted = .ok hit := by
  have known : ¬ ((sortByKey (Json.sortedEntries hit.entries)).any fun entry =>
      entry.1 ∉ persistedHitNames) = true := by
    rw [List.any_eq_true]
    rintro ⟨entry, member, unknown⟩
    refine of_decide_eq_true unknown ?_
    have listed := List.mem_map_of_mem (f := Prod.fst)
      ((Json.sortByKey_perm_self _).mem_iff.mp member)
    rwa [Json.map_fst_sortedEntries] at listed
  have found (key : String) : Json.get? (sortByKey
      (Json.sortedEntries hit.entries)) key =
        (Json.get? hit.entries key).map Json.sorted :=
    Json.get?_sorted hit.entries_nodup key
  have text {key value : String}
      (listed : Json.get? hit.entries key = some (.str value)) :
      Json.field Json.asText (sortByKey (Json.sortedEntries hit.entries))
        key = .ok value :=
    Json.field_eq ((found key).trans (congrArg _ listed)) rfl
  have float {key : String} {value : PyFloat}
      (listed : Json.get? hit.entries key = some (.float value)) :
      Json.field Json.asFloat (sortByKey (Json.sortedEntries hit.entries))
        key = .ok value :=
    Json.field_eq ((found key).trans (congrArg _ listed)) rfl
  have rank {key : String} {value : Option ℤ} (listed : Json.get?
      hit.entries key = some ((value.map .int).getD .null)) :
      Json.field (Json.asOptional Json.asInt)
        (sortByKey (Json.sortedEntries hit.entries)) key = .ok value :=
    Json.field_eq ((found key).trans (congrArg _ listed))
      (optional_sorted value (fun _ => rfl) fun _ => rfl)
  have score {key : String} {value : Option PyFloat} (listed : Json.get?
      hit.entries key = some ((value.map .float).getD .null)) :
      Json.field (Json.asOptional Json.asFloat)
        (sortByKey (Json.sortedEntries hit.entries)) key = .ok value :=
    Json.field_eq ((found key).trans (congrArg _ listed))
      (optional_sorted value (fun _ => rfl) fun _ => rfl)
  have place : Json.field Json.asInt (sortByKey
      (Json.sortedEntries hit.entries)) "rank" = .ok hit.rank :=
    Json.field_eq ((found "rank").trans (congrArg _ rfl)) rfl
  rw [Json.sorted, ofJson, raiseIf_bind known, text rfl, text rfl, place,
    float rfl, text rfl, rank rfl, rank rfl, score rfl, score rfl, float rfl]
  rfl

end PersistedRankedHit

/-! ## Records -/

/-- The ranks count up from one, and the chunks are distinct. -/
def IsHitRanking (hits : List PersistedRankedHit) : Prop :=
  hits.map PersistedRankedHit.rank =
      ((List.range' 1 hits.length).map fun rank : ℕ => (rank : ℤ)) ∧
    (hits.map PersistedRankedHit.chunkId).Nodup

theorem toFinset_card_eq_length {α : Type} [DecidableEq α] {items : List α} :
    items.toFinset.card = items.length ↔ items.Nodup :=
  Multiset.toFinset_card_eq_card_iff_nodup (m := (items : Multiset α))

theorem checkRanking_ok {group : String × List PersistedRankedHit} :
    checkRanking group = .ok () ↔ IsHitRanking group.2 := by
  rw [checkRanking, raiseIf_eq_ok, not_or, not_not, not_not, IsHitRanking,
    ← toFinset_card_eq_length, List.length_map]

namespace ScreeningRunRecord

/-- The books of a record agree. -/
structure IsChecked (record : ScreeningRunRecord) : Prop where
  expected : record.expectedQuestionIds.Nodup
  completed : record.completedQuestionIds ⊆
    record.expectedQuestionIds.toFinset
  measured : record.latenciesMs.keys.toFinset = record.completedQuestionIds
  latencies : ∀ value ∈ record.latenciesMs.values,
    value.isFinite = true ∧ value.lt (.finite 0) = false
  hits : ∀ hit ∈ record.hits, hit.questionId ∈ record.completedQuestionIds ∧
    hit.score.isFinite = true ∧ hit.fusedScore.isFinite = true
  rankings : ∀ questionId, IsHitRanking
    (record.hits.filter fun hit => hit.questionId = questionId)

/-- What is read back of a record. -/
def reread (record : ScreeningRunRecord) : ScreeningRunRecord :=
  { record with
    latenciesMs := record.latenciesMs.sorted
    evaluation := none }

theorem isHitRanking_nil : IsHitRanking [] :=
  ⟨rfl, List.nodup_nil⟩

/-- The rankings that are checked are those of all questions. -/
theorem rankings_checked_iff (hits : List PersistedRankedHit) :
    (∀ group ∈ (groupInto PersistedRankedHit.questionId .empty hits).entries,
      IsHitRanking group.2) ↔
      ∀ questionId, IsHitRanking
        (hits.filter fun hit => hit.questionId = questionId) := by
  have found (questionId : String) : (groupInto
      PersistedRankedHit.questionId .empty hits).getD questionId [] =
      hits.filter fun hit => hit.questionId = questionId := by
    rw [getD_groupInto]
    rfl
  constructor
  · intro each questionId
    by_cases listed : questionId ∈ (groupInto PersistedRankedHit.questionId
        .empty hits).keys
    · obtain ⟨group, member, rfl⟩ := List.mem_map.mp listed
      rw [← found, Dict.getD_eq_of_mem _ member]
      exact each group member
    · rw [← found, Dict.getD_eq_default _ listed]
      exact isHitRanking_nil
  · rintro each ⟨questionId, group⟩ member
    have ranked := each questionId
    rwa [← found, Dict.getD_eq_of_mem _ member] at ranked

theorem check_ok_iff {record : ScreeningRunRecord} {runId : String} :
    record.check runId = .ok () ↔ record.runId = runId ∧ record.IsChecked := by
  have chain : record.check runId = .ok () ↔
      record.runId = runId ∧ record.expectedQuestionIds.Nodup ∧
        record.completedQuestionIds ⊆ record.expectedQuestionIds.toFinset ∧
        (record.latenciesMs.keys.toFinset = record.completedQuestionIds ∧
          ∀ value ∈ record.latenciesMs.values,
            value.isFinite = true ∧ value.lt (.finite 0) = false) ∧
        (∀ hit ∈ record.hits,
          hit.questionId ∈ record.completedQuestionIds ∧
            hit.score.isFinite = true ∧ hit.fusedScore.isFinite = true) ∧
        ∀ questionId, IsHitRanking
          (record.hits.filter fun hit => hit.questionId = questionId) := by
    have step {condition : Prop} [Decidable condition] {error : PyException}
        {next : Except PyException Unit} :
        (raiseIf condition error >>= fun _ => next) = .ok () ↔
          ¬ condition ∧ next = .ok () := by
      rw [bind_eq_ok]
      simp [raiseIf_eq_ok]
    rw [check, step, step, step, step, step, forM_eq_ok, not_not, not_not,
      not_not, ← rankings_checked_iff]
    simp only [checkRanking_ok, toFinset_card_eq_length, not_or, not_not,
      List.any_eq_true, decide_eq_true_eq, not_exists, not_and,
      Bool.not_eq_true, Bool.not_eq_false, forall_and]
  rw [chain]
  constructor
  · rintro ⟨named, expected, completed, ⟨measured, latencies⟩, hits, rankings⟩
    exact ⟨named, expected, completed, measured, latencies, hits, rankings⟩
  · rintro ⟨named, checked⟩
    exact ⟨named, checked.expected, checked.completed,
      ⟨checked.measured, checked.latencies⟩, checked.hits, checked.rankings⟩

theorem payload_nodup (record : ScreeningRunRecord) :
    (record.payload.map Prod.fst).Nodup := by
  have names : ["schema_version", "run_id", "config_hash",
      "question_snapshot_hash", "expected_question_ids", "status",
      "completed_question_ids", "hits", "latencies_ms"].Nodup := by
    decide
  exact names

/-- Everything in the record can be written. -/
theorem compliant_payload_iff (record : ScreeningRunRecord) :
    (Json.object record.payload).isCompliant = true ↔
      (∀ hit ∈ record.hits, hit.IsWritable) ∧
        ∀ value ∈ record.latenciesMs.values, value.isFinite = true := by
  have text (value : String) : (Json.str value).isCompliant = true := rfl
  have hits : (Json.array (record.hits.map fun hit =>
      .object hit.entries)).isCompliant = true ↔
      ∀ hit ∈ record.hits, hit.IsWritable := by
    rw [Json.isCompliant, Json.itemsCompliant_iff, List.forall_mem_map]
    exact forall₂_congr fun hit _ => hit.compliant_iff
  have latencies : (Json.object (record.latenciesMs.entries.map fun entry =>
      (entry.1, Json.float entry.2))).isCompliant = true ↔
      ∀ value ∈ record.latenciesMs.values, value.isFinite = true := by
    rw [Json.isCompliant, Json.entriesCompliant_iff, List.forall_mem_map,
      Dict.values, List.forall_mem_map]
    exact forall₂_congr fun entry _ => PersistedRankedHit.compliant_float
  rw [Json.isCompliant, Json.entriesCompliant_iff, payload]
  simp only [List.forall_mem_cons, text, Json.compliant_texts, hits,
    latencies, List.not_mem_nil, false_imp_iff, implies_true, and_true,
    true_and]

theorem uniqueKeys_texts (texts : List String) :
    (Json.array (texts.map .str)).UniqueKeys := by
  rw [Json.UniqueKeys]
  induction texts with
  | nil => exact trivial
  | cons text texts induction => exact ⟨trivial, induction⟩

theorem uniqueKeys_payload (record : ScreeningRunRecord) :
    (Json.object record.payload).UniqueKeys := by
  have hits : (Json.array (record.hits.map fun hit =>
      .object hit.entries)).UniqueKeys := by
    rw [Json.UniqueKeys]
    induction record.hits with
    | nil => exact trivial
    | cons hit hits induction => exact ⟨hit.uniqueKeys, induction⟩
  have latencies : (Json.object (record.latenciesMs.entries.map fun entry =>
      (entry.1, Json.float entry.2))).UniqueKeys := by
    refine ⟨?_, Json.entriesUnique_iff.mpr (List.forall_mem_map.mpr
      fun _ _ => trivial)⟩
    rw [List.map_map]
    exact record.latenciesMs.nodup
  refine ⟨record.payload_nodup, Json.entriesUnique_iff.mpr ?_⟩
  rw [payload]
  simp only [List.forall_mem_cons, uniqueKeys_texts, hits, latencies,
    List.not_mem_nil, false_imp_iff, implies_true, and_true]
  simp only [Json.UniqueKeys, and_self]

/-! ## Reading a record back -/

/-- The file of a record, with its hash. -/
def written (record : ScreeningRunRecord) (integrityHash : String) : Json :=
  .object (record.payload ++ [("integrity_hash", .str integrityHash)])

/-- The entries of the file, but for the hash. -/
def restOf (record : ScreeningRunRecord) (integrityHash : String) :
    List (String × Json) :=
  Json.without "integrity_hash" (sortByKey (Json.sortedEntries
    (record.payload ++ [("integrity_hash", .str integrityHash)])))

theorem written_nodup (record : ScreeningRunRecord) (integrityHash : String) :
    ((record.payload ++ [("integrity_hash", Json.str integrityHash)]).map
      Prod.fst).Nodup := by
  have names : ["schema_version", "run_id", "config_hash",
      "question_snapshot_hash", "expected_question_ids", "status",
      "completed_question_ids", "hits", "latencies_ms",
      "integrity_hash"].Nodup := by
    decide
  exact names

theorem uniqueKeys_written (record : ScreeningRunRecord)
    (integrityHash : String) : (record.written integrityHash).UniqueKeys := by
  refine ⟨record.written_nodup integrityHash, Json.entriesUnique_iff.mpr ?_⟩
  have inside := Json.entriesUnique_iff.mp record.uniqueKeys_payload.2
  exact List.forall_mem_append.mpr
    ⟨inside, List.forall_mem_singleton.mpr trivial⟩

theorem get?_restOf (record : ScreeningRunRecord) (integrityHash : String)
    {key : String} {value : Json} (other : key ≠ "integrity_hash")
    (listed : Json.get? (record.payload ++
      [("integrity_hash", Json.str integrityHash)]) key = some value) :
    Json.get? (record.restOf integrityHash) key = some value.sorted := by
  rw [restOf, Json.get?_without other,
    Json.get?_sorted (record.written_nodup integrityHash), listed]
  rfl

theorem field_restOf {α : Type} (record : ScreeningRunRecord)
    (integrityHash : String) {key : String} {value : Json} {result : α}
    {read : Json → Option α} (other : key ≠ "integrity_hash")
    (listed : Json.get? (record.payload ++
      [("integrity_hash", Json.str integrityHash)]) key = some value)
    (accepted : read value.sorted = some result) :
    Json.field read (record.restOf integrityHash) key = .ok result :=
  Json.field_eq (record.get?_restOf integrityHash other listed) accepted

private theorem asTexts_sorted (texts : List String) :
    Json.asTexts (Json.array (texts.map .str)).sorted = some texts := by
  have atoms : Json.sortedItems (texts.map .str) = texts.map .str := by
    rw [Json.sortedItems_eq, List.map_map]
    rfl
  rw [Json.sorted, atoms]
  exact Json.asTexts_array texts

private theorem hits_sorted (hits : List PersistedRankedHit) :
    (Json.sortedItems (hits.map fun hit => .object hit.entries)).mapM
      PersistedRankedHit.ofJson = .ok hits := by
  induction hits with
  | nil => rfl
  | cons hit hits induction =>
      rw [List.map_cons, Json.sortedItems, List.mapM_cons,
        hit.ofJson_sorted, induction]
      rfl

theorem status_ofJson (status : ScreeningStatus) :
    ScreeningStatus.ofJson (.str status.value) = some status := by
  cases status with
  | running => rfl
  | interrupted => rfl
  | complete => rfl

private theorem latencies_sorted (latencies : Dict String PyFloat) :
    sortByKey (Json.sortedEntries (latencies.entries.map fun entry =>
        (entry.1, Json.float entry.2))) =
      latencies.sorted.entries.map fun entry =>
        (entry.1, Json.float entry.2) := by
  have atoms : Json.sortedEntries (latencies.entries.map fun entry =>
      (entry.1, Json.float entry.2)) =
      latencies.entries.map fun entry => (entry.1, Json.float entry.2) := by
    rw [Json.sortedEntries_eq, List.map_map]
    rfl
  have order : sortByKey latencies.entries = latencies.sorted.entries := by
    have perm : latencies.sorted.entries.Perm latencies.entries :=
      List.mergeSort_perm _ _
    rw [← Json.sortByKey_perm latencies.sorted.nodup perm]
    exact (sortBy_pairwise Prod.fst latencies.entries).insertionSort_eq
  rw [atoms, ← order]
  exact Json.sortByKey_map Json.float latencies.entries

private theorem latencies_read (platform : Platform)
    (entries : List (String × PyFloat)) :
    (entries.map fun entry => (entry.1, Json.float entry.2)).mapM
      (fun entry => do
        let value ← jsonToFloat platform entry.2
        return (entry.1, value)) = .ok entries := by
  induction entries with
  | nil => rfl
  | cons entry entries induction =>
      rw [List.map_cons, List.mapM_cons, induction]
      rfl

private theorem ofList_entries (dict : Dict String PyFloat) :
    Dict.ofList dict.entries = dict :=
  Dict.ext (Dict.entries_ofList dict.nodup)

theorem ofEntries_restOf (platform : Platform) (record : ScreeningRunRecord)
    (integrityHash : String) :
    ofEntries platform (record.restOf integrityHash) = .ok record.reread := by
  have text {key value : String} (other : key ≠ "integrity_hash")
      (listed : Json.get? (record.payload ++
        [("integrity_hash", Json.str integrityHash)]) key =
          some (.str value)) :
      Json.field Json.asText (record.restOf integrityHash) key = .ok value :=
    record.field_restOf integrityHash other listed rfl
  have texts {key : String} {values : List String}
      (other : key ≠ "integrity_hash")
      (listed : Json.get? (record.payload ++
        [("integrity_hash", Json.str integrityHash)]) key =
          some (.array (values.map .str))) :
      Json.field Json.asTexts (record.restOf integrityHash) key =
        .ok values :=
    record.field_restOf integrityHash other listed (asTexts_sorted values)
  have status : Json.field ScreeningStatus.ofJson
      (record.restOf integrityHash) "status" = .ok record.status :=
    record.field_restOf integrityHash (by decide) rfl
      (status_ofJson record.status)
  have rows : Json.field Json.asItems (record.restOf integrityHash) "hits" =
      .ok (Json.sortedItems (record.hits.map fun hit =>
        .object hit.entries)) :=
    record.field_restOf integrityHash (by decide) rfl rfl
  have latencies : Json.field Json.asEntries (record.restOf integrityHash)
      "latencies_ms" = .ok (record.latenciesMs.sorted.entries.map
        fun entry => (entry.1, Json.float entry.2)) := by
    rw [← latencies_sorted]
    exact record.field_restOf integrityHash (by decide) rfl rfl
  have written : record.reread =
      { runId := record.runId
        configHash := record.configHash
        questionSnapshotHash := record.questionSnapshotHash
        expectedQuestionIds := record.expectedQuestionIds
        status := record.status
        completedQuestionIds :=
          (ContextBuilder.sortedIds record.completedQuestionIds).toFinset
        hits := record.hits
        latenciesMs := .ofList record.latenciesMs.sorted.entries } := by
    rw [ContextBuilder.sortedIds, Finset.sort_toFinset, ofList_entries]
    rfl
  rw [written]
  refine bind_eq_ok.mpr ⟨_, text (by decide) rfl, ?_⟩
  refine bind_eq_ok.mpr ⟨_, text (by decide) rfl, ?_⟩
  refine bind_eq_ok.mpr ⟨_, text (by decide) rfl, ?_⟩
  refine bind_eq_ok.mpr ⟨_, texts (by decide) rfl, ?_⟩
  refine bind_eq_ok.mpr ⟨_, status, ?_⟩
  refine bind_eq_ok.mpr ⟨_, texts (by decide) rfl, ?_⟩
  refine bind_eq_ok.mpr ⟨_, rows, ?_⟩
  refine bind_eq_ok.mpr ⟨_, hits_sorted record.hits, ?_⟩
  refine bind_eq_ok.mpr ⟨_, latencies, ?_⟩
  exact bind_eq_ok.mpr ⟨_, latencies_read platform _, rfl⟩

/-! ## Files -/

section Files

variable {platform : Platform} {floats : FloatText}
  {reader : JsonReader.FloatReader floats}
  (hashes : platform.HashesCanonically floats)

include hashes

theorem fileText_eq {record : ScreeningRunRecord} {integrityHash : String}
    (hashed : platform.canonicalJsonHash (.object record.payload) =
      .ok integrityHash) :
    record.fileText platform floats =
      .ok (String.ofList (Json.dumps floats
        (record.written integrityHash).sorted)) := by
  have compliant := hashes.ok_iff.mp ⟨_, hashed⟩
  have whole : (record.written integrityHash).isCompliant = true := by
    rw [Json.isCompliant, Json.entriesCompliant_iff] at compliant
    rw [written, Json.isCompliant, Json.entriesCompliant_iff]
    exact List.forall_mem_append.mpr
      ⟨compliant, List.forall_mem_singleton.mpr rfl⟩
  refine bind_eq_ok.mpr ⟨integrityHash, hashed, ?_⟩
  change (raiseIf ((record.written integrityHash).isCompliant = false) _ >>=
    fun _ => _) = _
  rw [raiseIf_bind (by simp [whole])]
  rfl

/-- A record is written when its numbers are finite. -/
theorem fileText_ok_iff {record : ScreeningRunRecord} :
    (∃ text, record.fileText platform floats = .ok text) ↔
      (∀ hit ∈ record.hits, hit.IsWritable) ∧
        ∀ value ∈ record.latenciesMs.values, value.isFinite = true := by
  rw [← compliant_payload_iff, ← hashes.ok_iff]
  constructor
  · rintro ⟨text, written⟩
    obtain ⟨integrityHash, hashed, -⟩ := bind_eq_ok.mp written
    exact ⟨integrityHash, hashed⟩
  · rintro ⟨integrityHash, hashed⟩
    exact ⟨_, fileText_eq hashes hashed⟩

variable (reader) in
/-- What was written is read back. -/
theorem readCheckpoint_fileText {record : ScreeningRunRecord} {text : String}
    (saved : record.fileText platform floats = .ok text) :
    readCheckpoint platform reader text = .ok record.reread := by
  obtain ⟨integrityHash, hashed, -⟩ := bind_eq_ok.mp saved
  rw [fileText_eq hashes hashed] at saved
  obtain rfl := Except.ok.inj saved
  have loaded : JsonReader.loads reader (String.ofList (Json.dumps floats
      (record.written integrityHash).sorted)).toList =
      some (record.written integrityHash).sorted := by
    rw [String.toList_ofList]
    exact JsonReader.loads_dumps
      (Json.uniqueKeys_sorted _ (record.uniqueKeys_written integrityHash))
  have fresh : "integrity_hash" ∉ record.payload.map Prod.fst := by
    have names : "integrity_hash" ∉ ["schema_version", "run_id",
        "config_hash", "question_snapshot_hash", "expected_question_ids",
        "status", "completed_question_ids", "hits", "latencies_ms"] := by
      decide
    exact names
  have rest : platform.canonicalJsonHash
      (.object (record.restOf integrityHash)) = .ok integrityHash := by
    rw [restOf, hashes.without record.uniqueKeys_payload
      (hashes.ok_iff.mp ⟨_, hashed⟩) fresh, hashed]
  have found {key : String} {value : Json} (listed : Json.get?
      (record.payload ++ [("integrity_hash", Json.str integrityHash)]) key =
        some value) :
      (Json.get? (sortByKey (Json.sortedEntries (record.payload ++
        [("integrity_hash", Json.str integrityHash)]))) key).getD .null =
        value.sorted := by
    rw [Json.get?_sorted (record.written_nodup integrityHash), listed]
    rfl
  have same (value : String) : ¬ (Json.str value).sorted.equals
      (.str value) = false := by
    simp [Json.sorted, Json.equals]
  have schema := found (show Json.get? (record.payload ++ _)
    "schema_version" = some (.str checkpointSchema) from rfl)
  unfold readCheckpoint
  rw [loaded, written, Json.sorted]
  dsimp only
  rw [schema, found rfl, raiseIf_bind (same _)]
  refine bind_eq_ok.mpr ⟨integrityHash, rest, ?_⟩
  rw [raiseIf_bind (same _)]
  exact ofEntries_restOf platform record integrityHash

end Files

/-- The books agree, and the numbers are finite. -/
structure IsCheckpoint (record : ScreeningRunRecord) : Prop
    extends record.IsChecked where
  writable : ∀ hit ∈ record.hits, hit.IsWritable

theorem keys_sorted_toFinset (latencies : Dict String PyFloat) :
    latencies.sorted.keys.toFinset = latencies.keys.toFinset :=
  List.toFinset_eq_of_perm _ _ ((List.mergeSort_perm _ _).map Prod.fst)

theorem mem_values_sorted {latencies : Dict String PyFloat}
    {value : PyFloat} :
    value ∈ latencies.sorted.values ↔ value ∈ latencies.values :=
  ((List.mergeSort_perm _ _).map Prod.snd).mem_iff

theorem isChecked_reread {record : ScreeningRunRecord} :
    record.reread.IsChecked ↔ record.IsChecked := by
  constructor
  · intro checked
    refine { checked with
      measured := (keys_sorted_toFinset _).symm.trans checked.measured
      latencies := fun value member =>
        checked.latencies value (mem_values_sorted.mpr member) }
  · intro checked
    refine { checked with
      measured := (keys_sorted_toFinset _).trans checked.measured
      latencies := fun value member =>
        checked.latencies value (mem_values_sorted.mp member) }

end ScreeningRunRecord

namespace FileScreeningStore

variable {platform : Platform} {floats : FloatText}
  {reader : JsonReader.FloatReader floats}

/-- What a file says is loaded when its books agree. -/
theorem load_ok_iff {store : FileScreeningStore} {runId text : String}
    {record loaded : ScreeningRunRecord}
    (stored : store.files.get? runId = some text)
    (read : readCheckpoint platform reader text = .ok record) :
    store.load platform reader runId = .ok (some loaded) ↔
      isHexDigest runId = true ∧ record.runId = runId ∧ record.IsChecked ∧
        loaded = record := by
  have step : store.load platform reader runId = (do
      checkPath runId
      record.check runId
      return some record) := by
    rw [load, stored]
    dsimp only
    rw [read]
    rfl
  rw [step, bind_eq_ok]
  simp only [checkPath, raiseIf_eq_ok, Bool.not_eq_false, bind_eq_ok]
  constructor
  · rintro ⟨_, path, _, checked, same⟩
    obtain ⟨named, books⟩ := ScreeningRunRecord.check_ok_iff.mp checked
    cases same
    exact ⟨path, named, books, rfl⟩
  · rintro ⟨path, named, books, rfl⟩
    exact ⟨(), path, (),
      ScreeningRunRecord.check_ok_iff.mpr ⟨named, books⟩, rfl⟩

theorem flush_ok_iff {store flushed : FileScreeningStore}
    {record : ScreeningRunRecord} :
    store.flush platform floats record = .ok flushed ↔
      ∃ text, record.fileText platform floats = .ok text ∧
        isHexDigest record.runId = true ∧
        flushed = { store with
          files := store.files.set record.runId text } := by
  rw [flush, bind_eq_ok]
  refine exists_congr fun text => and_congr_right' ?_
  rw [bind_eq_ok]
  simp only [checkPath, raiseIf_eq_ok, Bool.not_eq_false]
  constructor
  · rintro ⟨_, path, same⟩
    exact ⟨path, (Except.ok.inj same).symm⟩
  · rintro ⟨path, rfl⟩
    exact ⟨(), path, rfl⟩

end FileScreeningStore

end RagBench
