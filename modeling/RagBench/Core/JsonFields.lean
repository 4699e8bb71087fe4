import RagBench.Core.JsonReader
import RagBench.Providers.CacheKeys

/-!
# Fields of files that are read back

A file that was written with sorted keys comes back as the sorted value.  Its
fields are found as before, and its hash is that of the value that was
written, also where one of its entries is taken out.
-/

namespace RagBench

namespace Json

/-- `raw[key]`, where the value has a type that can be read. -/
def field {α : Type} (read : Json → Option α) (entries : List (String × Json))
    (key : String) : Except PyException α :=
  match get? entries key with
  | none => .error (.keyError key)
  | some value =>
      match read value with
      | some result => .ok result
      | none => .error (.typeError
          ("'" ++ value.typeName ++ "' is not accepted for " ++ key))

def asText : Json → Option String
  | .str value => some value
  | _ => none

def asFloat : Json → Option PyFloat
  | .float value => some value
  | _ => none

def asItems : Json → Option (List Json)
  | .array items => some items
  | _ => none

def asEntries : Json → Option (List (String × Json))
  | .object entries => some entries
  | _ => none

/-- `None`, or a value of the type. -/
def asOptional {α : Type} (read : Json → Option α) : Json → Option (Option α)
  | .null => some none
  | value => (read value).map some

def asTexts (value : Json) : Option (List String) := do
  let items ← asItems value
  items.mapM asText

theorem asTexts_array (texts : List String) :
    asTexts (.array (texts.map .str)) = some texts := by
  change (texts.map Json.str).mapM asText = some texts
  induction texts with
  | nil => rfl
  | cons text texts induction =>
      rw [List.map_cons, List.mapM_cons, induction]
      rfl

theorem field_eq {α : Type} {read : Json → Option α}
    {entries : List (String × Json)} {key : String} {value : Json}
    {result : α} (found : get? entries key = some value)
    (accepted : read value = some result) :
    field read entries key = .ok result := by
  unfold field
  rw [found]
  dsimp only
  rw [accepted]

/-! ## Sorted values -/

theorem map_fst_sortedEntries (entries : List (String × Json)) :
    (sortedEntries entries).map Prod.fst = entries.map Prod.fst := by
  rw [sortedEntries_eq, List.map_map]
  rfl

theorem sortByKey_perm_self {α : Type} (entries : List (String × α)) :
    (sortByKey entries).Perm entries :=
  List.perm_insertionSort _ _

/-- A key has its value, sorted. -/
theorem get?_sorted {entries : List (String × Json)}
    (unique : (entries.map Prod.fst).Nodup) (key : String) :
    get? (sortByKey (sortedEntries entries)) key =
      (get? entries key).map sorted := by
  have same : get? (sortByKey (sortedEntries entries)) key =
      get? (sortedEntries entries) key := by
    refine (Dict.lookup_perm ?_ (sortByKey_perm_self _).symm key).symm
    rw [map_fst_sortedEntries]
    exact unique
  rw [same]
  unfold get?
  clear same unique
  induction entries with
  | nil => rfl
  | cons entry rest induction =>
      rw [sortedEntries, Dict.lookup, Dict.lookup, induction]
      split_ifs
      · rfl
      · rfl

variable {floats : FloatText}

mutual

/-- The canonical text does not look at the order. -/
theorem text_sorted : ∀ value : Json, value.UniqueKeys →
    text floats value.sorted = text floats value
  | .null, _ => rfl
  | .bool _, _ => rfl
  | .int _, _ => rfl
  | .float _, _ => rfl
  | .str _, _ => rfl
  | .array items, unique => by
      rw [sorted, text_array, text_array, itemTexts_sorted items unique]
  | .object entries, unique => by
      have keys : ((sortByKey (sortedEntries entries)).map Prod.fst).Nodup := by
        refine ((sortByKey_perm_self _).map Prod.fst).nodup_iff.mpr ?_
        rw [map_fst_sortedEntries]
        exact unique.1
      rw [sorted, text_object_of_perm keys (sortByKey_perm_self _), text, text,
        entryTexts_sorted entries unique.2]

theorem itemTexts_sorted : ∀ items : List Json, ItemsUnique items →
    (sortedItems items).map (text floats) = items.map (text floats)
  | [], _ => rfl
  | item :: rest, unique => by
      rw [sortedItems, List.map_cons, List.map_cons,
        text_sorted item unique.1, itemTexts_sorted rest unique.2]

theorem entryTexts_sorted : ∀ entries : List (String × Json),
    EntriesUnique entries →
      entryTexts floats (sortedEntries entries) = entryTexts floats entries
  | [], _ => rfl
  | (_, value) :: rest, unique => by
      rw [sortedEntries, entryTexts, entryTexts,
        text_sorted value unique.1, entryTexts_sorted rest unique.2]

end

mutual

theorem isCompliant_sorted : ∀ value : Json,
    value.sorted.isCompliant = value.isCompliant
  | .null => rfl
  | .bool _ => rfl
  | .int _ => rfl
  | .float _ => rfl
  | .str _ => rfl
  | .array items => itemsCompliant_sorted items
  | .object entries => by
      rw [sorted, isCompliant, isCompliant, ← entriesCompliant_sorted entries,
        Bool.eq_iff_iff, entriesCompliant_iff, entriesCompliant_iff]
      simp only [(sortByKey_perm_self (sortedEntries entries)).mem_iff]

theorem itemsCompliant_sorted : ∀ items : List Json,
    itemsCompliant (sortedItems items) = itemsCompliant items
  | [] => rfl
  | item :: rest => by
      rw [sortedItems, itemsCompliant, itemsCompliant, isCompliant_sorted item,
        itemsCompliant_sorted rest]

theorem entriesCompliant_sorted : ∀ entries : List (String × Json),
    entriesCompliant (sortedEntries entries) = entriesCompliant entries
  | [] => rfl
  | (_, value) :: rest => by
      rw [sortedEntries, entriesCompliant, entriesCompliant,
        isCompliant_sorted value, entriesCompliant_sorted rest]

end

/-! ## Taking an entry out -/

/-- `raw.pop(key, None)`, the rest. -/
def without (key : String) (entries : List (String × Json)) :
    List (String × Json) :=
  entries.filter fun entry => entry.1 ≠ key

theorem get?_without {key other : String} (different : key ≠ other)
    (entries : List (String × Json)) :
    get? (without other entries) key = get? entries key := by
  unfold get? without
  induction entries with
  | nil => rfl
  | cons entry rest induction =>
      by_cases removed : entry.1 = other
      · rw [List.filter_cons_of_neg (by simpa using removed), induction,
          Dict.lookup, if_neg (removed ▸ Ne.symm different)]
      · rw [List.filter_cons_of_pos (by simpa using removed), Dict.lookup,
          Dict.lookup, induction]

/-- The rest of a sorted file is what was there before the entry. -/
theorem without_sorted_perm {entries : List (String × Json)} {key : String}
    (fresh : key ∉ entries.map Prod.fst) (value : Json) :
    (without key (sortByKey (sortedEntries
      (entries ++ [(key, value)])))).Perm (sortedEntries entries) := by
  have kept : without key (sortedEntries (entries ++ [(key, value)])) =
      sortedEntries entries := by
    rw [without, sortedEntries_eq, sortedEntries_eq, List.map_append,
      List.filter_append, List.filter_eq_self.mpr]
    · simp
    · intro entry member
      obtain ⟨source, listed, rfl⟩ := List.mem_map.mp member
      exact decide_eq_true fun same =>
        fresh (List.mem_map.mpr ⟨source, listed, same⟩)
  rw [← kept]
  exact (sortByKey_perm_self _).filter _

end Json

/-! ## Hashes of files -/

namespace Platform.HashesCanonically

variable {platform : Platform} {floats : FloatText}
  (hashes : platform.HashesCanonically floats)

include hashes

theorem ok_iff {value : Json} :
    (∃ digest, platform.canonicalJsonHash value = .ok digest) ↔
      value.isCompliant = true := by
  constructor
  · rintro ⟨digest, hashed⟩
    rw [hashes] at hashed
    obtain ⟨text, printed, -⟩ := bind_eq_ok.mp hashed
    exact (PyValue.canonicalJson_ofJson.mp printed).1
  · intro compliant
    have printed := PyValue.canonicalJson_ofJson.mpr
      (⟨compliant, rfl⟩ : value.isCompliant = true ∧
        String.ofList (Json.text floats value) = _)
    rw [hashes, PyValue.canonicalJsonHash, printed]
    exact ⟨_, rfl⟩

theorem eq_of_text {left right : Json} (compliant : left.isCompliant = true)
    (compliant' : right.isCompliant = true)
    (same : Json.text floats left = Json.text floats right) :
    platform.canonicalJsonHash left = platform.canonicalJsonHash right := by
  have printed := PyValue.canonicalJson_ofJson.mpr
    (⟨compliant, rfl⟩ : left.isCompliant = true ∧
      String.ofList (Json.text floats left) = _)
  have printed' := PyValue.canonicalJson_ofJson.mpr
    (⟨compliant', rfl⟩ : right.isCompliant = true ∧
      String.ofList (Json.text floats right) = _)
  rw [hashes, hashes, PyValue.canonicalJsonHash, PyValue.canonicalJsonHash,
    printed, printed', same]

/-- The rest of a file hashes as what was written. -/
theorem without {entries : List (String × Json)} {key : String}
    (unique : (Json.object entries).UniqueKeys)
    (compliant : (Json.object entries).isCompliant = true)
    (fresh : key ∉ entries.map Prod.fst) (value : Json) :
    platform.canonicalJsonHash (.object (Json.without key
        (sortByKey (Json.sortedEntries (entries ++ [(key, value)]))))) =
      platform.canonicalJsonHash (.object entries) := by
  have permuted := Json.without_sorted_perm fresh value
  have keys : ((Json.sortedEntries entries).map Prod.fst).Nodup := by
    rw [Json.map_fst_sortedEntries]
    exact unique.1
  refine hashes.eq_of_text ?_ compliant ?_
  · rw [Json.isCompliant, Json.entriesCompliant_iff] at compliant ⊢
    intro entry member
    rw [permuted.mem_iff, Json.sortedEntries_eq] at member
    obtain ⟨source, listed, rfl⟩ := List.mem_map.mp member
    exact (Json.isCompliant_sorted _).trans (compliant source listed)
  · rw [← Json.text_object_of_perm keys permuted.symm, Json.text, Json.text,
      Json.entryTexts_sorted entries unique.2]

end Platform.HashesCanonically

end RagBench
