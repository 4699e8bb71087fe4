import RagBench.Core.JsonFields

/-!
# Formats of records

A format writes values as JSON and reads them back, in whatever order their
keys stand.  The format of a record comes from the formats of its fields.
-/

namespace RagBench

namespace Json

/-! ## Reading -/

def asNat : Json → Option ℕ
  | .int value => if 0 ≤ value then some value.toNat else none
  | _ => none

def asBool : Json → Option Bool
  | .bool value => some value
  | _ => none

def asList {α : Type} (read : Json → Option α) : Json → Option (List α)
  | .array items => items.mapM read
  | _ => none

/-- The value of a key. -/
def entry? {α : Type} (read : Json → Option α)
    (entries : List (String × Json)) (key : String) : Option α :=
  (get? entries key).bind read

/-- The value of a key that may be missing. -/
def entryD {α : Type} (read : Json → Option α)
    (entries : List (String × Json)) (key : String) (default : α) : Option α :=
  match get? entries key with
  | none => some default
  | some value => read value

/-- No key is unknown. -/
def hasOnly (names : List String) (entries : List (String × Json)) : Bool :=
  entries.all fun entry => entry.1 ∈ names

/-! ## Formats -/

/-- What is written is strict JSON without repeated keys, and is read back
with its keys in order. -/
structure IsFormat {α : Type} (read : Json → Option α) (write : α → Json) :
    Prop where
  readsBack : ∀ value, read (write value).sorted = some value
  unique : ∀ value, (write value).UniqueKeys
  compliant : ∀ value, (write value).isCompliant = true

variable {α : Type} {read : Json → Option α} {write : α → Json}

theorem isFormat_text : IsFormat asText .str :=
  ⟨fun _ => rfl, fun _ => trivial, fun _ => rfl⟩

theorem isFormat_bool : IsFormat asBool .bool :=
  ⟨fun _ => rfl, fun _ => trivial, fun _ => rfl⟩

theorem isFormat_nat : IsFormat asNat (fun value => .int value) :=
  ⟨fun value => (if_pos (Int.natCast_nonneg value) :
      (if (0 : ℤ) ≤ value then some (value : ℤ).toNat else none) = _),
    fun _ => trivial, fun _ => rfl⟩

/-- The values that are strings. -/
theorem isFormat_name {name : α → String} {find : Json → Option α}
    (known : ∀ value, find (.str (name value)) = some value) :
    IsFormat find fun value => .str (name value) :=
  ⟨known, fun _ => trivial, fun _ => rfl⟩

theorem asOptional_of_ne_null {value : Json} (present : value ≠ .null) :
    asOptional read value = (read value).map some := by
  cases value with
  | null => exact absurd rfl present
  | bool | int | float | str | array | object => rfl

theorem IsFormat.optional (format : IsFormat read write)
    (present : ∀ value, (write value).sorted ≠ .null) :
    IsFormat (asOptional read) fun value => (value.map write).getD .null where
  readsBack value := by
    cases value with
    | none => rfl
    | some value =>
        rw [Option.map_some, Option.getD_some,
          asOptional_of_ne_null (present value), format.readsBack]
        rfl
  unique value := by
    cases value with
    | none => exact trivial
    | some value => exact format.unique value
  compliant value := by
    cases value with
    | none => rfl
    | some value => exact format.compliant value

theorem IsFormat.list (format : IsFormat read write) :
    IsFormat (asList read) fun values => .array (values.map write) where
  readsBack values := by
    rw [sorted, sortedItems_eq, asList, List.map_map]
    induction values with
    | nil => rfl
    | cons value values induction =>
        rw [List.map_cons, List.mapM_cons, induction]
        change (read (write value).sorted >>= fun first =>
          some values >>= fun rest => some (first :: rest)) = _
        rw [format.readsBack]
        rfl
  unique values := by
    rw [UniqueKeys]
    induction values with
    | nil => exact trivial
    | cons value values induction => exact ⟨format.unique value, induction⟩
  compliant values := by
    rw [isCompliant, itemsCompliant_iff, List.forall_mem_map]
    exact fun value _ => format.compliant value

/-- A record has a format when its fields can be written. -/
theorem isFormat_object {entries : α → List (String × Json)}
    (distinct : ∀ value, ((entries value).map Prod.fst).Nodup)
    (fields : ∀ value, ∀ entry ∈ entries value,
      entry.2.UniqueKeys ∧ entry.2.isCompliant = true)
    (readsBack : ∀ value, read (Json.object (entries value)).sorted =
      some value) :
    IsFormat read fun value => .object (entries value) where
  readsBack := readsBack
  unique value := ⟨distinct value,
    entriesUnique_iff.mpr fun entry member => (fields value entry member).1⟩
  compliant value := by
    rw [isCompliant, entriesCompliant_iff]
    exact fun entry member => (fields value entry member).2

section Records

variable {entries : List (String × Json)} {key : String} {value : α}

theorem IsFormat.both (format : IsFormat read write) (value : α) :
    (write value).UniqueKeys ∧ (write value).isCompliant = true :=
  ⟨format.unique value, format.compliant value⟩

/-- A field is read back from the sorted entries. -/
theorem IsFormat.entry? (format : IsFormat read write)
    (distinct : (entries.map Prod.fst).Nodup)
    (listed : get? entries key = some (write value)) :
    entry? read (sortByKey (sortedEntries entries)) key = some value := by
  rw [Json.entry?, get?_sorted distinct, listed]
  exact format.readsBack value

theorem IsFormat.entryD (format : IsFormat read write)
    (distinct : (entries.map Prod.fst).Nodup)
    (listed : get? entries key = some (write value)) (default : α) :
    entryD read (sortByKey (sortedEntries entries)) key default =
      some value := by
  rw [Json.entryD, get?_sorted distinct, listed]
  exact format.readsBack value

theorem hasOnly_sorted (names : List String)
    (listed : entries.map Prod.fst = names) :
    hasOnly names (sortByKey (sortedEntries entries)) = true := by
  rw [hasOnly, List.all_eq_true]
  intro entry member
  refine decide_eq_true ?_
  rw [← listed, ← map_fst_sortedEntries entries]
  exact List.mem_map_of_mem ((sortByKey_perm_self _).mem_iff.mp member)

end Records

section Texts

variable {floats : FloatText}

/-- The canonical text is read back, also before a line break. -/
theorem IsFormat.loads_text (reader : JsonReader.FloatReader floats)
    (format : IsFormat read write) (value : α) (spaces : List Char)
    (only : ∀ character ∈ spaces, character ∈ [' ', '\t', '\n', '\r']) :
    (JsonReader.loads reader (text floats (write value) ++ spaces)).bind
      read = some value := by
  rw [JsonReader.loads_text (format.compliant value) (format.unique value)
    only]
  exact format.readsBack value

end Texts

end Json

end RagBench
