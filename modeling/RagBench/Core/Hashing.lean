import RagBench.Core.JsonText

/-!
# Canonical hashing

`canonical_json_hash` turns a Python value into JSON, prints it with sorted
keys and hashes the UTF-8 bytes.  Sets become arrays sorted by the texts of
their items, so neither their iteration order nor the order in which
dictionaries were filled reaches the text.
-/

namespace RagBench

/-- The values `_canonicalize` tells apart.  Dictionaries have string keys. -/
inductive PyValue where
  | null
  | bool (value : Bool)
  | int (value : ℤ)
  | float (value : PyFloat)
  | str (value : String)
  | list (items : List PyValue)
  | tuple (items : List PyValue)
  | dict (entries : List (String × PyValue))
  /-- The fields in the order of their declaration. -/
  | dataclass (fields : List (String × PyValue))
  /-- The items in iteration order. -/
  | set (items : List PyValue)
  | frozenset (items : List PyValue)
  /-- `format(value, "f")`. -/
  | decimal (fixed : String)
  /-- `value.isoformat()`. -/
  | datetime (isoformat : String)
  | uuid (text : String)
  | path (text : String)
  /-- `str(value.value)`. -/
  | enum (text : String)
  /-- `value.hex()`. -/
  | bytes (hex : String)
  | unsupported (typeName : String)

namespace PyValue

/-- `sorted(normalized, key=_canonical_json)`. -/
def sortByText (floats : FloatText) (items : List Json) : List Json :=
  items.insertionSort fun left right =>
    Json.text floats left ≤ Json.text floats right

mutual

/-- `_canonicalize`. -/
def canonicalize (floats : FloatText) : PyValue → Except PyException Json
  | .null => .ok .null
  | .bool value => .ok (.bool value)
  | .int value => .ok (.int value)
  | .float (.finite value) => .ok (.float (.finite value))
  | .float _ => .error (.valueError
      "non-finite floats cannot be hashed canonically")
  | .str value => .ok (.str value)
  | .list items => do
      return .array (← canonicalizeItems floats items)
  | .tuple items => do
      return .array (← canonicalizeItems floats items)
  | .dict entries => do
      return .object (← canonicalizeEntries floats entries)
  | .dataclass fields => do
      return .object (← canonicalizeEntries floats fields)
  | .set items => do
      return .array (sortByText floats (← canonicalizeItems floats items))
  | .frozenset items => do
      return .array (sortByText floats (← canonicalizeItems floats items))
  | .decimal fixed => .ok (.str fixed)
  | .datetime isoformat => .ok (.str isoformat)
  | .uuid text => .ok (.str text)
  | .path text => .ok (.str text)
  | .enum text => .ok (.str text)
  | .bytes hex => .ok (.str hex)
  | .unsupported typeName => .error (.typeError
      ("unsupported canonical JSON type: " ++ typeName))

def canonicalizeItems (floats : FloatText) :
    List PyValue → Except PyException (List Json)
  | [] => .ok []
  | item :: rest => do
      let first ← canonicalize floats item
      return first :: (← canonicalizeItems floats rest)

def canonicalizeEntries (floats : FloatText) :
    List (String × PyValue) → Except PyException (List (String × Json))
  | [] => .ok []
  | (key, value) :: rest => do
      let first ← canonicalize floats value
      return (key, first) :: (← canonicalizeEntries floats rest)

end

/-- `_canonical_json(_canonicalize(value))`. -/
def canonicalJson (floats : FloatText) (value : PyValue) :
    Except PyException String := do
  return String.ofList (Json.text floats (← canonicalize floats value))

/-- `canonical_json_hash`. -/
def canonicalJsonHash (floats : FloatText) (sha256Hex : List UInt8 → String)
    (value : PyValue) : Except PyException String := do
  return sha256Hex (← canonicalJson floats value).toByteArray.data.toList

mutual

/-- The Python value of a decoded JSON value. -/
def ofJson : Json → PyValue
  | .null => .null
  | .bool value => .bool value
  | .int value => .int value
  | .float value => .float value
  | .str value => .str value
  | .array items => .list (itemsOfJson items)
  | .object entries => .dict (entriesOfJson entries)

def itemsOfJson : List Json → List PyValue
  | [] => []
  | item :: rest => ofJson item :: itemsOfJson rest

def entriesOfJson : List (String × Json) → List (String × PyValue)
  | [] => []
  | (key, value) :: rest => (key, ofJson value) :: entriesOfJson rest

end

/-! ## Orders of insertion and iteration -/

mutual

/-- The same value, built in another order. -/
inductive Reordered : PyValue → PyValue → Prop where
  | refl (value : PyValue) : Reordered value value
  | list {left right : List PyValue} (items : ReorderedItems left right) :
      Reordered (.list left) (.list right)
  | tuple {left right : List PyValue} (items : ReorderedItems left right) :
      Reordered (.tuple left) (.tuple right)
  | dict {left left' right : List (String × PyValue)}
      (order : left.Perm left') (entries : ReorderedEntries left' right) :
      Reordered (.dict left) (.dict right)
  | dataclass {left right : List (String × PyValue)}
      (fields : ReorderedEntries left right) :
      Reordered (.dataclass left) (.dataclass right)
  | set {left left' right : List PyValue} (order : left.Perm left')
      (items : ReorderedItems left' right) :
      Reordered (.set left) (.set right)
  | frozenset {left left' right : List PyValue} (order : left.Perm left')
      (items : ReorderedItems left' right) :
      Reordered (.frozenset left) (.frozenset right)

inductive ReorderedItems : List PyValue → List PyValue → Prop where
  | nil : ReorderedItems [] []
  | cons {left right : PyValue} {lefts rights : List PyValue}
      (first : Reordered left right) (rest : ReorderedItems lefts rights) :
      ReorderedItems (left :: lefts) (right :: rights)

inductive ReorderedEntries :
    List (String × PyValue) → List (String × PyValue) → Prop where
  | nil : ReorderedEntries [] []
  | cons {key : String} {left right : PyValue}
      {lefts rights : List (String × PyValue)} (first : Reordered left right)
      (rest : ReorderedEntries lefts rights) :
      ReorderedEntries ((key, left) :: lefts) ((key, right) :: rights)

end

mutual

/-- All dictionaries have different keys. -/
def UniqueKeys : PyValue → Prop
  | .list items => ItemsUnique items
  | .tuple items => ItemsUnique items
  | .dict entries => (entries.map Prod.fst).Nodup ∧ EntriesUnique entries
  | .dataclass fields => (fields.map Prod.fst).Nodup ∧ EntriesUnique fields
  | .set items => ItemsUnique items
  | .frozenset items => ItemsUnique items
  | _ => True

def ItemsUnique : List PyValue → Prop
  | [] => True
  | item :: rest => UniqueKeys item ∧ ItemsUnique rest

def EntriesUnique : List (String × PyValue) → Prop
  | [] => True
  | (_, value) :: rest => UniqueKeys value ∧ EntriesUnique rest

end

mutual

/-- No float is infinite or NaN, and no value has an unsupported type. -/
def Serializable : PyValue → Prop
  | .float (.finite _) => True
  | .float _ => False
  | .unsupported _ => False
  | .list items => ItemsSerializable items
  | .tuple items => ItemsSerializable items
  | .dict entries => EntriesSerializable entries
  | .dataclass fields => EntriesSerializable fields
  | .set items => ItemsSerializable items
  | .frozenset items => ItemsSerializable items
  | _ => True

def ItemsSerializable : List PyValue → Prop
  | [] => True
  | item :: rest => Serializable item ∧ ItemsSerializable rest

def EntriesSerializable : List (String × PyValue) → Prop
  | [] => True
  | (_, value) :: rest => Serializable value ∧ EntriesSerializable rest

end

section Success

variable {floats : FloatText}

mutual

theorem canonicalize_ok : ∀ value : PyValue, value.Serializable →
    ∃ json, canonicalize floats value = .ok json
  | .null, _ => ⟨_, rfl⟩
  | .bool _, _ => ⟨_, rfl⟩
  | .int _, _ => ⟨_, rfl⟩
  | .float (.finite _), _ => ⟨_, rfl⟩
  | .float .infinity, serializable => serializable.elim
  | .float .negativeInfinity, serializable => serializable.elim
  | .float .nan, serializable => serializable.elim
  | .str _, _ => ⟨_, rfl⟩
  | .list items, serializable => by
      obtain ⟨values, success⟩ := canonicalizeItems_ok items serializable
      exact ⟨_, bind_eq_ok.mpr ⟨values, success, rfl⟩⟩
  | .tuple items, serializable => by
      obtain ⟨values, success⟩ := canonicalizeItems_ok items serializable
      exact ⟨_, bind_eq_ok.mpr ⟨values, success, rfl⟩⟩
  | .dict entries, serializable => by
      obtain ⟨values, success⟩ :=
        canonicalizeEntries_ok entries serializable
      exact ⟨_, bind_eq_ok.mpr ⟨values, success, rfl⟩⟩
  | .dataclass fields, serializable => by
      obtain ⟨values, success⟩ := canonicalizeEntries_ok fields serializable
      exact ⟨_, bind_eq_ok.mpr ⟨values, success, rfl⟩⟩
  | .set items, serializable => by
      obtain ⟨values, success⟩ := canonicalizeItems_ok items serializable
      exact ⟨_, bind_eq_ok.mpr ⟨values, success, rfl⟩⟩
  | .frozenset items, serializable => by
      obtain ⟨values, success⟩ := canonicalizeItems_ok items serializable
      exact ⟨_, bind_eq_ok.mpr ⟨values, success, rfl⟩⟩
  | .decimal _, _ => ⟨_, rfl⟩
  | .datetime _, _ => ⟨_, rfl⟩
  | .uuid _, _ => ⟨_, rfl⟩
  | .path _, _ => ⟨_, rfl⟩
  | .enum _, _ => ⟨_, rfl⟩
  | .bytes _, _ => ⟨_, rfl⟩
  | .unsupported _, serializable => serializable.elim

theorem canonicalizeItems_ok : ∀ items : List PyValue,
    ItemsSerializable items →
      ∃ values, canonicalizeItems floats items = .ok values
  | [], _ => ⟨[], rfl⟩
  | item :: rest, serializable => by
      obtain ⟨first, success⟩ := canonicalize_ok item serializable.1
      obtain ⟨others, success'⟩ := canonicalizeItems_ok rest serializable.2
      exact ⟨first :: others, bind_eq_ok.mpr
        ⟨first, success, bind_eq_ok.mpr ⟨others, success', rfl⟩⟩⟩

theorem canonicalizeEntries_ok : ∀ entries : List (String × PyValue),
    EntriesSerializable entries →
      ∃ values, canonicalizeEntries floats entries = .ok values
  | [], _ => ⟨[], rfl⟩
  | (key, value) :: rest, serializable => by
      obtain ⟨first, success⟩ := canonicalize_ok value serializable.1
      obtain ⟨others, success'⟩ :=
        canonicalizeEntries_ok rest serializable.2
      exact ⟨(key, first) :: others, bind_eq_ok.mpr
        ⟨first, success, bind_eq_ok.mpr ⟨others, success', rfl⟩⟩⟩

end

end Success

/-! ## The order does not reach the text -/

section Orders

variable {floats : FloatText}

theorem canonicalizeItems_eq_mapM (items : List PyValue) :
    canonicalizeItems floats items = items.mapM (canonicalize floats) := by
  induction items with
  | nil => rfl
  | cons item rest induction =>
      rw [canonicalizeItems, List.mapM_cons, induction]

/-- An entry with its value canonicalized. -/
def canonicalizeEntry (floats : FloatText) (entry : String × PyValue) :
    Except PyException (String × Json) := do
  return (entry.1, ← canonicalize floats entry.2)

theorem canonicalizeEntry_ok {entry : String × PyValue}
    {result : String × Json} :
    canonicalizeEntry floats entry = .ok result ↔
      entry.1 = result.1 ∧ canonicalize floats entry.2 = .ok result.2 := by
  rw [canonicalizeEntry, bind_eq_ok]
  constructor
  · rintro ⟨value, success, same⟩
    cases same
    exact ⟨rfl, success⟩
  · rintro ⟨key, success⟩
    refine ⟨result.2, success, ?_⟩
    rw [key]
    rfl

theorem canonicalizeEntries_eq_mapM (entries : List (String × PyValue)) :
    canonicalizeEntries floats entries =
      entries.mapM (canonicalizeEntry floats) := by
  induction entries with
  | nil => rfl
  | cons entry rest induction =>
      obtain ⟨key, value⟩ := entry
      rw [canonicalizeEntries, List.mapM_cons, induction, canonicalizeEntry]
      simp only [bind_assoc, pure_bind]

/-- Reading a list in another order gives the results in that order. -/
theorem mapM_perm {α β : Type} {step : α → Except PyException β}
    {items items' : List α} {results : List β} (order : items.Perm items')
    (success : items.mapM step = .ok results) :
    ∃ results', items'.mapM step = .ok results' ∧ results.Perm results' := by
  obtain ⟨results', related, perm⟩ :=
    List.perm_comp_forall₂ order.symm (mapM_eq_ok.mp success)
  exact ⟨results', mapM_eq_ok.mpr related, perm.symm⟩

/-- The text of a set depends on the texts of its items only. -/
theorem set_text_eq {items middle items' : List Json}
    (order : items.Perm middle)
    (texts : middle.map (Json.text floats) =
      items'.map (Json.text floats)) :
    Json.text floats (.array (sortByText floats items)) =
      Json.text floats (.array (sortByText floats items')) := by
  have sorted (items : List Json) :
      (sortByText floats items).map (Json.text floats) =
        (items.map (Json.text floats)).insertionSort (· ≤ ·) :=
    List.map_insertionSort _ _ _ _ fun _ _ _ _ => Iff.rfl
  have same : (items.map (Json.text floats)).insertionSort (· ≤ ·) =
      (middle.map (Json.text floats)).insertionSort (· ≤ ·) :=
    ((List.perm_insertionSort _ _).trans ((order.map _).trans
      (List.perm_insertionSort _ _).symm)).eq_of_pairwise'
        (List.pairwise_insertionSort _ _) (List.pairwise_insertionSort _ _)
  rw [Json.text_array, Json.text_array, sorted, sorted, same, texts]

theorem itemsUnique_iff (items : List PyValue) :
    ItemsUnique items ↔ ∀ item ∈ items, item.UniqueKeys := by
  induction items with
  | nil => simp [ItemsUnique]
  | cons item rest induction =>
      rw [ItemsUnique, induction, List.forall_mem_cons]

theorem ItemsUnique.perm {items items' : List PyValue}
    (unique : ItemsUnique items) (order : items.Perm items') :
    ItemsUnique items' :=
  (itemsUnique_iff _).mpr fun item member =>
    (itemsUnique_iff _).mp unique item (order.mem_iff.mpr member)

theorem entriesUnique_iff (entries : List (String × PyValue)) :
    EntriesUnique entries ↔ ∀ entry ∈ entries, entry.2.UniqueKeys := by
  induction entries with
  | nil => simp [EntriesUnique]
  | cons entry rest induction =>
      rw [EntriesUnique, induction, List.forall_mem_cons]

theorem EntriesUnique.perm {entries entries' : List (String × PyValue)}
    (unique : EntriesUnique entries) (order : entries.Perm entries') :
    EntriesUnique entries' :=
  (entriesUnique_iff _).mpr fun entry member =>
    (entriesUnique_iff _).mp unique entry (order.mem_iff.mpr member)

theorem keys_canonicalizeEntries {entries : List (String × PyValue)}
    {values : List (String × Json)}
    (success : entries.mapM (canonicalizeEntry floats) = .ok values) :
    values.map Prod.fst = entries.map Prod.fst := by
  have related := mapM_eq_ok.mp success
  clear success
  induction related with
  | nil => rfl
  | cons first _ induction =>
      rw [List.map_cons, List.map_cons, induction,
        (canonicalizeEntry_ok.mp first).1]

mutual

theorem Reordered.text_eq {left right : PyValue} {json : Json} :
    left.Reordered right → left.UniqueKeys →
    canonicalize floats left = .ok json →
    ∃ json', canonicalize floats right = .ok json' ∧
      Json.text floats json = Json.text floats json'
  | .refl _, _, success => ⟨json, success, rfl⟩
  | .list items, unique, success => by
      obtain ⟨values, read, success⟩ := bind_eq_ok.mp success
      cases success
      obtain ⟨values', read', texts⟩ := items.texts_eq unique read
      refine ⟨.array values', bind_eq_ok.mpr ⟨values', read', rfl⟩, ?_⟩
      rw [Json.text_array, Json.text_array, texts]
  | .tuple items, unique, success => by
      obtain ⟨values, read, success⟩ := bind_eq_ok.mp success
      cases success
      obtain ⟨values', read', texts⟩ := items.texts_eq unique read
      refine ⟨.array values', bind_eq_ok.mpr ⟨values', read', rfl⟩, ?_⟩
      rw [Json.text_array, Json.text_array, texts]
  | .dict order entries, unique, success => by
      obtain ⟨values, read, success⟩ := bind_eq_ok.mp success
      cases success
      rw [canonicalizeEntries_eq_mapM] at read
      obtain ⟨middle, read', perm⟩ := mapM_perm order read
      obtain ⟨values', read'', texts⟩ :=
        entries.texts_eq (unique.2.perm order) read'
      refine ⟨.object values', bind_eq_ok.mpr ⟨values', read'', rfl⟩, ?_⟩
      have keys : (values.map Prod.fst).Nodup := by
        rw [keys_canonicalizeEntries read]
        exact unique.1
      rw [Json.text_object_of_perm keys perm, Json.text, Json.text, texts]
  | .dataclass fields, unique, success => by
      obtain ⟨values, read, success⟩ := bind_eq_ok.mp success
      cases success
      rw [canonicalizeEntries_eq_mapM] at read
      obtain ⟨values', read', texts⟩ := fields.texts_eq unique.2 read
      refine ⟨.object values', bind_eq_ok.mpr ⟨values', read', rfl⟩, ?_⟩
      rw [Json.text, Json.text, texts]
  | .set order items, unique, success => by
      obtain ⟨values, read, success⟩ := bind_eq_ok.mp success
      cases success
      rw [canonicalizeItems_eq_mapM] at read
      obtain ⟨middle, read', perm⟩ := mapM_perm order read
      rw [← canonicalizeItems_eq_mapM] at read'
      obtain ⟨values', read'', texts⟩ :=
        items.texts_eq (unique.perm order) read'
      exact ⟨_, bind_eq_ok.mpr ⟨values', read'', rfl⟩,
        set_text_eq perm texts⟩
  | .frozenset order items, unique, success => by
      obtain ⟨values, read, success⟩ := bind_eq_ok.mp success
      cases success
      rw [canonicalizeItems_eq_mapM] at read
      obtain ⟨middle, read', perm⟩ := mapM_perm order read
      rw [← canonicalizeItems_eq_mapM] at read'
      obtain ⟨values', read'', texts⟩ :=
        items.texts_eq (unique.perm order) read'
      exact ⟨_, bind_eq_ok.mpr ⟨values', read'', rfl⟩,
        set_text_eq perm texts⟩

theorem ReorderedItems.texts_eq {left right : List PyValue}
    {values : List Json} :
    ReorderedItems left right → ItemsUnique left →
    canonicalizeItems floats left = .ok values →
    ∃ values', canonicalizeItems floats right = .ok values' ∧
      values.map (Json.text floats) = values'.map (Json.text floats)
  | .nil, _, success => ⟨values, success, rfl⟩
  | .cons first rest, unique, success => by
      obtain ⟨value, read, success⟩ := bind_eq_ok.mp success
      obtain ⟨others, reads, success⟩ := bind_eq_ok.mp success
      cases success
      obtain ⟨value', read', text⟩ := first.text_eq unique.1 read
      obtain ⟨others', reads', texts⟩ := rest.texts_eq unique.2 reads
      refine ⟨value' :: others', bind_eq_ok.mpr
        ⟨value', read', bind_eq_ok.mpr ⟨others', reads', rfl⟩⟩, ?_⟩
      rw [List.map_cons, List.map_cons, text, texts]

theorem ReorderedEntries.texts_eq {left right : List (String × PyValue)}
    {values : List (String × Json)} :
    ReorderedEntries left right → EntriesUnique left →
    left.mapM (canonicalizeEntry floats) = .ok values →
    ∃ values', canonicalizeEntries floats right = .ok values' ∧
      Json.entryTexts floats values = Json.entryTexts floats values'
  | .nil, _, success => by
      cases success
      exact ⟨[], rfl, rfl⟩
  | .cons first rest, unique, success => by
      rw [List.mapM_cons] at success
      obtain ⟨⟨key, value⟩, read, success⟩ := bind_eq_ok.mp success
      obtain ⟨others, reads, success⟩ := bind_eq_ok.mp success
      cases success
      obtain ⟨rfl, read⟩ := canonicalizeEntry_ok.mp read
      obtain ⟨value', read', text⟩ := first.text_eq unique.1 read
      obtain ⟨others', reads', texts⟩ := rest.texts_eq unique.2 reads
      refine ⟨_, bind_eq_ok.mpr
        ⟨value', read', bind_eq_ok.mpr ⟨others', reads', rfl⟩⟩, ?_⟩
      rw [Json.entryTexts, Json.entryTexts, text, texts]

end

end Orders

/-! ## A text has one value -/

section Decoded

variable {floats : FloatText}

/-- The only error of decoded values. -/
def nonFinite : PyException :=
  .valueError "non-finite floats cannot be hashed canonically"

mutual

/-- Decoded JSON is canonical already. -/
theorem canonicalize_ofJson : ∀ value : Json,
    canonicalize floats (ofJson value) =
      if value.isCompliant then .ok value else .error nonFinite
  | .null => rfl
  | .bool _ => rfl
  | .int _ => rfl
  | .float (.finite _) => rfl
  | .float .infinity => rfl
  | .float .negativeInfinity => rfl
  | .float .nan => rfl
  | .str _ => rfl
  | .array items => by
      rw [ofJson, canonicalize, canonicalizeItems_ofJson items,
        Json.isCompliant]
      split_ifs <;> rfl
  | .object entries => by
      rw [ofJson, canonicalize, canonicalizeEntries_ofJson entries,
        Json.isCompliant]
      split_ifs <;> rfl

theorem canonicalizeItems_ofJson : ∀ items : List Json,
    canonicalizeItems floats (itemsOfJson items) =
      if Json.itemsCompliant items then .ok items else .error nonFinite
  | [] => rfl
  | item :: rest => by
      rw [itemsOfJson, canonicalizeItems, canonicalize_ofJson item,
        canonicalizeItems_ofJson rest, Json.itemsCompliant]
      cases item.isCompliant <;> cases Json.itemsCompliant rest <;> rfl

theorem canonicalizeEntries_ofJson : ∀ entries : List (String × Json),
    canonicalizeEntries floats (entriesOfJson entries) =
      if Json.entriesCompliant entries then .ok entries
      else .error nonFinite
  | [] => rfl
  | (key, value) :: rest => by
      rw [entriesOfJson, canonicalizeEntries, canonicalize_ofJson value,
        canonicalizeEntries_ofJson rest, Json.entriesCompliant]
      cases value.isCompliant <;> cases Json.entriesCompliant rest <;> rfl

end

theorem canonicalJson_ofJson {value : Json} {text : String} :
    canonicalJson floats (ofJson value) = .ok text ↔
      value.isCompliant ∧ text = String.ofList (Json.text floats value) := by
  rw [canonicalJson, canonicalize_ofJson]
  split_ifs with compliant
  · simp [compliant, pure, Except.pure, bind, Except.bind, eq_comm]
  · simp [compliant, bind, Except.bind]

theorem same_of_canonicalJson_eq {left right : Json} {text : String}
    (success : canonicalJson floats (ofJson left) = .ok text)
    (success' : canonicalJson floats (ofJson right) = .ok text) :
    left.Same right := by
  obtain ⟨compliant, rfl⟩ := canonicalJson_ofJson.mp success
  obtain ⟨compliant', same⟩ := canonicalJson_ofJson.mp success'
  exact Json.same_of_text_eq compliant compliant' (String.ofList_inj.mp same)

/-- Equal hashes are hashes of the same value. -/
theorem same_of_hash_eq {sha256Hex : List UInt8 → String}
    (collisionFree : Function.Injective sha256Hex) {left right : Json}
    {hash : String}
    (success : canonicalJsonHash floats sha256Hex (ofJson left) = .ok hash)
    (success' : canonicalJsonHash floats sha256Hex (ofJson right) =
      .ok hash) : left.Same right := by
  obtain ⟨text, read, success⟩ := bind_eq_ok.mp success
  obtain ⟨text', read', success'⟩ := bind_eq_ok.mp success'
  cases success
  have bytes := collisionFree (Except.ok.inj success')
  have texts : text' = text :=
    String.toByteArray_inj.mp (ByteArray.ext (Array.toList_inj.mp bytes))
  exact same_of_canonicalJson_eq read (texts ▸ read')

end Decoded

/-- Canonical JSON depends on no insertion or iteration order, and tells
different JSON values apart. -/
theorem canonical_json_faithful (floats : FloatText) :
    (∀ left right : PyValue, left.Reordered right → left.UniqueKeys →
      left.Serializable →
      ∃ text, canonicalJson floats left = .ok text ∧
        canonicalJson floats right = .ok text) ∧
    (∀ left right : Json, left.isCompliant →
      canonicalJson floats (ofJson left) =
        canonicalJson floats (ofJson right) → left.Same right) := by
  constructor
  · intro left right reordered unique serializable
    obtain ⟨json, success⟩ := @canonicalize_ok floats left serializable
    obtain ⟨json', success', same⟩ := reordered.text_eq unique success
    refine ⟨_, bind_eq_ok.mpr ⟨json, success, rfl⟩,
      bind_eq_ok.mpr ⟨json', success', ?_⟩⟩
    rw [same]
    rfl
  · intro left right compliant same
    have success := canonicalJson_ofJson.mpr
      ⟨compliant, Eq.refl (String.ofList (Json.text floats left))⟩
    exact same_of_canonicalJson_eq success (same ▸ success)

/-- `{"b": 3.0, "a": {1, 2}}` and `{"a": {2, 1}, "b": 3.0}`. -/
theorem sample_canonical_json_faithful :
    ∃ text,
      canonicalJson sampleFloats
        (.dict [("b", .float (.finite 3)), ("a", .set [.int 1, .int 2])]) =
          .ok text ∧
      canonicalJson sampleFloats
        (.dict [("a", .set [.int 2, .int 1]), ("b", .float (.finite 3))]) =
          .ok text :=
  (canonical_json_faithful sampleFloats).1 _ _
    (.dict (.swap _ _ _) (.cons
      (.set (.swap _ _ _)
        (.cons (.refl _) (.cons (.refl _) .nil)))
      (.cons (.refl _) .nil)))
    ⟨by decide, trivial, ⟨trivial, trivial, trivial⟩, trivial⟩
    ⟨trivial, ⟨trivial, trivial, trivial⟩, trivial⟩

end PyValue

end RagBench
