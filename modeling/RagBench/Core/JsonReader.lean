import Mathlib.Data.List.TakeWhile
import RagBench.Core.JsonLayout
import RagBench.Dict
import RagBench.Utf8

/-!
# Reading JSON texts

`json.loads` reads what `json.dumps` wrote: the value comes back with the
entries of its dictionaries in the order of their keys.
-/

namespace RagBench

namespace Json

mutual

/-- The same value with the entries of its dictionaries in order. -/
def sorted : Json → Json
  | .array items => .array (sortedItems items)
  | .object entries => .object (sortByKey (sortedEntries entries))
  | value => value

def sortedItems : List Json → List Json
  | [] => []
  | item :: rest => sorted item :: sortedItems rest

def sortedEntries : List (String × Json) → List (String × Json)
  | [] => []
  | (key, value) :: rest => (key, sorted value) :: sortedEntries rest

end

mutual

/-- How deeply arrays and dictionaries are nested. -/
def depth : Json → ℕ
  | .array items => itemsDepth items + 1
  | .object entries => entriesDepth entries + 1
  | _ => 0

def itemsDepth : List Json → ℕ
  | [] => 0
  | item :: rest => max (depth item) (itemsDepth rest)

def entriesDepth : List (String × Json) → ℕ
  | [] => 0
  | (_, value) :: rest => max (depth value) (entriesDepth rest)

end

theorem sortedItems_eq (items : List Json) :
    sortedItems items = items.map sorted := by
  induction items with
  | nil => rfl
  | cons item rest induction => rw [sortedItems, induction, List.map_cons]

theorem sortedEntries_eq (entries : List (String × Json)) :
    sortedEntries entries =
      entries.map fun entry => (entry.1, sorted entry.2) := by
  induction entries with
  | nil => rfl
  | cons entry rest induction =>
      rw [sortedEntries, induction, List.map_cons]

theorem entriesUnique_iff {entries : List (String × Json)} :
    EntriesUnique entries ↔ ∀ entry ∈ entries, entry.2.UniqueKeys := by
  induction entries with
  | nil => exact ⟨fun _ => List.forall_mem_nil _, fun _ => trivial⟩
  | cons entry rest induction =>
      rw [List.forall_mem_cons, ← induction]
      rfl

mutual

theorem uniqueKeys_sorted : ∀ value : Json, value.UniqueKeys →
    value.sorted.UniqueKeys
  | .null, _ => trivial
  | .bool _, _ => trivial
  | .int _, _ => trivial
  | .float _, _ => trivial
  | .str _, _ => trivial
  | .array items, unique => itemsUnique_sorted items unique
  | .object entries, unique => by
      have order : (sortByKey (sortedEntries entries)).Perm
          (sortedEntries entries) :=
        List.perm_insertionSort _ _
      have keys : (sortedEntries entries).map Prod.fst =
          entries.map Prod.fst := by
        rw [sortedEntries_eq, List.map_map]
        rfl
      refine ⟨(order.map Prod.fst).nodup_iff.mpr (keys ▸ unique.1), ?_⟩
      refine entriesUnique_iff.mpr fun entry member => ?_
      exact entriesUnique_iff.mp (entriesUnique_sorted entries unique.2) entry
        (order.mem_iff.mp member)

theorem itemsUnique_sorted : ∀ items : List Json, ItemsUnique items →
    ItemsUnique (sortedItems items)
  | [], _ => trivial
  | item :: rest, unique =>
      ⟨uniqueKeys_sorted item unique.1, itemsUnique_sorted rest unique.2⟩

theorem entriesUnique_sorted : ∀ entries : List (String × Json),
    EntriesUnique entries → EntriesUnique (sortedEntries entries)
  | [], _ => trivial
  | (_, value) :: rest, unique =>
      ⟨uniqueKeys_sorted value unique.1, entriesUnique_sorted rest unique.2⟩

end

mutual

/-- Sorting changes no dictionary. -/
theorem same_sorted : ∀ value : Json, value.Same value.sorted
  | .null => .null
  | .bool value => .bool value
  | .int value => .int value
  | .float value => .float value
  | .str value => .str value
  | .array items => .array (sameItems_sorted items)
  | .object entries => .object (.refl _) (sameEntries_sorted entries)
      (List.perm_insertionSort _ _)

theorem sameItems_sorted : ∀ items : List Json,
    SameItems items (sortedItems items)
  | [] => .nil
  | item :: rest => .cons (same_sorted item) (sameItems_sorted rest)

theorem sameEntries_sorted : ∀ entries : List (String × Json),
    SameEntries entries (sortedEntries entries)
  | [] => .nil
  | (_, value) :: rest => .cons (same_sorted value) (sameEntries_sorted rest)

end

mutual

theorem strings_sorted : ∀ value : Json,
    value.sorted.strings.Perm value.strings
  | .null => .refl _
  | .bool _ => .refl _
  | .int _ => .refl _
  | .float _ => .refl _
  | .str _ => .refl _
  | .array items => itemStrings_sorted items
  | .object entries => by
      refine List.Perm.trans ?_ (entryStrings_sorted entries)
      rw [sorted, strings, entryStrings_eq, entryStrings_eq]
      exact (List.perm_insertionSort _ _).flatMap_right _

theorem itemStrings_sorted : ∀ items : List Json,
    (itemStrings (sortedItems items)).Perm (itemStrings items)
  | [] => .refl _
  | item :: rest =>
      (strings_sorted item).append (itemStrings_sorted rest)

theorem entryStrings_sorted : ∀ entries : List (String × Json),
    (entryStrings (sortedEntries entries)).Perm (entryStrings entries)
  | [] => .refl _
  | (_, value) :: rest =>
      ((strings_sorted value).cons _).append (entryStrings_sorted rest)

end

end Json

namespace JsonReader

/-! ## Numbers and strings -/

/-- The characters that a number is made of. -/
def isNumberPart (character : Char) : Bool :=
  isNumeric character || character = 'E'

/-- Digits without a leading zero. -/
def readNat (digits : List Char) : Option ℕ :=
  let value := Nat.ofDigitChars 10 digits 0
  if Nat.toDigits 10 value = digits then some value else none

def readInt : List Char → Option ℤ
  | '-' :: digits => (readNat digits).map fun value : ℕ => -(value : ℤ)
  | digits => (readNat digits).map fun value : ℕ => (value : ℤ)

def hexDigit (character : Char) : Option ℕ :=
  if character.isDigit then some (character.toNat - 48)
  else if 'a' ≤ character ∧ character ≤ 'f' then some (character.toNat - 87)
  else if 'A' ≤ character ∧ character ≤ 'F' then some (character.toNat - 55)
  else none

/-- Four hexadecimal digits. -/
def readHex : List Char → Option (ℕ × List Char)
  | first :: second :: third :: fourth :: rest => do
      let first ← hexDigit first
      let second ← hexDigit second
      let third ← hexDigit third
      let fourth ← hexDigit fourth
      some (((first * 16 + second) * 16 + third) * 16 + fourth, rest)
  | _ => none

/-- The character that follows a backslash.  Half a surrogate pair is no
character of a text. -/
def readEscape : List Char → Option (Char × List Char)
  | 'u' :: rest => do
      let (code, rest) ← readHex rest
      if 0xD800 ≤ code ∧ code < 0xDC00 then
        match rest with
        | '\\' :: 'u' :: rest => do
            let (low, rest) ← readHex rest
            if 0xDC00 ≤ low ∧ low < 0xE000 then
              some (Char.ofNat
                (0x10000 + (code - 0xD800) * 0x400 + (low - 0xDC00)), rest)
            else none
        | _ => none
      else if 0xDC00 ≤ code ∧ code < 0xE000 then none
      else some (Char.ofNat code, rest)
  | '"' :: rest => some ('"', rest)
  | '\\' :: rest => some ('\\', rest)
  | '/' :: rest => some ('/', rest)
  | 'n' :: rest => some ('\n', rest)
  | 'r' :: rest => some ('\r', rest)
  | 't' :: rest => some ('\t', rest)
  | 'f' :: rest => some ('\x0c', rest)
  | 'b' :: rest => some ('\x08', rest)
  | _ => none

/-- The rest of a string after its first quote.  The fuel bounds its length. -/
def readString : ℕ → List Char → Option (List Char × List Char)
  | 0, _ => none
  | _ + 1, [] => none
  | fuel + 1, character :: rest =>
      if character = '"' then some ([], rest)
      else if character = '\\' then do
        let (first, rest) ← readEscape rest
        let (others, rest) ← readString fuel rest
        some (first :: others, rest)
      else if character.toNat < 32 then none
      else do
        let (others, rest) ← readString fuel rest
        some (character :: others, rest)

/-! ## Values -/

/-- `float(text)` on the numbers that are not integers. -/
structure FloatReader (floats : FloatText) where
  read : List Char → Option ℚ
  read_text : ∀ value, read (floats.text value) = some value
  readInt_text : ∀ value, readInt (floats.text value) = none

/-- The spaces between tokens. -/
def skipSpace (text : List Char) : List Char :=
  text.dropWhile fun character => character ∈ [' ', '\t', '\n', '\r']

section Values

variable {floats : FloatText} (reader : FloatReader floats)

def readNumber (text : List Char) : Option (Json × List Char) :=
  let number := text.takeWhile isNumberPart
  let rest := text.dropWhile isNumberPart
  match readInt number with
  | some value => some (.int value, rest)
  | none => (reader.read number).map fun value =>
      (.float (.finite value), rest)

mutual

/-- One value and what follows it.  The fuel bounds the length of its text. -/
def readValue : ℕ → List Char → Option (Json × List Char)
  | 0, _ => none
  | fuel + 1, text =>
      match text with
      | 'n' :: 'u' :: 'l' :: 'l' :: rest => some (.null, rest)
      | 't' :: 'r' :: 'u' :: 'e' :: rest => some (.bool true, rest)
      | 'f' :: 'a' :: 'l' :: 's' :: 'e' :: rest => some (.bool false, rest)
      | 'N' :: 'a' :: 'N' :: rest => some (.float .nan, rest)
      | 'I' :: 'n' :: 'f' :: 'i' :: 'n' :: 'i' :: 't' :: 'y' :: rest =>
          some (.float .infinity, rest)
      | '-' :: 'I' :: 'n' :: 'f' :: 'i' :: 'n' :: 'i' :: 't' :: 'y' :: rest =>
          some (.float .negativeInfinity, rest)
      | '"' :: rest => do
          let (characters, rest) ← readString fuel rest
          some (.str (String.ofList characters), rest)
      | '[' :: rest =>
          match skipSpace rest with
          | ']' :: rest => some (.array [], rest)
          | rest => do
              let (items, rest) ← readItems fuel rest
              some (.array items, rest)
      | '{' :: rest =>
          match skipSpace rest with
          | '}' :: rest => some (.object [], rest)
          | rest => do
              let (entries, rest) ← readEntries fuel rest
              some (.object (Dict.ofList entries).entries, rest)
      | text => readNumber reader text

def readItems : ℕ → List Char → Option (List Json × List Char)
  | 0, _ => none
  | fuel + 1, text => do
      let (item, rest) ← readValue fuel (skipSpace text)
      match skipSpace rest with
      | ',' :: rest => do
          let (items, rest) ← readItems fuel rest
          some (item :: items, rest)
      | ']' :: rest => some ([item], rest)
      | _ => none

def readEntries : ℕ → List Char → Option (List (String × Json) × List Char)
  | 0, _ => none
  | fuel + 1, text =>
      match skipSpace text with
      | '"' :: rest => do
          let (key, rest) ← readString fuel rest
          match skipSpace rest with
          | ':' :: rest => do
              let (value, rest) ← readValue fuel (skipSpace rest)
              match skipSpace rest with
              | ',' :: rest => do
                  let (entries, rest) ← readEntries fuel rest
                  some ((String.ofList key, value) :: entries, rest)
              | '}' :: rest => some ([(String.ofList key, value)], rest)
              | _ => none
          | _ => none
      | _ => none

end

/-- `json.loads`. -/
def loads (text : List Char) : Option Json :=
  match readValue reader (text.length + 1) (skipSpace text) with
  | some (value, rest) => if skipSpace rest = [] then some value else none
  | none => none

end Values

/-! ## Reading numbers and strings back -/

theorem readNat_toDigits (value : ℕ) :
    readNat (Nat.toDigits 10 value) = some value := by
  rw [readNat, Nat.ofDigitChars_ten_toDigits, if_pos rfl]

theorem readInt_text (value : ℤ) :
    readInt (toString value).toList = some value := by
  cases value with
  | ofNat value =>
      have digits : (toString (Int.ofNat value)).toList =
          Nat.toDigits 10 value := natText_toList value
      have noSign (rest : List Char) :
          Nat.toDigits 10 value ≠ '-' :: rest := by
        intro same
        have digit := Nat.isDigit_of_mem_toDigits (b := 10) (n := value)
          (c := '-') (by decide) (by decide) (by simp [same])
        exact absurd digit (by decide)
      rw [digits]
      unfold readInt
      split
      · exact absurd ‹_› (noSign _)
      · rw [readNat_toDigits]
        rfl
  | negSucc value =>
      have digits : (toString (Int.negSucc value)).toList =
          '-' :: Nat.toDigits 10 (value + 1) := by
        change ("-" ++ toString (value + 1)).toList = _
        rw [String.toList_append, natText_toList]
        rfl
      rw [digits, readInt, readNat_toDigits]
      rfl

theorem readHex_control {value : ℕ} (control : value < 32)
    (rest : List Char) :
    readHex ('0' :: '0' :: Nat.digitChar (value / 16) ::
      Nat.digitChar (value % 16) :: rest) = some (value, rest) := by
  have digits : ∀ value < 16,
      hexDigit (Nat.digitChar value) = some value := by decide
  have zero : hexDigit '0' = some 0 := by decide
  rw [readHex, zero, digits _ (by omega), digits _ (by omega)]
  simp only [Option.bind_eq_bind, Option.bind_some]
  congr 2
  omega

theorem readString_escapeChar (character : Char) (fuel : ℕ)
    (rest : List Char) :
    readString (fuel + 1) (escapeChar character ++ rest) =
      (readString fuel rest).map fun read =>
        (character :: read.1, read.2) := by
  have next (fuel : ℕ) : (readString fuel rest).bind
      (fun read => some (character :: read.1, read.2)) =
      (readString fuel rest).map fun read =>
        (character :: read.1, read.2) := by
    cases readString fuel rest <;> rfl
  unfold escapeChar
  split_ifs with quote backslash newline feed tab form back control
  · subst quote
    simpa [readString, readEscape] using next fuel
  · subst backslash
    simpa [readString, readEscape] using next fuel
  · subst newline
    simpa [readString, readEscape] using next fuel
  · subst feed
    simpa [readString, readEscape] using next fuel
  · subst tab
    simpa [readString, readEscape] using next fuel
  · subst form
    simpa [readString, readEscape] using next fuel
  · subst back
    simpa [readString, readEscape] using next fuel
  · have low : ¬ 0xD800 ≤ character.toNat := by omega
    have low' : ¬ 0xDC00 ≤ character.toNat := by omega
    simpa [readString, readEscape, readHex_control control, low, low',
      Char.ofNat_toNat] using next fuel
  · simpa [readString, quote, backslash, control] using next fuel

theorem readString_escape (characters rest : List Char) {fuel : ℕ}
    (enough : characters.length < fuel) :
    readString fuel (escape characters ++ '"' :: rest) =
      some (characters, rest) := by
  induction characters generalizing fuel with
  | nil =>
      obtain ⟨fuel, rfl⟩ := Nat.exists_eq_succ_of_ne_zero enough.ne'
      simp [escape, readString]
  | cons character characters induction =>
      obtain ⟨fuel, rfl⟩ :=
        Nat.exists_eq_succ_of_ne_zero (Nat.ne_of_gt (Nat.zero_lt_of_lt enough))
      rw [List.length_cons, Nat.succ_eq_add_one,
        Nat.add_lt_add_iff_right] at enough
      rw [escape, List.flatMap_cons, List.append_assoc,
        readString_escapeChar]
      rw [escape] at induction
      rw [induction enough]
      rfl

/-! ## Reading values back -/

/-- No token starts with a space. -/
theorem skipSpace_cons {character : Char} (rest : List Char)
    (token : character ∉ [' ', '\t', '\n', '\r']) :
    skipSpace (character :: rest) = character :: rest := by
  rw [skipSpace, List.dropWhile_cons_of_neg (by simpa using token)]

/-- What can follow a value. -/
def Ends (rest : List Char) : Prop :=
  ∀ character ∈ rest.head?,
    character ∈ [',', ']', '}', ' ', '\t', '\n', '\r']

theorem ends_cons {character : Char} {rest : List Char}
    (ending : character ∈ [',', ']', '}', ' ', '\t', '\n', '\r']) :
    Ends (character :: rest) := by
  intro first same
  obtain rfl : character = first := by simpa using same
  exact ending

theorem isNumberPart_of_numeric {character : Char}
    (numeric : isNumeric character) : isNumberPart character := by
  rw [isNumberPart, numeric, Bool.true_or]

section Values

variable {floats : FloatText} {reader : FloatReader floats}

theorem readNumber_append {number rest : List Char}
    (numeric : ∀ character ∈ number, isNumeric character)
    (ends : Ends rest) :
    readNumber reader (number ++ rest) =
      match readInt number with
      | some value => some (.int value, rest)
      | none => (reader.read number).map fun value =>
          (.float (.finite value), rest) := by
  have stops : ∀ character ∈ rest.head?, isNumberPart character = false := by
    intro character first
    have closing := ends character first
    simp only [List.mem_cons, List.not_mem_nil, or_false] at closing
    rcases closing with rfl | rfl | rfl | rfl | rfl | rfl | rfl
    all_goals decide
  have parts : ∀ character ∈ number, isNumberPart character :=
    fun character member => isNumberPart_of_numeric (numeric _ member)
  have taken : (number ++ rest).takeWhile isNumberPart = number := by
    rw [List.takeWhile_append_of_pos parts]
    cases rest with
    | nil => simp
    | cons character rest =>
        rw [List.takeWhile_cons, stops character (by simp)]
        simp
  have dropped : (number ++ rest).dropWhile isNumberPart = rest := by
    rw [List.dropWhile_append_of_pos parts]
    cases rest with
    | nil => rfl
    | cons character rest =>
        rw [List.dropWhile_cons, stops character (by simp)]
        simp
  rw [readNumber, taken, dropped]

theorem readValue_number {number rest : List Char} (nonempty : number ≠ [])
    (numeric : ∀ character ∈ number, isNumeric character)
    (ends : Ends rest) (fuel : ℕ) :
    readValue reader (fuel + 1) (number ++ rest) =
      readNumber reader (number ++ rest) := by
  obtain ⟨first, others, rfl⟩ := List.exists_cons_of_ne_nil nonempty
  have head := numeric first (by simp)
  -- The sign of a number is not the sign of an infinity.
  have second : ∀ tail, others ++ rest ≠ 'I' :: tail := by
    intro tail same
    cases others with
    | nil =>
        have closing := ends 'I' (by simp [show rest = _ from same])
        exact absurd closing (by decide)
    | cons character others =>
        obtain rfl := (List.cons.inj same).1
        exact absurd (numeric 'I' (by simp)) (by decide)
  rw [List.cons_append, readValue]
  all_goals
    intro tail same
    obtain ⟨rfl, tails⟩ := List.cons.inj same
    first
      | exact absurd head (by decide)
      | exact second _ tails

/-- Spaces between tokens. -/
def Blank (gap : List Char) : Prop :=
  ∀ character ∈ gap, character ∈ [' ', '\t', '\n', '\r']

theorem skipSpace_append {gap : List Char} (blank : Blank gap)
    (rest : List Char) : skipSpace (gap ++ rest) = skipSpace rest := by
  refine List.dropWhile_append_of_pos fun character member => ?_
  exact decide_eq_true (blank character member)

/-- The value is read back from its layout, whatever ends it. -/
def Readable (reader : FloatReader floats) (gap : List Char) (value : Json) :
    Prop :=
  ∀ fuel rest, (Json.laidOut gap floats value).length ≤ fuel → Ends rest →
    readValue reader fuel (Json.laidOut gap floats value ++ rest) =
      some (value, rest)

/-- Values start with a token that closes nothing. -/
theorem laidOut_first (gap : List Char) (value : Json) :
    ∃ character rest, Json.laidOut gap floats value = character :: rest ∧
      character ∉ [' ', '\t', '\n', '\r'] ∧ character ≠ ']' := by
  have number {text : List Char} (nonempty : text ≠ [])
      (numeric : ∀ character ∈ text, isNumeric character) :
      ∃ character rest, text = character :: rest ∧
        character ∉ [' ', '\t', '\n', '\r'] ∧ character ≠ ']' := by
    obtain ⟨character, rest, rfl⟩ := List.exists_cons_of_ne_nil nonempty
    have first := numeric character (by simp)
    refine ⟨character, rest, rfl, fun space => ?_, ?_⟩
    · simp only [List.mem_cons, List.not_mem_nil, or_false] at space
      rcases space with rfl | rfl | rfl | rfl
      all_goals exact absurd first (by decide)
    · rintro rfl
      exact absurd first (by decide)
  cases value with
  | null => exact ⟨'n', _, rfl, by decide, by decide⟩
  | bool value =>
      cases value with
      | true => exact ⟨'t', _, rfl, by decide, by decide⟩
      | false => exact ⟨'f', _, rfl, by decide, by decide⟩
  | int value => exact number (intText_ne_nil value) (intText_numeric value)
  | float value =>
      cases value with
      | finite value =>
          exact number (floats.nonempty value) (floats.numeric value)
      | infinity => exact ⟨'I', _, rfl, by decide, by decide⟩
      | negativeInfinity => exact ⟨'-', _, rfl, by decide, by decide⟩
      | nan => exact ⟨'N', _, rfl, by decide, by decide⟩
  | str value => exact ⟨'"', _, rfl, by decide, by decide⟩
  | array items => exact ⟨'[', _, rfl, by decide, by decide⟩
  | object entries => exact ⟨'{', _, rfl, by decide, by decide⟩

theorem skipSpace_laidOut (gap : List Char) (value : Json)
    (rest : List Char) :
    skipSpace (Json.laidOut gap floats value ++ rest) =
      Json.laidOut gap floats value ++ rest := by
  obtain ⟨character, others, begins, token, -⟩ :=
    @laidOut_first floats gap value
  rw [begins, List.cons_append, skipSpace_cons _ token]

theorem length_escape (characters : List Char) :
    characters.length ≤ (escape characters).length := by
  induction characters with
  | nil => exact Nat.zero_le _
  | cons character characters induction =>
      have one : 1 ≤ (escapeChar character).length := by
        unfold escapeChar
        split_ifs <;> simp
      rw [escape, List.flatMap_cons, List.length_append, List.length_cons]
      rw [escape] at induction
      omega

theorem readString_quoted (text : String) (rest : List Char) {fuel : ℕ}
    (enough : (quoted text).length ≤ fuel + 1) :
    readString fuel (escape text.toList ++ '"' :: rest) =
      some (text.toList, rest) := by
  have lengths := length_escape text.toList
  simp only [quoted, List.length_append, List.length_singleton] at enough
  exact readString_escape _ _ (by omega)

variable {gap : List Char}

/-- Items are read one by one; a gap stands before all but the first. -/
theorem readItems_separated (blank : Blank gap) {items : List Json}
    (nonempty : items ≠ [])
    (readable : ∀ item ∈ items, Readable reader gap item)
    {lead : List Char} (leading : Blank lead) (rest : List Char) {fuel : ℕ}
    (enough : (separated gap
      (items.map (Json.laidOut gap floats))).length + 1 ≤ fuel) :
    readItems reader fuel
        (lead ++ (separated gap (items.map (Json.laidOut gap floats)) ++
          ']' :: rest)) =
      some (items, rest) := by
  induction items generalizing fuel lead with
  | nil => exact absurd rfl nonempty
  | cons item items induction =>
      obtain ⟨fuel, rfl⟩ : ∃ less, fuel = less + 1 :=
        ⟨fuel - 1, by omega⟩
      rw [List.forall_mem_cons] at readable
      cases items with
      | nil =>
          have text : separated gap ([item].map (Json.laidOut gap floats)) =
              Json.laidOut gap floats item := by
            simp [separated]
          rw [text] at enough ⊢
          rw [readItems, skipSpace_append leading, skipSpace_laidOut,
            readable.1 fuel _ (by omega) (ends_cons (by decide))]
          simp [skipSpace_cons]
      | cons other items =>
          rw [List.map_cons, List.map_cons, separated_cons_cons,
            ← List.map_cons] at enough ⊢
          rw [List.length_append, List.length_cons, List.length_append]
            at enough
          rw [List.append_assoc, List.cons_append, readItems,
            skipSpace_append leading, skipSpace_laidOut,
            readable.1 fuel _ (by omega) (ends_cons (by decide))]
          have less : (separated gap ((other :: items).map
              (Json.laidOut gap floats))).length + 1 ≤ fuel := by
            omega
          have others := induction (List.cons_ne_nil other items) readable.2
            blank less
          simp only [Option.bind_eq_bind, Option.bind_some]
          rw [skipSpace_cons _ (by decide), List.append_assoc]
          change (readItems _ _ _).bind _ = _
          rw [others]
          rfl

/-- One entry and the character that ends it. -/
private theorem readEntries_entry (blank : Blank gap) {entry : String × Json}
    (readable : Readable reader gap entry.2) {lead : List Char}
    (leading : Blank lead) {ending : Char} (tail : List Char)
    (closing : ending ∈ [',', ']', '}']) {fuel : ℕ}
    (enough : (Json.entryLayout gap floats entry).length ≤ fuel) :
    readEntries reader (fuel + 1)
        (lead ++ (Json.entryLayout gap floats entry ++ ending :: tail)) =
      match ending :: tail with
      | ',' :: rest => do
          let (entries, rest) ← readEntries reader fuel rest
          some (entry :: entries, rest)
      | '}' :: rest => some ([entry], rest)
      | _ => none := by
  have token : ending ∉ [' ', '\t', '\n', '\r'] := by
    simp only [List.mem_cons, List.not_mem_nil, or_false] at closing
    rcases closing with rfl | rfl | rfl
    all_goals decide
  have text : Json.entryLayout gap floats entry ++ ending :: tail =
      '"' :: (escape entry.1.toList ++ '"' :: ':' ::
        (gap ++ (Json.laidOut gap floats entry.2 ++ ending :: tail))) := by
    simp [Json.entryLayout, quoted]
  simp only [Json.entryLayout, List.length_append, List.length_cons] at enough
  have within : ending ∈ [',', ']', '}', ' ', '\t', '\n', '\r'] := by
    simp only [List.mem_cons, List.not_mem_nil, or_false] at closing ⊢
    tauto
  have key (tail : List Char) :
      readString fuel (escape entry.1.toList ++ '"' :: tail) =
        some (entry.1.toList, tail) :=
    readString_quoted _ _ (by omega)
  rw [text, readEntries, skipSpace_append leading,
    skipSpace_cons _ (by decide)]
  simp only [key, Option.bind_eq_bind, Option.bind_some]
  rw [skipSpace_cons _ (by decide)]
  simp only [skipSpace_append blank, skipSpace_laidOut,
    readable fuel _ (by omega) (ends_cons within), Option.bind_some,
    skipSpace_cons _ token, String.ofList_toList]

theorem readEntries_separated (blank : Blank gap)
    {entries : List (String × Json)} (nonempty : entries ≠ [])
    (readable : ∀ entry ∈ entries, Readable reader gap entry.2)
    {lead : List Char} (leading : Blank lead) (rest : List Char) {fuel : ℕ}
    (enough : (separated gap
      (entries.map (Json.entryLayout gap floats))).length + 1 ≤ fuel) :
    readEntries reader fuel
        (lead ++ (separated gap
          (entries.map (Json.entryLayout gap floats)) ++ '}' :: rest)) =
      some (entries, rest) := by
  induction entries generalizing fuel lead with
  | nil => exact absurd rfl nonempty
  | cons entry entries induction =>
      obtain ⟨fuel, rfl⟩ : ∃ less, fuel = less + 1 :=
        ⟨fuel - 1, by omega⟩
      rw [List.forall_mem_cons] at readable
      cases entries with
      | nil =>
          have text : separated gap
              ([entry].map (Json.entryLayout gap floats)) =
                Json.entryLayout gap floats entry := by
            simp [separated]
          rw [text] at enough ⊢
          rw [readEntries_entry blank readable.1 leading _ (by decide)
            (by omega)]
          rfl
      | cons other entries =>
          rw [List.map_cons, List.map_cons, separated_cons_cons,
            ← List.map_cons] at enough ⊢
          rw [List.length_append, List.length_cons, List.length_append]
            at enough
          have less : (separated gap ((other :: entries).map
              (Json.entryLayout gap floats))).length + 1 ≤ fuel := by
            omega
          have others := induction (List.cons_ne_nil other entries)
            readable.2 blank less
          rw [List.append_assoc, List.cons_append,
            readEntries_entry blank readable.1 leading _ (by decide)
              (by omega), List.append_assoc]
          change (readEntries _ _ _).bind _ = _
          rw [others]
          rfl

theorem readable_number {text : List Char} {value : Json}
    (same : Json.laidOut gap floats value = text) (nonempty : text ≠ [])
    (numeric : ∀ character ∈ text, isNumeric character)
    (reads : ∀ rest, Ends rest →
      readNumber reader (text ++ rest) = some (value, rest)) :
    Readable reader gap value := by
  intro fuel rest enough ends
  rw [same] at enough ⊢
  have positive := List.length_pos_of_ne_nil nonempty
  obtain ⟨fuel, rfl⟩ : ∃ less, fuel = less + 1 := ⟨fuel - 1, by omega⟩
  rw [readValue_number nonempty numeric ends, reads rest ends]

/-- A word of the language is read at once. -/
private theorem readable_word {value : Json}
    (reads : ∀ fuel rest, readValue reader (fuel + 1)
      (Json.laidOut gap floats value ++ rest) = some (value, rest)) :
    Readable reader gap value := by
  intro fuel rest enough _
  obtain ⟨character, others, begins, -, -⟩ := @laidOut_first floats gap value
  rw [begins, List.length_cons] at enough
  obtain ⟨fuel, rfl⟩ : ∃ less, fuel = less + 1 := ⟨fuel - 1, by omega⟩
  exact reads fuel rest

theorem readable_array (blank : Blank gap) {items : List Json}
    (readable : ∀ item ∈ items, Readable reader gap item) :
    Readable reader gap (.array items) := by
  intro fuel rest enough ends
  rw [Json.laidOut_array] at enough ⊢
  simp only [List.length_cons, List.length_append, List.length_nil] at enough
  obtain ⟨fuel, rfl⟩ : ∃ less, fuel = less + 1 := ⟨fuel - 1, by omega⟩
  rw [List.cons_append, List.append_assoc, List.cons_append,
    List.nil_append, readValue]
  cases items with
  | nil =>
      rw [List.map_nil, separated, List.nil_append,
        skipSpace_cons _ (by decide)]
      rfl
  | cons item items =>
      have spaces : skipSpace (separated gap ((item :: items).map
          (Json.laidOut gap floats)) ++ ']' :: rest) =
          separated gap ((item :: items).map (Json.laidOut gap floats)) ++
            ']' :: rest := by
        rw [List.map_cons, separated, List.append_assoc]
        exact skipSpace_laidOut gap item _
      obtain ⟨character, others, begins, -, open_⟩ :=
        @laidOut_first floats gap item
      have read := readItems_separated blank (List.cons_ne_nil item items)
        readable (List.forall_mem_nil _) rest (show _ ≤ fuel by omega)
      rw [List.nil_append] at read
      rw [spaces]
      split
      · rename_i same
        rw [List.map_cons, separated, begins] at same
        exact absurd (List.cons.inj same).1 open_
      · rw [read]
        rfl

theorem readable_object (blank : Blank gap) {entries : List (String × Json)}
    (unique : (entries.map Prod.fst).Nodup)
    (readable : ∀ entry ∈ entries, Readable reader gap entry.2) :
    Readable reader gap (.object entries) := by
  intro fuel rest enough ends
  rw [Json.laidOut_object] at enough ⊢
  simp only [List.length_cons, List.length_append, List.length_nil] at enough
  obtain ⟨fuel, rfl⟩ : ∃ less, fuel = less + 1 := ⟨fuel - 1, by omega⟩
  rw [List.cons_append, List.append_assoc, List.cons_append,
    List.nil_append, readValue]
  cases entries with
  | nil =>
      rw [List.map_nil, separated, List.nil_append,
        skipSpace_cons _ (by decide)]
      rfl
  | cons entry others =>
      have read := readEntries_separated blank
        (List.cons_ne_nil entry others) readable (List.forall_mem_nil _) rest
        (show _ ≤ fuel by omega)
      rw [List.nil_append] at read
      have opens : ∃ tail, separated gap ((entry :: others).map
          (Json.entryLayout gap floats)) ++ '}' :: rest = '"' :: tail :=
        ⟨_, rfl⟩
      obtain ⟨tail, begins⟩ := opens
      rw [begins] at read ⊢
      rw [skipSpace_cons _ (by decide)]
      change (readEntries _ _ _).bind _ = _
      rw [read]
      change some (Json.object (Dict.ofList _).entries, rest) = _
      rw [Dict.entries_ofList unique]

mutual

theorem readable (blank : Blank gap) : ∀ value : Json, value.UniqueKeys →
    Readable reader gap value
  | .null, _ => readable_word fun _ _ => rfl
  | .bool true, _ => readable_word fun _ _ => rfl
  | .bool false, _ => readable_word fun _ _ => rfl
  | .int value, _ =>
      readable_number rfl (intText_ne_nil value) (intText_numeric value)
        fun rest ends => by
          rw [Json.laidOut, readNumber_append (intText_numeric value) ends,
            readInt_text]
  | .float (.finite value), _ =>
      readable_number rfl (floats.nonempty value) (floats.numeric value)
        fun rest ends => by
          rw [Json.laidOut, floatDump,
            readNumber_append (floats.numeric value) ends,
            reader.readInt_text, reader.read_text]
          rfl
  | .float .infinity, _ => readable_word fun _ _ => rfl
  | .float .negativeInfinity, _ => readable_word fun _ _ => rfl
  | .float .nan, _ => readable_word fun _ _ => rfl
  | .str value, _ => by
      intro fuel rest enough _
      obtain ⟨fuel, rfl⟩ : ∃ less, fuel = less + 1 :=
        ⟨fuel - 1, by simp [Json.laidOut, quoted] at enough; omega⟩
      have read := readString_quoted value rest enough
      have text : Json.laidOut gap floats (.str value) ++ rest =
          '"' :: (escape value.toList ++ '"' :: rest) := by
        simp [Json.laidOut, quoted]
      rw [text, readValue]
      simp [read]
  | .array items, unique =>
      readable_array blank (itemsReadable blank items unique)
  | .object entries, unique =>
      readable_object blank unique.1 (entriesReadable blank entries unique.2)

theorem itemsReadable (blank : Blank gap) : ∀ items : List Json,
    Json.ItemsUnique items → ∀ item ∈ items, Readable reader gap item
  | [], _ => List.forall_mem_nil _
  | item :: rest, unique => List.forall_mem_cons.mpr
      ⟨readable blank item unique.1, itemsReadable blank rest unique.2⟩

theorem entriesReadable (blank : Blank gap) :
    ∀ entries : List (String × Json), Json.EntriesUnique entries →
      ∀ entry ∈ entries, Readable reader gap entry.2
  | [], _ => List.forall_mem_nil _
  | (_, value) :: rest, unique => List.forall_mem_cons.mpr
      ⟨readable blank value unique.1, entriesReadable blank rest unique.2⟩

end

/-- A layout is read back, whatever spaces follow it. -/
theorem loads_laidOut (blank : Blank gap) {value : Json}
    (unique : value.UniqueKeys) {spaces : List Char} (only : Blank spaces) :
    loads reader (Json.laidOut gap floats value ++ spaces) = some value := by
  have ends : Ends spaces := fun character first =>
    List.mem_cons_of_mem _ (List.mem_cons_of_mem _ (List.mem_cons_of_mem _
      (only character (List.mem_of_mem_head? first))))
  have enough : (Json.laidOut gap floats value).length ≤
      (Json.laidOut gap floats value ++ spaces).length + 1 := by
    rw [List.length_append]
    omega
  have skipped : skipSpace spaces = [] :=
    List.dropWhile_eq_nil_iff.mpr fun character member => by
      simpa using only character member
  rw [loads, skipSpace_laidOut, readable blank value unique _ _ enough ends]
  exact if_pos skipped

/-- What `json.dumps` wrote with its spaces is read back. -/
theorem loads_dumps {value : Json} (unique : value.UniqueKeys) :
    loads reader (Json.dumps floats value) = some value := by
  have blank : Blank [' '] := List.forall_mem_singleton.mpr (by decide)
  have read := @loads_laidOut floats reader [' '] blank value unique []
    (List.forall_mem_nil _)
  rwa [List.append_nil, ← Json.dumps_eq] at read

/-! ## Reading sorted texts back -/

mutual

/-- A text is the layout of the value in order. -/
theorem text_eq_laidOut : ∀ value : Json, value.isCompliant →
    Json.text floats value = Json.laidOut [] floats value.sorted
  | .null, _ => rfl
  | .bool true, _ => rfl
  | .bool false, _ => rfl
  | .int _, _ => rfl
  | .float (.finite _), _ => rfl
  | .str _, _ => rfl
  | .array items, compliant => by
      rw [Json.text_array, Json.sorted, Json.laidOut_array, commas_eq,
        Json.sortedItems_eq, List.map_map]
      congr 2
      refine congrArg _ (List.map_congr_left ?_)
      exact itemTexts_eq_laidOut items compliant
  | .object entries, compliant => by
      rw [Json.text_object, Json.sorted, Json.laidOut_object, commas_eq,
        Json.sortedEntries_eq, Json.sortByKey_map, List.map_map]
      congr 2
      refine congrArg _ (List.map_congr_left fun entry member => ?_)
      have inside : entry ∈ entries :=
        (List.perm_insertionSort _ entries).mem_iff.mp member
      rw [Json.textOfEntry, entryText,
        entryTexts_eq_laidOut entries compliant entry inside]
      rfl

theorem itemTexts_eq_laidOut : ∀ items : List Json,
    Json.itemsCompliant items → ∀ item ∈ items,
      Json.text floats item = Json.laidOut [] floats item.sorted
  | [], _ => List.forall_mem_nil _
  | item :: rest, compliant => by
      rw [Json.itemsCompliant, Bool.and_eq_true] at compliant
      exact List.forall_mem_cons.mpr ⟨text_eq_laidOut item compliant.1,
        itemTexts_eq_laidOut rest compliant.2⟩

theorem entryTexts_eq_laidOut : ∀ entries : List (String × Json),
    Json.entriesCompliant entries → ∀ entry ∈ entries,
      Json.text floats entry.2 = Json.laidOut [] floats entry.2.sorted
  | [], _ => List.forall_mem_nil _
  | (_, value) :: rest, compliant => by
      rw [Json.entriesCompliant, Bool.and_eq_true] at compliant
      exact List.forall_mem_cons.mpr ⟨text_eq_laidOut value compliant.1,
        entryTexts_eq_laidOut rest compliant.2⟩

end

/-- What `json.dumps` wrote is read back, whatever spaces follow it. -/
theorem loads_text {value : Json} (compliant : value.isCompliant)
    (unique : value.UniqueKeys) {spaces : List Char}
    (only : ∀ character ∈ spaces, character ∈ [' ', '\t', '\n', '\r']) :
    loads reader (Json.text floats value ++ spaces) = some value.sorted := by
  rw [text_eq_laidOut value compliant]
  exact loads_laidOut (List.forall_mem_nil _) (Json.uniqueKeys_sorted value unique)
    only

end Values

/-! ## A reader of sample floats -/

private theorem readNat_noPoint {digits : List Char} {value : ℕ}
    (read : readNat digits = some value) : '.' ∉ digits := by
  rw [readNat] at read
  split_ifs at read with same
  rw [← same]
  intro member
  exact absurd (Nat.isDigit_of_mem_toDigits (by decide) (by decide) member)
    (by decide)

private theorem readInt_noPoint {text : List Char} {value : ℤ}
    (read : readInt text = some value) : '.' ∉ text := by
  unfold readInt at read
  split at read
  · obtain ⟨number, read, -⟩ := Option.map_eq_some_iff.mp read
    rw [List.mem_cons, not_or]
    exact ⟨by decide, readNat_noPoint read⟩
  · obtain ⟨number, read, -⟩ := Option.map_eq_some_iff.mp read
    exact readNat_noPoint read

/-- Reads the denominator after the point. -/
def sampleReader : FloatReader sampleFloats :=
  { read := fun text => do
      let num ← readInt (text.takeWhile (· ≠ '.'))
      let less ← readNat (text.dropWhile (· ≠ '.')).tail
      some (num / (less + 1 : ℕ) : ℚ)
    read_text := by
      intro value
      have front : ∀ character ∈ (toString value.num).toList,
          decide (character ≠ '.') = true := by
        intro character member
        refine decide_eq_true fun point => ?_
        exact readInt_noPoint (readInt_text value.num) (point ▸ member)
      have positive := value.den_pos
      have den : value.den - 1 + 1 = value.den := by omega
      have taken : (sampleFloats.text value).takeWhile (· ≠ '.') =
          (toString value.num).toList := by
        rw [sampleFloats, List.takeWhile_append_of_pos front,
          List.takeWhile_cons_of_neg (by simp), List.append_nil]
      have dropped : (sampleFloats.text value).dropWhile (· ≠ '.') =
          '.' :: (toString (value.den - 1)).toList := by
        rw [sampleFloats, List.dropWhile_append_of_pos front,
          List.dropWhile_cons_of_neg (by simp)]
      rw [taken, dropped, List.tail_cons, natText_toList, readInt_text,
        readNat_toDigits]
      change some ((value.num : ℚ) / ((value.den - 1 + 1 : ℕ) : ℚ)) = _
      rw [den, Rat.num_div_den]
    readInt_text := by
      intro value
      cases read : readInt (sampleFloats.text value) with
      | none => rfl
      | some number =>
          exact absurd (List.mem_append_right _ List.mem_cons_self)
            (readInt_noPoint read) }

end JsonReader

/-- A reader of UTF-8 bytes with a limit on the nesting, such as the one of
`model_validate_json`. -/
structure JsonParser (floats : FloatText) where
  parse : List UInt8 → Option Json
  parse_text : ∀ value : Json, value.isCompliant → value.UniqueKeys →
    value.depth ≤ 100 →
      parse (utf8 (Json.text floats value)) = some value.sorted

/-- `json.loads` on bytes. -/
def JsonReader.parser {floats : FloatText} (reader : FloatReader floats) :
    JsonParser floats :=
  { parse := fun bytes => (Utf8.decode bytes).bind (loads reader)
    parse_text := by
      intro value compliant unique _
      have read : loads reader (Json.text floats value ++ []) =
          some value.sorted :=
        loads_text compliant unique (List.forall_mem_nil _)
      rw [List.append_nil] at read
      rw [Utf8.decode_eq_some_iff.mpr rfl, Option.bind_some, read] }

def sampleParser : JsonParser sampleFloats :=
  JsonReader.parser JsonReader.sampleReader

end RagBench
