import Mathlib.Data.List.Sort
import Mathlib.Data.String.Basic
import RagBench.Python

/-!
# JSON texts

The text that `json.dumps` writes with sorted keys, compact separators and
without ASCII escapes.  A text ends where its value ends: what follows a value
in a larger text does not change how the value is read.  So a text determines
its value up to the order in which dictionaries were filled.
-/

namespace RagBench

/-- The characters of numbers. -/
def isNumeric (character : Char) : Bool :=
  character.isDigit || character ∈ ['+', '-', '.', 'e']

/-- `float.__repr__` on finite floats. -/
structure FloatText where
  text : ℚ → List Char
  injective : Function.Injective text
  nonempty : ∀ value, text value ≠ []
  numeric : ∀ value, ∀ character ∈ text value, isNumeric character
  not_int : ∀ value (number : ℤ), text value ≠ (toString number).toList

/-- The text of a character in a string. -/
def escapeChar (character : Char) : List Char :=
  if character = '"' then ['\\', '"']
  else if character = '\\' then ['\\', '\\']
  else if character = '\n' then ['\\', 'n']
  else if character = '\r' then ['\\', 'r']
  else if character = '\t' then ['\\', 't']
  else if character = '\x0c' then ['\\', 'f']
  else if character = '\x08' then ['\\', 'b']
  else if character.toNat < 32 then
    ['\\', 'u', '0', '0', Nat.digitChar (character.toNat / 16),
      Nat.digitChar (character.toNat % 16)]
  else [character]

def escape (text : List Char) : List Char :=
  text.flatMap escapeChar

/-- A string with its quotes. -/
def quoted (text : String) : List Char :=
  ['"'] ++ escape text.toList ++ ['"']

/-- `",".join(items)`. -/
def commas : List (List Char) → List Char
  | [] => []
  | item :: rest => item ++ rest.flatMap fun other => ',' :: other

def entryText (entry : String × List Char) : List Char :=
  quoted entry.1 ++ ':' :: entry.2

/-- `sorted(entries)` for entries with different keys. -/
def sortByKey {α : Type} (entries : List (String × α)) : List (String × α) :=
  entries.insertionSort fun left right => left.1 ≤ right.1

namespace Json

mutual

/-- The text of a value whose floats are finite. -/
def text (floats : FloatText) : Json → List Char
  | .null => ['n', 'u', 'l', 'l']
  | .bool true => ['t', 'r', 'u', 'e']
  | .bool false => ['f', 'a', 'l', 's', 'e']
  | .int value => (toString value).toList
  | .float (.finite value) => floats.text value
  | .float _ => []
  | .str value => quoted value
  | .array items => ['['] ++ commas (itemTexts floats items) ++ [']']
  | .object entries =>
      ['{'] ++ commas ((sortByKey (entryTexts floats entries)).map entryText) ++
        ['}']

def itemTexts (floats : FloatText) : List Json → List (List Char)
  | [] => []
  | item :: rest => text floats item :: itemTexts floats rest

def entryTexts (floats : FloatText) :
    List (String × Json) → List (String × List Char)
  | [] => []
  | (key, value) :: rest => (key, text floats value) :: entryTexts floats rest

end

mutual

/-- Equal up to the order in which dictionaries were filled. -/
inductive Same : Json → Json → Prop where
  | null : Same .null .null
  | bool (value : Bool) : Same (.bool value) (.bool value)
  | int (value : ℤ) : Same (.int value) (.int value)
  | float (value : PyFloat) : Same (.float value) (.float value)
  | str (value : String) : Same (.str value) (.str value)
  | array {left right : List Json} (items : SameItems left right) :
      Same (.array left) (.array right)
  | object {left left' right right' : List (String × Json)}
      (leftOrder : left.Perm left') (entries : SameEntries left' right')
      (rightOrder : right.Perm right') : Same (.object left) (.object right)

inductive SameItems : List Json → List Json → Prop where
  | nil : SameItems [] []
  | cons {left right : Json} {lefts rights : List Json}
      (first : Same left right) (rest : SameItems lefts rights) :
      SameItems (left :: lefts) (right :: rights)

inductive SameEntries :
    List (String × Json) → List (String × Json) → Prop where
  | nil : SameEntries [] []
  | cons {key : String} {left right : Json}
      {lefts rights : List (String × Json)} (first : Same left right)
      (rest : SameEntries lefts rights) :
      SameEntries ((key, left) :: lefts) ((key, right) :: rights)

end

mutual

/-- All dictionaries have different keys. -/
def UniqueKeys : Json → Prop
  | .array items => ItemsUnique items
  | .object entries => (entries.map Prod.fst).Nodup ∧ EntriesUnique entries
  | _ => True

def ItemsUnique : List Json → Prop
  | [] => True
  | item :: rest => UniqueKeys item ∧ ItemsUnique rest

def EntriesUnique : List (String × Json) → Prop
  | [] => True
  | (_, value) :: rest => UniqueKeys value ∧ EntriesUnique rest

end

end Json

/-! ## Characters and strings -/

/-- Reading back one escaped character. -/
def unescape : List Char → Option (Char × List Char)
  | '\\' :: 'u' :: '0' :: '0' :: high :: low :: rest =>
      let value (digit : Char) : ℕ :=
        if digit.toNat < 58 then digit.toNat - 48 else digit.toNat - 87
      some (Char.ofNat (16 * value high + value low), rest)
  | '\\' :: 'n' :: rest => some ('\n', rest)
  | '\\' :: 'r' :: rest => some ('\r', rest)
  | '\\' :: 't' :: rest => some ('\t', rest)
  | '\\' :: 'f' :: rest => some ('\x0c', rest)
  | '\\' :: 'b' :: rest => some ('\x08', rest)
  | '\\' :: character :: rest => some (character, rest)
  | '"' :: _ => none
  | character :: rest => some (character, rest)
  | [] => none

theorem unescape_escapeChar (character : Char) (rest : List Char) :
    unescape (escapeChar character ++ rest) = some (character, rest) := by
  unfold escapeChar
  split_ifs with quote backslash newline feed tab form back control
  · simp [unescape, quote]
  · simp [unescape, backslash]
  · simp [unescape, newline]
  · simp [unescape, feed]
  · simp [unescape, tab]
  · simp [unescape, form]
  · simp [unescape, back]
  · have digits : ∀ value < 32,
        16 * (if (Nat.digitChar (value / 16)).toNat < 58 then
            (Nat.digitChar (value / 16)).toNat - 48
          else (Nat.digitChar (value / 16)).toNat - 87) +
          (if (Nat.digitChar (value % 16)).toNat < 58 then
            (Nat.digitChar (value % 16)).toNat - 48
          else (Nat.digitChar (value % 16)).toNat - 87) = value := by
      decide
    simp only [List.cons_append, List.nil_append, unescape]
    rw [digits character.toNat control, Char.ofNat_toNat]
  · simp only [List.cons_append, List.nil_append]
    unfold unescape
    split <;> simp_all

theorem unescape_escape_cons (character : Char) (characters rest : List Char) :
    unescape (escape (character :: characters) ++ rest) =
      some (character, escape characters ++ rest) := by
  rw [escape, List.flatMap_cons, List.append_assoc, unescape_escapeChar]
  rfl

theorem escape_append_inj {left right rest rest' : List Char}
    (same : escape left ++ '"' :: rest = escape right ++ '"' :: rest') :
    left = right ∧ rest = rest' := by
  have quote (tail : List Char) : unescape (escape [] ++ '"' :: tail) = none :=
    rfl
  induction left generalizing right with
  | nil =>
      cases right with
      | nil => exact ⟨rfl, List.tail_eq_of_cons_eq same⟩
      | cons character right =>
          have read := congrArg unescape same
          rw [quote, unescape_escape_cons] at read
          cases read
  | cons character left induction =>
      have read := congrArg unescape same
      cases right with
      | nil =>
          rw [quote, unescape_escape_cons] at read
          cases read
      | cons other right =>
          rw [unescape_escape_cons, unescape_escape_cons] at read
          obtain ⟨rfl, tails⟩ := Prod.mk.inj (Option.some.inj read)
          obtain ⟨rfl, rfl⟩ := induction tails
          exact ⟨rfl, rfl⟩

theorem quoted_append_inj {left right : String} {rest rest' : List Char}
    (same : quoted left ++ rest = quoted right ++ rest') :
    left = right ∧ rest = rest' := by
  simp only [quoted, List.append_assoc, List.cons_append, List.nil_append,
    List.cons.injEq, true_and] at same
  obtain ⟨characters, tails⟩ := escape_append_inj same
  exact ⟨String.toList_inj.mp characters, tails⟩

/-! ## Ends of texts -/

/-- What can follow a value. -/
def Closes (rest : List Char) : Prop :=
  ∀ character ∈ rest.head?, character ∈ [',', ']', '}']

/-- How a value begins. -/
def Opens (text : List Char) : Prop :=
  ∃ character rest, text = character :: rest ∧
    character ∉ [',', ']', '}']

/-- No number goes on with a character that follows a value. -/
private theorem notNumeric_of_closes {character : Char}
    (closing : character ∈ [',', ']', '}']) :
    isNumeric character = false := by
  simp only [List.mem_cons, List.not_mem_nil, or_false] at closing
  rcases closing with rfl | rfl | rfl
  all_goals decide

theorem numeric_append_inj {left right rest rest' : List Char}
    (leftNumeric : ∀ character ∈ left, isNumeric character)
    (rightNumeric : ∀ character ∈ right, isNumeric character)
    (closes : Closes rest) (closes' : Closes rest')
    (same : left ++ rest = right ++ rest') : left = right ∧ rest = rest' := by
  induction left generalizing right with
  | nil =>
      cases right with
      | nil => exact ⟨rfl, same⟩
      | cons character right =>
          rw [List.nil_append] at same
          have numeric := rightNumeric character (by simp)
          rw [notNumeric_of_closes (closes character (by simp [same]))] at numeric
          cases numeric
  | cons character left induction =>
      cases right with
      | nil =>
          rw [List.nil_append] at same
          have numeric := leftNumeric character (by simp)
          rw [notNumeric_of_closes (closes' character (by simp [← same]))]
            at numeric
          cases numeric
      | cons other right =>
          obtain ⟨rfl, tails⟩ := List.cons.inj same
          obtain ⟨rfl, rfl⟩ := induction
            (fun character member => leftNumeric character (by simp [member]))
            (fun character member =>
              rightNumeric character (by simp [member])) tails
          exact ⟨rfl, rfl⟩

/-- The text of the item tells it apart, and where it ends. -/
def Separate {α : Type} (relation : α → α → Prop) (text : α → List Char)
    (valid : α → Prop) (item : α) : Prop :=
  ∀ other rest rest', valid other → Closes rest → Closes rest' →
    text item ++ rest = text other ++ rest' →
      relation item other ∧ rest = rest'

section Lists

variable {α : Type} {relation : α → α → Prop} {text : α → List Char}
  {valid : α → Prop} {close : Char} {lefts rights : List α}
  {rest rest' : List Char}

private theorem closes_tail (closing : close ∈ [']', '}']) (items : List α)
    (rest : List Char) :
    Closes ((items.map text).flatMap (fun item => ',' :: item) ++
      close :: rest) := by
  intro character first
  cases items with
  | nil =>
      obtain rfl : close = character := by simpa using first
      exact List.mem_cons_of_mem _ closing
  | cons item items =>
      obtain rfl : ',' = character := by simpa using first
      simp

private theorem tail_append_inj (closing : close ∈ [']', '}'])
    (separate : ∀ item ∈ lefts, Separate relation text valid item)
    (rightValid : ∀ item ∈ rights, valid item)
    (same : (lefts.map text).flatMap (fun item => ',' :: item) ++
        close :: rest =
      (rights.map text).flatMap (fun item => ',' :: item) ++
        close :: rest') :
    List.Forall₂ relation lefts rights ∧ rest = rest' := by
  have comma : close ≠ ',' := by
    rintro rfl
    simp at closing
  induction lefts generalizing rights with
  | nil =>
      cases rights with
      | nil => exact ⟨.nil, List.tail_eq_of_cons_eq same⟩
      | cons right rights => exact absurd (List.cons.inj same).1 comma
  | cons left lefts induction =>
      cases rights with
      | nil => exact absurd (List.cons.inj same).1.symm comma
      | cons right rights =>
          simp only [List.map_cons, List.flatMap_cons, List.cons_append,
            List.append_assoc, List.cons.injEq, true_and] at same
          obtain ⟨related, tails⟩ := separate left (by simp) right _ _
            (rightValid right (by simp)) (closes_tail closing lefts rest)
            (closes_tail closing rights rest') same
          obtain ⟨relations, rfl⟩ := induction
            (fun item member => separate item (by simp [member]))
            (fun item member => rightValid item (by simp [member])) tails
          exact ⟨.cons related relations, rfl⟩

theorem commas_append_inj (closing : close ∈ [']', '}'])
    (opens : ∀ item, valid item → Opens (text item))
    (separate : ∀ item ∈ lefts, Separate relation text valid item)
    (leftValid : ∀ item ∈ lefts, valid item)
    (rightValid : ∀ item ∈ rights, valid item)
    (same : commas (lefts.map text) ++ close :: rest =
      commas (rights.map text) ++ close :: rest') :
    List.Forall₂ relation lefts rights ∧ rest = rest' := by
  have excluded {item : α} {more : List Char} {tail : List Char}
      (itemValid : valid item) : text item ++ more ≠ close :: tail := by
    obtain ⟨character, others, begins, apart⟩ := opens item itemValid
    rw [begins]
    intro same
    obtain rfl := (List.cons.inj same).1
    exact apart (List.mem_cons_of_mem _ closing)
  cases lefts with
  | nil =>
      cases rights with
      | nil => exact ⟨.nil, List.tail_eq_of_cons_eq same⟩
      | cons right rights =>
          simp only [List.map_cons, commas, List.append_assoc] at same
          exact absurd same.symm (excluded (rightValid right (by simp)))
  | cons left lefts =>
      cases rights with
      | nil =>
          simp only [List.map_cons, commas, List.append_assoc] at same
          exact absurd same (excluded (leftValid left (by simp)))
      | cons right rights =>
          simp only [List.map_cons, commas, List.append_assoc] at same
          obtain ⟨related, tails⟩ := separate left (by simp) right _ _
            (rightValid right (by simp)) (closes_tail closing lefts rest)
            (closes_tail closing rights rest') same
          obtain ⟨relations, rfl⟩ := tail_append_inj closing
            (fun item member => separate item (by simp [member]))
            (fun item member => rightValid item (by simp [member])) tails
          exact ⟨.cons related relations, rfl⟩

end Lists

/-! ## Numbers -/

private theorem toDigits_injective : Function.Injective (Nat.toDigits 10) := by
  intro left
  induction left using Nat.strong_induction_on with
  | _ left induction =>
      intro right same
      have digitChar_inj : ∀ digit < 10, ∀ other < 10,
          Nat.digitChar digit = Nat.digitChar other → digit = other := by
        decide
      rcases Nat.lt_or_ge left 10 with small | large
      · rcases Nat.lt_or_ge right 10 with small' | large'
        · rw [Nat.toDigits_of_lt_base small, Nat.toDigits_of_lt_base small']
            at same
          exact digitChar_inj left small right small'
            (List.singleton_inj.mp same)
        · rw [Nat.toDigits_of_lt_base small,
            Nat.toDigits_of_base_le (by decide) large'] at same
          have length := congrArg List.length same
          have positive := @Nat.length_toDigits_pos 10 (right / 10)
          simp only [List.length_append, List.length_singleton] at length
          omega
      · rcases Nat.lt_or_ge right 10 with small' | large'
        · rw [Nat.toDigits_of_lt_base small',
            Nat.toDigits_of_base_le (by decide) large] at same
          have length := congrArg List.length same
          have positive := @Nat.length_toDigits_pos 10 (left / 10)
          simp only [List.length_append, List.length_singleton] at length
          omega
        · rw [Nat.toDigits_of_base_le (by decide) large,
            Nat.toDigits_of_base_le (by decide) large'] at same
          obtain ⟨quotients, last⟩ := List.append_inj' same rfl
          have quotient := induction (left / 10) (by omega) quotients
          have remainder := digitChar_inj _ (Nat.mod_lt _ (by decide)) _
            (Nat.mod_lt _ (by decide)) (List.singleton_inj.mp last)
          omega

theorem natText_toList (number : ℕ) :
    (toString number).toList = Nat.toDigits 10 number :=
  Nat.toList_repr

private theorem intText_cases (number : ℤ) :
    (∃ value : ℕ, number = value ∧
      (toString number).toList = Nat.toDigits 10 value) ∨
    ∃ value : ℕ, number = -(value + 1 : ℕ) ∧
      (toString number).toList = '-' :: Nat.toDigits 10 (value + 1) := by
  cases number with
  | ofNat value => exact .inl ⟨value, rfl, natText_toList value⟩
  | negSucc value =>
      refine .inr ⟨value, rfl, ?_⟩
      change ("-" ++ toString (value + 1)).toList = _
      rw [String.toList_append, natText_toList]
      rfl

theorem intText_numeric (number : ℤ) :
    ∀ character ∈ (toString number).toList, isNumeric character := by
  have digits (value : ℕ) :
      ∀ character ∈ Nat.toDigits 10 value, isNumeric character := by
    intro character member
    have digit := Nat.isDigit_of_mem_toDigits (by decide) (by decide) member
    simp [isNumeric, digit]
  rcases intText_cases number with ⟨value, -, text⟩ | ⟨value, -, text⟩
  · rw [text]
    exact digits value
  · rw [text, List.forall_mem_cons]
    exact ⟨by decide, digits _⟩

theorem intText_ne_nil (number : ℤ) : (toString number).toList ≠ [] := by
  rcases intText_cases number with ⟨value, -, text⟩ | ⟨value, -, text⟩
  · rw [text]
    exact Nat.toDigits_ne_nil
  · rw [text]
    exact List.cons_ne_nil _ _

private theorem minus_not_digits (value : ℕ) (rest : List Char) :
    Nat.toDigits 10 value ≠ '-' :: rest := by
  intro same
  have digit := Nat.isDigit_of_mem_toDigits (b := 10) (n := value)
    (c := '-') (by decide) (by decide) (by simp [same])
  exact absurd digit (by decide)

theorem intText_injective :
    Function.Injective fun number : ℤ => (toString number).toList := by
  intro left right same
  dsimp only at same
  rcases intText_cases left with ⟨value, rfl, text⟩ | ⟨value, rfl, text⟩
  · rcases intText_cases right with ⟨other, rfl, text'⟩ | ⟨other, rfl, text'⟩
    · rw [text, text'] at same
      rw [toDigits_injective same]
    · rw [text, text'] at same
      exact absurd same (minus_not_digits _ _)
  · rcases intText_cases right with ⟨other, rfl, text'⟩ | ⟨other, rfl, text'⟩
    · rw [text, text'] at same
      exact absurd same.symm (minus_not_digits _ _)
    · rw [text, text'] at same
      rw [toDigits_injective (List.cons.inj same).2]

theorem opens_of_numeric {text : List Char} (nonempty : text ≠ [])
    (numeric : ∀ character ∈ text, isNumeric character) : Opens text := by
  obtain ⟨character, rest, rfl⟩ := List.exists_cons_of_ne_nil nonempty
  refine ⟨character, rest, rfl, fun closing => ?_⟩
  have both := numeric character (by simp)
  rw [notNumeric_of_closes closing] at both
  cases both

private theorem natText_numeric (number : ℕ) :
    ∀ character ∈ (toString number).toList, character.isDigit := by
  rw [natText_toList]
  intro character member
  exact Nat.isDigit_of_mem_toDigits (by decide) (by decide) member

private theorem intText_noPoint (number : ℤ) :
    '.' ∉ (toString number).toList := by
  have digits (value : ℕ) : '.' ∉ Nat.toDigits 10 value := fun member =>
    absurd (Nat.isDigit_of_mem_toDigits (by decide) (by decide) member)
      (by decide)
  rcases intText_cases number with ⟨value, -, text⟩ | ⟨value, -, text⟩
  · rw [text]
    exact digits value
  · rw [text, List.mem_cons, not_or]
    exact ⟨by decide, digits _⟩

/-- Texts with a point, where it counts the denominator. -/
def sampleFloats : FloatText :=
  { text := fun value => (toString value.num).toList ++
      '.' :: (toString (value.den - 1)).toList
    injective := by
      intro left right same
      obtain ⟨nums, -, dens⟩ :=
        (List.append_cons_inj_of_notMem (intText_noPoint left.num)
          (intText_noPoint (left.den - 1 : ℕ))).mp same
      have den := toDigits_injective
        ((natText_toList _).symm.trans (dens.trans (natText_toList _)))
      have leftPositive := left.den_pos
      have rightPositive := right.den_pos
      exact Rat.ext (intText_injective nums) (by omega)
    nonempty := by simp
    numeric := by
      intro value character member
      rcases List.mem_append.mp member with member | member
      · exact intText_numeric _ _ member
      · rcases List.mem_cons.mp member with rfl | member
        · decide
        · simp [isNumeric, natText_numeric _ _ member]
    not_int := by
      intro value number same
      apply intText_noPoint number
      rw [← same]
      exact List.mem_append_right _ List.mem_cons_self }

/-! ## Values -/

namespace Json

variable {floats : FloatText}

theorem itemTexts_eq (items : List Json) :
    itemTexts floats items = items.map (text floats) := by
  induction items with
  | nil => rfl
  | cons item rest induction => rw [itemTexts, induction, List.map_cons]

theorem entryTexts_eq (entries : List (String × Json)) :
    entryTexts floats entries =
      entries.map fun entry => (entry.1, text floats entry.2) := by
  induction entries with
  | nil => rfl
  | cons entry rest induction => rw [entryTexts, induction, List.map_cons]

theorem itemsCompliant_iff (items : List Json) :
    itemsCompliant items ↔ ∀ item ∈ items, item.isCompliant := by
  induction items with
  | nil => simp [itemsCompliant]
  | cons item rest induction => simp [itemsCompliant, induction]

theorem entriesCompliant_iff (entries : List (String × Json)) :
    entriesCompliant entries ↔ ∀ entry ∈ entries, entry.2.isCompliant := by
  induction entries with
  | nil => simp [entriesCompliant]
  | cons entry rest induction => simp [entriesCompliant, induction]

theorem compliant_texts (texts : List String) :
    (Json.array (texts.map .str)).isCompliant = true := by
  rw [Json.isCompliant, itemsCompliant_iff]
  exact List.forall_mem_map.mpr fun _ _ => rfl

/-- Sorting does not look at the values. -/
theorem sortByKey_map {α β : Type} (value : α → β)
    (entries : List (String × α)) :
    sortByKey (entries.map fun entry => (entry.1, value entry.2)) =
      (sortByKey entries).map fun entry => (entry.1, value entry.2) := by
  refine (List.map_insertionSort _ _ _ _ ?_).symm
  intro _ _ _ _
  rfl

/-- The text of an entry with its value. -/
def textOfEntry (floats : FloatText) (entry : String × Json) : List Char :=
  entryText (entry.1, text floats entry.2)

theorem text_array (items : List Json) :
    text floats (.array items) =
      '[' :: (commas (items.map (text floats)) ++ [']']) := by
  rw [text, itemTexts_eq]
  rfl

theorem text_object (entries : List (String × Json)) :
    text floats (.object entries) =
      '{' :: (commas ((sortByKey entries).map (textOfEntry floats)) ++
        ['}']) := by
  rw [text, entryTexts_eq, sortByKey_map, List.map_map]
  rfl

theorem text_int (value : ℤ) :
    text floats (.int value) = (toString value).toList :=
  rfl

theorem textOfEntry_opens (entry : String × Json) :
    Opens (textOfEntry floats entry) :=
  ⟨'"', _, rfl, by decide⟩

theorem text_opens {value : Json} (compliant : value.isCompliant) :
    Opens (text floats value) := by
  cases value with
  | null => exact ⟨'n', _, rfl, by decide⟩
  | bool value =>
      cases value with
      | true => exact ⟨'t', _, rfl, by decide⟩
      | false => exact ⟨'f', _, rfl, by decide⟩
  | int value =>
      exact opens_of_numeric (intText_ne_nil value) (intText_numeric value)
  | float value =>
      cases value with
      | finite value =>
          exact opens_of_numeric (floats.nonempty value)
            (floats.numeric value)
      | infinity | negativeInfinity | nan => cases compliant
  | str value => exact ⟨'"', _, rfl, by decide⟩
  | array items => exact ⟨'[', _, text_array items, by decide⟩
  | object entries => exact ⟨'{', _, text_object entries, by decide⟩

/-- The kinds of values that the first character tells apart. -/
def kind : Json → ℕ
  | .null => 0
  | .bool true => 1
  | .bool false => 2
  | .int _ => 3
  | .float _ => 3
  | .str _ => 4
  | .array _ => 5
  | .object _ => 6

def kindOf (character : Char) : ℕ :=
  if character = 'n' then 0
  else if character = 't' then 1
  else if character = 'f' then 2
  else if character = '"' then 4
  else if character = '[' then 5
  else if character = '{' then 6
  else 3

private theorem kindOf_numeric {text : List Char} (nonempty : text ≠ [])
    (numeric : ∀ character ∈ text, isNumeric character) :
    ∃ character rest, text = character :: rest ∧ kindOf character = 3 := by
  obtain ⟨character, rest, rfl⟩ := List.exists_cons_of_ne_nil nonempty
  refine ⟨character, rest, rfl, ?_⟩
  have member := numeric character (by simp)
  unfold kindOf
  split_ifs with null yes no quote bracket brace
  all_goals first
    | rfl
    | (subst character; exact absurd member (by decide))

theorem text_kind {value : Json} (compliant : value.isCompliant) :
    ∃ character rest, text floats value = character :: rest ∧
      kindOf character = value.kind := by
  cases value with
  | null => exact ⟨'n', _, rfl, rfl⟩
  | bool value =>
      cases value with
      | true => exact ⟨'t', _, rfl, rfl⟩
      | false => exact ⟨'f', _, rfl, rfl⟩
  | int value =>
      exact kindOf_numeric (intText_ne_nil value) (intText_numeric value)
  | float value =>
      cases value with
      | finite value =>
          exact kindOf_numeric (floats.nonempty value) (floats.numeric value)
      | infinity | negativeInfinity | nan => cases compliant
  | str value => exact ⟨'"', _, rfl, rfl⟩
  | array items => exact ⟨'[', _, text_array items, rfl⟩
  | object entries => exact ⟨'{', _, text_object entries, rfl⟩

theorem kind_eq {value other : Json} (compliant : value.isCompliant)
    (compliant' : other.isCompliant) {rest rest' : List Char}
    (same : text floats value ++ rest = text floats other ++ rest') :
    value.kind = other.kind := by
  obtain ⟨first, _, begins, kinds⟩ := @text_kind floats _ compliant
  obtain ⟨first', _, begins', kinds'⟩ := @text_kind floats _ compliant'
  rw [begins, begins'] at same
  rw [← kinds, ← kinds', (List.cons.inj same).1]

theorem sameItems_of_forall₂ {left right : List Json}
    (same : List.Forall₂ Same left right) : SameItems left right := by
  induction same with
  | nil => exact .nil
  | cons first _ induction => exact .cons first induction

/-- Entries with the same key and the same value. -/
def SameEntry (left right : String × Json) : Prop :=
  left.1 = right.1 ∧ left.2.Same right.2

theorem sameEntries_of_forall₂ {left right : List (String × Json)}
    (same : List.Forall₂ SameEntry left right) : SameEntries left right := by
  induction same with
  | nil => exact .nil
  | @cons left right _ _ first _ induction =>
      obtain ⟨key, value⟩ := left
      obtain ⟨other, value'⟩ := right
      obtain ⟨rfl, values⟩ := first
      exact .cons values induction

abbrev Determined (floats : FloatText) (value : Json) : Prop :=
  Separate Same (text floats) (fun other => other.isCompliant) value

theorem determined_number {value : Json} (compliant : value.isCompliant)
    (number : value.kind = 3) : value.Determined floats := by
  intro other rest rest' compliant' closes closes' same
  have number' := (kind_eq compliant compliant' same).symm.trans number
  cases value with
  | int value =>
      cases other with
      | int other =>
          obtain ⟨texts, rfl⟩ := numeric_append_inj (intText_numeric value)
            (intText_numeric other) closes closes' same
          obtain rfl := intText_injective texts
          exact ⟨.int value, rfl⟩
      | float other =>
          cases other with
          | finite other =>
              obtain ⟨texts, -⟩ := numeric_append_inj (intText_numeric value)
                (floats.numeric other) closes closes' same
              exact absurd texts.symm (floats.not_int other value)
          | infinity | negativeInfinity | nan => cases compliant'
      | bool other => cases other <;> cases number'
      | null | str | array | object => cases number'
  | float value =>
      cases value with
      | finite value =>
          cases other with
          | int other =>
              obtain ⟨texts, -⟩ := numeric_append_inj (floats.numeric value)
                (intText_numeric other) closes closes' same
              exact absurd texts (floats.not_int value other)
          | float other =>
              cases other with
              | finite other =>
                  obtain ⟨texts, rfl⟩ := numeric_append_inj
                    (floats.numeric value) (floats.numeric other) closes
                    closes' same
                  obtain rfl := floats.injective texts
                  exact ⟨.float (.finite value), rfl⟩
              | infinity | negativeInfinity | nan => cases compliant'
          | bool other => cases other <;> cases number'
          | null | str | array | object => cases number'
      | infinity | negativeInfinity | nan => cases compliant
  | bool value => cases value <;> cases number
  | null | str | array | object => cases number

theorem determined_array {items : List Json}
    (compliant : itemsCompliant items)
    (determined : ∀ item ∈ items, item.Determined floats) :
    (Json.array items).Determined floats := by
  intro other rest rest' compliant' closes closes' same
  have kinds : (Json.array items).kind = other.kind :=
    kind_eq compliant compliant' same
  cases other with
  | array others =>
      rw [text_array, text_array, List.cons_append, List.cons_append,
        List.append_assoc, List.append_assoc] at same
      obtain ⟨items, rfl⟩ := commas_append_inj (by simp)
        (fun _ valid => text_opens valid) determined
        ((itemsCompliant_iff _).mp compliant)
        ((itemsCompliant_iff _).mp compliant') (List.cons.inj same).2
      exact ⟨.array (sameItems_of_forall₂ items), rfl⟩
  | bool other => cases other <;> cases kinds
  | null | int | float | str | object => cases kinds

theorem determined_object {entries : List (String × Json)}
    (compliant : entriesCompliant entries)
    (determined : ∀ entry ∈ entries, entry.2.Determined floats) :
    (Json.object entries).Determined floats := by
  intro other rest rest' compliant' closes closes' same
  have kinds : (Json.object entries).kind = other.kind :=
    kind_eq compliant compliant' same
  cases other with
  | object others =>
      rw [text_object, text_object, List.cons_append, List.cons_append,
        List.append_assoc, List.append_assoc] at same
      have sorted (entries : List (String × Json)) :
          entries.Perm (sortByKey entries) :=
        (List.perm_insertionSort _ entries).symm
      have separate : ∀ entry ∈ sortByKey entries,
          Separate SameEntry (textOfEntry floats)
            (fun entry => entry.2.isCompliant) entry := by
        intro entry member other rest rest' valid closes closes' same
        simp only [textOfEntry, entryText, List.append_assoc,
          List.cons_append] at same
        obtain ⟨keys, tails⟩ := quoted_append_inj same
        obtain ⟨values, rfl⟩ :=
          determined entry ((sorted entries).mem_iff.mpr member) other.2 _ _
            valid closes closes' (List.cons.inj tails).2
        exact ⟨⟨keys, values⟩, rfl⟩
      obtain ⟨matched, rfl⟩ := commas_append_inj (by simp)
        (fun entry _ => textOfEntry_opens entry) separate
        (fun entry member => (entriesCompliant_iff _).mp compliant entry
          ((sorted entries).mem_iff.mpr member))
        (fun entry member => (entriesCompliant_iff _).mp compliant' entry
          ((sorted others).mem_iff.mpr member)) (List.cons.inj same).2
      exact ⟨.object (sorted entries) (sameEntries_of_forall₂ matched)
        (sorted others), rfl⟩
  | bool other => cases other <;> cases kinds
  | null | int | float | str | array => cases kinds

mutual

theorem determined : ∀ value : Json, value.isCompliant →
    value.Determined floats
  | .null, compliant => by
      intro other rest rest' compliant' closes closes' same
      have kinds : Json.null.kind = other.kind :=
        kind_eq compliant compliant' same
      cases other with
      | null => exact ⟨.null, List.append_cancel_left same⟩
      | bool other => cases other <;> cases kinds
      | int | float | str | array | object => cases kinds
  | .bool value, compliant => by
      intro other rest rest' compliant' closes closes' same
      have kinds : (Json.bool value).kind = other.kind :=
        kind_eq compliant compliant' same
      cases other with
      | bool other =>
          obtain rfl : value = other := by
            cases value <;> cases other <;> first | rfl | cases kinds
          exact ⟨.bool value, List.append_cancel_left same⟩
      | null | int | float | str | array | object =>
          cases value <;> cases kinds
  | .int _, compliant => determined_number compliant rfl
  | .float _, compliant => determined_number compliant rfl
  | .str value, compliant => by
      intro other rest rest' compliant' closes closes' same
      have kinds : (Json.str value).kind = other.kind :=
        kind_eq compliant compliant' same
      cases other with
      | str other =>
          obtain ⟨rfl, rfl⟩ := quoted_append_inj same
          exact ⟨.str value, rfl⟩
      | bool other => cases other <;> cases kinds
      | null | int | float | array | object => cases kinds
  | .array items, compliant =>
      determined_array compliant (itemsDetermined items compliant)
  | .object entries, compliant =>
      determined_object compliant (entriesDetermined entries compliant)

theorem itemsDetermined : ∀ items : List Json, itemsCompliant items →
    ∀ item ∈ items, item.Determined floats
  | [], _ => by simp
  | item :: rest, compliant => by
      rw [itemsCompliant, Bool.and_eq_true] at compliant
      rw [List.forall_mem_cons]
      exact ⟨determined item compliant.1, itemsDetermined rest compliant.2⟩

theorem entriesDetermined : ∀ entries : List (String × Json),
    entriesCompliant entries → ∀ entry ∈ entries, entry.2.Determined floats
  | [], _ => by simp
  | (key, value) :: rest, compliant => by
      rw [entriesCompliant, Bool.and_eq_true] at compliant
      rw [List.forall_mem_cons]
      exact ⟨determined value compliant.1, entriesDetermined rest compliant.2⟩

end

/-- A text has one value. -/
theorem same_of_text_eq {left right : Json} (compliant : left.isCompliant)
    (compliant' : right.isCompliant)
    (same : text floats left = text floats right) : left.Same right := by
  have ended : Closes [] := fun _ member => by cases member
  have separate : left.Determined floats := determined left compliant
  refine (separate right [] [] compliant' ended ended ?_).1
  rw [same]

/-! ## The order of entries -/

/-- Entries with different keys are sorted in one way. -/
theorem sortByKey_perm {α : Type} {entries entries' : List (String × α)}
    (unique : (entries.map Prod.fst).Nodup) (same : entries.Perm entries') :
    sortByKey entries = sortByKey entries' := by
  refine List.Perm.eq_of_pairwise ?_ (List.pairwise_insertionSort _ _)
    (List.pairwise_insertionSort _ _) ?_
  · intro left right member member' below above
    rw [sortByKey, List.mem_insertionSort] at member member'
    exact List.inj_on_of_nodup_map unique member (same.mem_iff.mpr member')
      (le_antisymm below above)
  · exact (List.perm_insertionSort _ _).trans
      (same.trans (List.perm_insertionSort _ _).symm)

theorem text_object_of_perm {entries entries' : List (String × Json)}
    (unique : (entries.map Prod.fst).Nodup) (same : entries.Perm entries') :
    text floats (.object entries) = text floats (.object entries') := by
  rw [text_object, text_object, sortByKey_perm unique same]

/-! ## Equal dictionaries have equal lookups -/

mutual

theorem Same.refl : ∀ value : Json, value.Same value
  | .null => .null
  | .bool value => .bool value
  | .int value => .int value
  | .float value => .float value
  | .str value => .str value
  | .array items => .array (SameItems.refl items)
  | .object entries => .object (.refl _) (SameEntries.refl entries) (.refl _)

theorem SameItems.refl : ∀ items : List Json, SameItems items items
  | [] => .nil
  | item :: rest => .cons (Same.refl item) (SameItems.refl rest)

theorem SameEntries.refl : ∀ entries : List (String × Json),
    SameEntries entries entries
  | [] => .nil
  | (_, value) :: rest => .cons (Same.refl value) (SameEntries.refl rest)

end

theorem Same.refl_option (found : Option Json) :
    Option.Rel Same found found := by
  cases found with
  | none => exact .none
  | some value => exact .some (.refl value)

theorem SameEntries.lookup {left right : List (String × Json)} (key : String)
    (same : SameEntries left right) :
    Option.Rel Same (Dict.lookup key left) (Dict.lookup key right) := by
  induction left generalizing right with
  | nil =>
      cases same
      exact .none
  | cons entry left induction =>
      cases same with
      | cons first rest =>
          rw [Dict.lookup, Dict.lookup]
          split_ifs
          · exact .some first
          · exact induction rest

theorem Same.lookup {left right : List (String × Json)}
    (leftUnique : (left.map Prod.fst).Nodup)
    (rightUnique : (right.map Prod.fst).Nodup)
    (same : Same (.object left) (.object right)) (key : String) :
    Option.Rel Same (Dict.lookup key left) (Dict.lookup key right) := by
  cases same with
  | object leftOrder entries rightOrder =>
      rw [Dict.lookup_perm leftUnique leftOrder,
        Dict.lookup_perm rightUnique rightOrder]
      exact entries.lookup key

/-- Dictionaries with equal lookups have the same entries. -/
theorem same_of_lookup {left right : List (String × Json)}
    (leftUnique : (left.map Prod.fst).Nodup)
    (rightUnique : (right.map Prod.fst).Nodup)
    (lookups : ∀ key,
      Option.Rel Same (Dict.lookup key left) (Dict.lookup key right)) :
    Same (.object left) (.object right) := by
  suffices matched : ∃ right', SameEntries left right' ∧ right.Perm right' by
    obtain ⟨right', entries, order⟩ := matched
    exact .object (.refl _) entries order
  induction left generalizing right with
  | nil =>
      have empty : right = [] := by
        refine List.eq_nil_iff_forall_not_mem.mpr fun entry member => ?_
        have found := lookups entry.1
        rw [(Dict.lookup_eq_some_iff rightUnique).mpr member] at found
        cases found
      exact ⟨[], .nil, empty ▸ .refl _⟩
  | cons entry rest induction =>
      obtain ⟨key, value⟩ := entry
      obtain ⟨fresh, restUnique⟩ := List.nodup_cons.mp leftUnique
      have found := lookups key
      rw [Dict.lookup, if_pos rfl] at found
      cases hit : Dict.lookup key right with
      | none =>
          rw [hit] at found
          cases found
      | some other =>
          rw [hit] at found
          obtain ⟨before, after, rfl⟩ := List.append_of_mem
            ((Dict.lookup_eq_some_iff rightUnique).mp hit)
          have order : (before ++ (key, other) :: after).Perm
              ((key, other) :: (before ++ after)) := List.perm_middle
          have unique' := (order.map Prod.fst).nodup_iff.mp rightUnique
          obtain ⟨fresh', restUnique'⟩ := List.nodup_cons.mp unique'
          obtain ⟨right', entries, order'⟩ := induction restUnique
            restUnique' (by
              intro name
              have both := lookups name
              rw [Dict.lookup_perm rightUnique order, Dict.lookup,
                Dict.lookup] at both
              by_cases same : key = name
              · subst name
                rw [Dict.lookup_eq_none_iff.mpr fresh,
                  Dict.lookup_eq_none_iff.mpr fresh']
                exact .none
              · rw [if_neg same, if_neg same] at both
                exact both)
          cases found with
          | some values =>
              exact ⟨(key, other) :: right', .cons values entries,
                order.trans (order'.cons _)⟩

end Json

end RagBench
