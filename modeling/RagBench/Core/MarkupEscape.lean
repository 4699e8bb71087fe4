import Mathlib.Data.Bool.AllAny
import RagBench.Core.JsonReader

/-!
# JSON without markup

The characters of markup occur only inside the strings of a JSON text.  There
they can be replaced by their escapes, and the text is read as the same value.
-/

namespace RagBench

/-- `text.replace(old, new)` for a single character. -/
def replaceCharacter (old : Char) (new text : List Char) : List Char :=
  text.flatMap fun character => if character = old then new else [character]

/-- `_safe_json`. -/
def safeJson (value : List Char) : List Char :=
  replaceCharacter '>' ['\\', 'u', '0', '0', '3', 'e']
    (replaceCharacter '<' ['\\', 'u', '0', '0', '3', 'c']
      (replaceCharacter '&' ['\\', 'u', '0', '0', '2', '6'] value))

def isMarkup (character : Char) : Bool :=
  character ∈ ['&', '<', '>']

/-- What becomes of one character. -/
def safeCharacter (character : Char) : List Char :=
  if character = '&' then ['\\', 'u', '0', '0', '2', '6']
  else if character = '<' then ['\\', 'u', '0', '0', '3', 'c']
  else if character = '>' then ['\\', 'u', '0', '0', '3', 'e']
  else [character]

theorem safeJson_eq (text : List Char) :
    safeJson text = text.flatMap safeCharacter := by
  unfold safeJson replaceCharacter
  rw [List.flatMap_assoc, List.flatMap_assoc]
  refine List.flatMap_congr fun character _ => ?_
  unfold safeCharacter
  split_ifs with ampersand less greater
  all_goals simp [*]

theorem safeCharacter_plain {character : Char}
    (plain : isMarkup character = false) :
    safeCharacter character = [character] := by
  simp only [isMarkup, List.mem_cons, List.not_mem_nil, or_false,
    decide_eq_false_iff_not, not_or] at plain
  rw [safeCharacter, if_neg plain.1, if_neg plain.2.1, if_neg plain.2.2]

@[simp] theorem safeJson_nil : safeJson [] = [] :=
  rfl

theorem safeJson_cons (character : Char) (rest : List Char) :
    safeJson (character :: rest) = safeCharacter character ++ safeJson rest := by
  rw [safeJson_eq, safeJson_eq, List.flatMap_cons]

theorem safeJson_plain {character : Char}
    (plain : isMarkup character = false) (rest : List Char) :
    safeJson (character :: rest) = character :: safeJson rest := by
  rw [safeJson_cons, safeCharacter_plain plain, List.singleton_append]

theorem length_le_safeJson (text : List Char) :
    text.length ≤ (safeJson text).length := by
  induction text with
  | nil => exact le_rfl
  | cons character rest induction =>
      have one : 1 ≤ (safeCharacter character).length := by
        unfold safeCharacter
        split_ifs <;> simp
      rw [safeJson_cons, List.length_append, List.length_cons]
      omega

/-- A new character is part of an escape. -/
theorem mem_safeCharacter {original character : Char}
    (inside : character ∈ safeCharacter original) :
    character = original ∧ isMarkup original = false ∨
      character ∈ ['\\', 'u', '0', '2', '3', '6', 'c', 'e'] := by
  unfold safeCharacter at inside
  split_ifs at inside with ampersand less greater
  · simp only [List.mem_cons, List.not_mem_nil, or_false] at inside ⊢
    tauto
  · simp only [List.mem_cons, List.not_mem_nil, or_false] at inside ⊢
    tauto
  · simp only [List.mem_cons, List.not_mem_nil, or_false] at inside ⊢
    tauto
  · exact .inl ⟨List.mem_singleton.mp inside,
      by simp [isMarkup, ampersand, less, greater]⟩

/-- No markup is left. -/
theorem not_isMarkup_of_mem {text : List Char} {character : Char}
    (member : character ∈ safeJson text) : isMarkup character = false := by
  have plain : ∀ character ∈ ['\\', 'u', '0', '2', '3', '6', 'c', 'e'],
      isMarkup character = false :=
    List.all_iff_forall_prop.mp (by decide)
  rw [safeJson_eq, List.mem_flatMap] at member
  obtain ⟨original, -, inside⟩ := member
  rcases mem_safeCharacter inside with ⟨rfl, same⟩ | escape
  · exact same
  · exact plain character escape

theorem mem_of_mem_safeJson {text : List Char} {character : Char}
    (member : character ∈ safeJson text) :
    character ∈ text ∨
      character ∈ ['\\', 'u', '0', '2', '3', '6', 'c', 'e'] := by
  rw [safeJson_eq, List.mem_flatMap] at member
  obtain ⟨original, inText, inside⟩ := member
  rcases mem_safeCharacter inside with ⟨rfl, -⟩ | escape
  · exact .inl inText
  · exact .inr escape

/-- What starts without a backslash started so before. -/
theorem prefix_of_safeJson (lead : List Char) {text rest : List Char}
    (plain : '\\' ∉ lead) (starts : safeJson text = lead ++ rest) :
    ∃ tail, text = lead ++ tail := by
  induction lead generalizing text with
  | nil => exact ⟨text, rfl⟩
  | cons first lead induction =>
      rw [List.mem_cons, not_or] at plain
      cases text with
      | nil => cases starts
      | cons character text =>
          have same : isMarkup character = false := by
            by_contra markup
            rw [Bool.not_eq_false] at markup
            have backslash : (safeCharacter character).head? = some '\\' := by
              simp only [isMarkup, List.mem_cons, List.not_mem_nil, or_false,
                decide_eq_true_eq] at markup
              rcases markup with rfl | rfl | rfl <;> rfl
            have heads := congrArg List.head? starts
            rw [safeJson_cons, List.head?_append, backslash] at heads
            exact plain.1 (Option.some_inj.mp heads)
          rw [safeJson_plain same, List.cons_append] at starts
          obtain ⟨head, others⟩ := List.cons.inj starts
          obtain ⟨tail, rfl⟩ := induction plain.2 others
          exact ⟨tail, by rw [head, List.cons_append]⟩

namespace JsonReader

/-! ## Reading escaped markup -/

theorem skipSpace_safeJson (text : List Char) :
    skipSpace (safeJson text) = safeJson (skipSpace text) := by
  induction text with
  | nil => rfl
  | cons character rest induction =>
      by_cases space : character ∈ [' ', '\t', '\n', '\r']
      · have plain : isMarkup character = false := by
          revert character
          exact List.all_iff_forall_prop.mp (by decide)
        rw [safeJson_plain plain, skipSpace, List.dropWhile_cons_of_pos
            (by simpa using space), skipSpace, List.dropWhile_cons_of_pos
            (by simpa using space)]
        exact induction
      · rw [skipSpace_cons rest space]
        by_cases markup : isMarkup character = true
        · have escape : ∃ tail, safeJson (character :: rest) = '\\' :: tail := by
            rw [safeJson_cons]
            simp only [isMarkup, List.mem_cons, List.not_mem_nil, or_false,
              decide_eq_true_eq] at markup
            rcases markup with rfl | rfl | rfl <;> exact ⟨_, rfl⟩
          obtain ⟨tail, begins⟩ := escape
          rw [begins, skipSpace_cons _ (by decide)]
        · rw [safeJson_plain (Bool.not_eq_true _ ▸ markup),
            skipSpace_cons _ space]

theorem plain_of_hexDigit {character : Char} {value : ℕ}
    (digit : hexDigit character = some value) :
    isMarkup character = false := by
  have none : ∀ character ∈ ['&', '<', '>'], hexDigit character = none := by
    exact List.all_iff_forall_prop.mp (by decide)
  by_contra markup
  rw [Bool.not_eq_false, isMarkup, decide_eq_true_eq] at markup
  rw [none character markup] at digit
  cases digit

theorem readHex_safeJson {text rest : List Char} {code : ℕ}
    (read : readHex text = some (code, rest)) :
    readHex (safeJson text) = some (code, safeJson rest) := by
  unfold readHex at read
  split at read
  · rename_i first second third fourth tail
    simp only [Option.bind_eq_bind, Option.bind_eq_some_iff] at read
    obtain ⟨one, oneDigit, two, twoDigit, three, threeDigit, four, fourDigit,
      same⟩ := read
    obtain ⟨rfl, rfl⟩ := Prod.mk.inj (Option.some_inj.mp same)
    rw [safeJson_plain (plain_of_hexDigit oneDigit),
      safeJson_plain (plain_of_hexDigit twoDigit),
      safeJson_plain (plain_of_hexDigit threeDigit),
      safeJson_plain (plain_of_hexDigit fourDigit), readHex, oneDigit,
      twoDigit, threeDigit, fourDigit]
    rfl
  · cases read

theorem readEscape_safeJson {text rest : List Char} {character : Char}
    (read : readEscape text = some (character, rest)) :
    readEscape (safeJson text) = some (character, safeJson rest) := by
  unfold readEscape at read
  split at read
  · rename_i tail
    obtain ⟨⟨code, others⟩, hex, read⟩ := Option.bind_eq_some_iff.mp read
    rw [safeJson_plain (by decide), readEscape, readHex_safeJson hex]
    simp only [Option.bind_eq_bind, Option.bind_some] at read ⊢
    split_ifs at read ⊢ with high low
    · split at read
      · rename_i more
        obtain ⟨⟨pair, others⟩, hex', read⟩ := Option.bind_eq_some_iff.mp read
        rw [safeJson_plain (by decide), safeJson_plain (by decide)]
        simp only [readHex_safeJson hex', Option.bind_some]
        split_ifs at read ⊢
        obtain ⟨rfl, rfl⟩ := Prod.mk.inj (Option.some_inj.mp read)
        rfl
      · cases read
    · obtain ⟨rfl, rfl⟩ := Prod.mk.inj (Option.some_inj.mp read)
      rfl
  all_goals cases read
  all_goals
    rw [safeJson_plain (by decide)]
    rfl

/-- A string is read as before. -/
theorem readString_safeJson {fuel : ℕ} {text characters rest : List Char}
    (read : readString fuel text = some (characters, rest)) :
    readString fuel (safeJson text) = some (characters, safeJson rest) := by
  induction fuel generalizing text characters with
  | zero => cases read
  | succ fuel induction =>
      cases text with
      | nil => cases read
      | cons character text =>
          rw [readString] at read
          split_ifs at read with quote backslash control
          · obtain ⟨rfl, rfl⟩ := Prod.mk.inj (Option.some_inj.mp read)
            rw [quote, safeJson_plain (by decide), readString, if_pos rfl]
          · obtain ⟨⟨first, tail⟩, escape, read⟩ :=
              Option.bind_eq_some_iff.mp read
            obtain ⟨⟨others, tail'⟩, more, read⟩ :=
              Option.bind_eq_some_iff.mp read
            obtain ⟨rfl, rfl⟩ := Prod.mk.inj (Option.some_inj.mp read)
            rw [backslash, safeJson_plain (by decide), readString,
              if_neg (by decide), if_pos rfl, readEscape_safeJson escape]
            change (readString fuel (safeJson tail)).bind _ = _
            rw [induction more]
            rfl
          · obtain ⟨⟨others, tail⟩, more, read⟩ :=
              Option.bind_eq_some_iff.mp read
            obtain ⟨rfl, rfl⟩ := Prod.mk.inj (Option.some_inj.mp read)
            have next := induction more
            by_cases markup : character ∈ ['&', '<', '>']
            · have escaped : readString (fuel + 1)
                  (safeCharacter character ++ safeJson text) =
                    (readString fuel (safeJson text)).bind fun read =>
                      some (character :: read.1, read.2) := by
                simp only [List.mem_cons, List.not_mem_nil, or_false] at markup
                rcases markup with rfl | rfl | rfl <;> rfl
              rw [safeJson_cons, escaped, next]
              rfl
            · rw [safeJson_plain (decide_eq_false markup), readString,
                if_neg quote, if_neg backslash, if_neg control, next]
              rfl

section Values

variable {floats : FloatText} {reader : FloatReader floats}

theorem readNumber_safeJson {text rest : List Char} {value : Json}
    (read : readNumber reader text = some (value, rest)) :
    readNumber reader (safeJson text) = some (value, safeJson rest) := by
  have parts : (safeJson text).takeWhile isNumberPart =
        text.takeWhile isNumberPart ∧
      (safeJson text).dropWhile isNumberPart =
        safeJson (text.dropWhile isNumberPart) := by
    clear read
    induction text with
    | nil => exact ⟨rfl, rfl⟩
    | cons character text induction =>
        by_cases markup : character ∈ ['&', '<', '>']
        · simp only [List.mem_cons, List.not_mem_nil, or_false] at markup
          rcases markup with rfl | rfl | rfl <;> exact ⟨rfl, rfl⟩
        · rw [safeJson_plain (decide_eq_false markup), List.takeWhile_cons,
            List.takeWhile_cons, List.dropWhile_cons, List.dropWhile_cons]
          split_ifs
          · exact ⟨congrArg _ induction.1, induction.2⟩
          · exact ⟨rfl, (safeJson_plain (decide_eq_false markup) _).symm⟩
  rw [readNumber, parts.1, parts.2]
  rw [readNumber] at read
  split at read
  · rename_i number found
    cases read
    rfl
  · obtain ⟨number, found, same⟩ := Option.map_eq_some_iff.mp read
    cases same
    rw [found]
    rfl

/-- With this fuel, values are read as before. -/
structure ReadsSafely (reader : FloatReader floats) (fuel : ℕ) : Prop where
  value : ∀ {text value rest}, readValue reader fuel text = some (value, rest) →
    readValue reader fuel (safeJson text) = some (value, safeJson rest)
  items : ∀ {text items rest}, readItems reader fuel text = some (items, rest) →
    readItems reader fuel (safeJson text) = some (items, safeJson rest)
  entries : ∀ {text entries rest},
    readEntries reader fuel text = some (entries, rest) →
      readEntries reader fuel (safeJson text) = some (entries, safeJson rest)

namespace ReadsSafely

variable {fuel : ℕ} (safely : ReadsSafely reader fuel)

include safely

theorem readValue_succ {text rest : List Char} {value : Json}
    (read : readValue reader (fuel + 1) text = some (value, rest)) :
    readValue reader (fuel + 1) (safeJson text) =
      some (value, safeJson rest) := by
  unfold readValue at read
  split at read
  · cases read
    rfl
  · cases read
    rfl
  · cases read
    rfl
  · cases read
    rfl
  · cases read
    rfl
  · cases read
    rfl
  · obtain ⟨⟨characters, tail⟩, string, read⟩ :=
      Option.bind_eq_some_iff.mp read
    cases read
    rw [safeJson_plain (by decide), readValue, readString_safeJson string]
    rfl
  · rename_i tail
    rw [safeJson_plain (by decide), readValue, skipSpace_safeJson]
    split at read
    · rename_i closed
      cases read
      rw [closed]
      rfl
    · rename_i opened
      obtain ⟨⟨items, others⟩, list, read⟩ := Option.bind_eq_some_iff.mp read
      cases read
      split
      · rename_i more same
        obtain ⟨tail', closed⟩ := prefix_of_safeJson [']'] (by decide) same
        exact absurd closed (opened tail')
      · rw [safely.items list]
        rfl
  · rename_i tail
    rw [safeJson_plain (by decide), readValue, skipSpace_safeJson]
    split at read
    · rename_i closed
      cases read
      rw [closed]
      rfl
    · rename_i opened
      obtain ⟨⟨entries, others⟩, list, read⟩ :=
        Option.bind_eq_some_iff.mp read
      cases read
      split
      · rename_i more same
        obtain ⟨tail', closed⟩ := prefix_of_safeJson ['}'] (by decide) same
        exact absurd closed (opened tail')
      · rw [safely.entries list]
        rfl
  · rename_i null true_ false_ nan infinity negative string array object
    rw [readValue]
    · exact readNumber_safeJson read
    · intro tail same
      exact (prefix_of_safeJson ['n', 'u', 'l', 'l'] (by decide)
        same).elim null
    · intro tail same
      exact (prefix_of_safeJson ['t', 'r', 'u', 'e'] (by decide)
        same).elim true_
    · intro tail same
      exact (prefix_of_safeJson ['f', 'a', 'l', 's', 'e'] (by decide)
        same).elim false_
    · intro tail same
      exact (prefix_of_safeJson ['N', 'a', 'N'] (by decide) same).elim nan
    · intro tail same
      exact (prefix_of_safeJson ['I', 'n', 'f', 'i', 'n', 'i', 't', 'y']
        (by decide) same).elim infinity
    · intro tail same
      exact (prefix_of_safeJson ['-', 'I', 'n', 'f', 'i', 'n', 'i', 't', 'y']
        (by decide) same).elim negative
    · intro tail same
      exact (prefix_of_safeJson ['"'] (by decide) same).elim string
    · intro tail same
      exact (prefix_of_safeJson ['['] (by decide) same).elim array
    · intro tail same
      exact (prefix_of_safeJson ['{'] (by decide) same).elim object

theorem readItems_succ {text rest : List Char} {items : List Json}
    (read : readItems reader (fuel + 1) text = some (items, rest)) :
    readItems reader (fuel + 1) (safeJson text) =
      some (items, safeJson rest) := by
  obtain ⟨⟨item, tail⟩, first, read⟩ := Option.bind_eq_some_iff.mp read
  rw [readItems, skipSpace_safeJson, safely.value first]
  simp only [Option.bind_eq_bind, Option.bind_some]
  rw [skipSpace_safeJson]
  dsimp only at read
  split at read
  · rename_i more separated
    obtain ⟨⟨others, tail'⟩, list, read⟩ := Option.bind_eq_some_iff.mp read
    cases read
    rw [separated, safeJson_plain (by decide)]
    change (readItems reader fuel (safeJson more)).bind _ = _
    rw [safely.items list]
    rfl
  · rename_i closed
    cases read
    rw [closed, safeJson_plain (by decide)]
    rfl
  · cases read

theorem readEntries_succ {text rest : List Char}
    {entries : List (String × Json)}
    (read : readEntries reader (fuel + 1) text = some (entries, rest)) :
    readEntries reader (fuel + 1) (safeJson text) =
      some (entries, safeJson rest) := by
  rw [readEntries] at read ⊢
  rw [skipSpace_safeJson]
  split at read
  · rename_i tail quoted
    obtain ⟨⟨key, tail'⟩, string, read⟩ := Option.bind_eq_some_iff.mp read
    rw [quoted, safeJson_plain (by decide)]
    change (readString fuel (safeJson tail)).bind _ = _
    rw [readString_safeJson string, Option.bind_some]
    dsimp only at read ⊢
    rw [skipSpace_safeJson]
    split at read
    · rename_i tail'' colon
      obtain ⟨⟨value, tail₃⟩, value', read⟩ := Option.bind_eq_some_iff.mp read
      rw [colon, safeJson_plain (by decide)]
      change (readValue reader fuel (skipSpace (safeJson tail''))).bind _ = _
      rw [skipSpace_safeJson, safely.value value', Option.bind_some]
      dsimp only at read ⊢
      rw [skipSpace_safeJson]
      split at read
      · rename_i more separated
        obtain ⟨⟨others, tail₄⟩, list, read⟩ :=
          Option.bind_eq_some_iff.mp read
        cases read
        rw [separated, safeJson_plain (by decide)]
        change (readEntries reader fuel (safeJson more)).bind _ = _
        rw [safely.entries list]
        rfl
      · rename_i closed
        cases read
        rw [closed, safeJson_plain (by decide)]
        rfl
      · cases read
    · cases read
  · cases read

end ReadsSafely

/-- Outside strings there is no markup. -/
theorem readsSafely (fuel : ℕ) : ReadsSafely reader fuel := by
  induction fuel with
  | zero =>
      exact ⟨fun read => (nomatch read), fun read => (nomatch read),
        fun read => (nomatch read)⟩
  | succ fuel induction =>
      exact ⟨induction.readValue_succ, induction.readItems_succ,
        induction.readEntries_succ⟩

/-- What `json.dumps` wrote is read back after its markup was escaped. -/
theorem loads_safeJson {value : Json} (compliant : value.isCompliant)
    (unique : value.UniqueKeys) :
    loads reader (safeJson (Json.text floats value)) = some value.sorted := by
  rw [text_eq_laidOut value compliant]
  have skipped := @skipSpace_laidOut floats [] value.sorted []
  rw [List.append_nil] at skipped
  have enough : (Json.laidOut [] floats value.sorted).length ≤
      (safeJson (Json.laidOut [] floats value.sorted)).length + 1 :=
    (length_le_safeJson _).trans (Nat.le_succ _)
  have read := @readable floats reader [] (List.forall_mem_nil _) value.sorted
    (Json.uniqueKeys_sorted value unique) _ [] enough
    (fun _ none => nomatch none)
  rw [List.append_nil] at read
  rw [loads, skipSpace_safeJson, skipped, (readsSafely _).value read]
  rfl

end Values

end JsonReader

end RagBench
