import RagBench.Core.JsonText
import RagBench.Ingestion.ChunkContent

/-!
# Where HTML ids are renumbered

The pattern is searched in the text, whatever tag, attribute or sentence it
stands in.  Its places do not overlap and a rewritten place is a place again,
so a text falls into pieces that every offset shares.
-/

namespace RagBench

/-- What `\d` matches and `int` reads. -/
structure Platform.ReadsDigits (platform : Platform) : Prop where
  letter : platform.isDigit 'i' = false
  quotes : ∀ quote, quote = '\'' ∨ quote = '"' →
    platform.isDigit quote = false
  ascii : ∀ character : Char, character.isDigit = true →
    platform.isDigit character = true
  nonnegative : ∀ digits number,
    (∀ digit ∈ digits, platform.isDigit digit = true) →
      platform.parseInt (String.ofList digits) = some number → 0 ≤ number
  decimal : ∀ (number : ℕ) read,
    platform.parseInt (toString number) = some read → read = number

/-- A character, or a place of `\bid=(['"])(\d+)\1`. -/
inductive HtmlPiece where
  | other (character : Char)
  | id (quote : Char) (digits : List Char)

namespace HtmlPiece

def text : HtmlPiece → List Char
  | .other character => [character]
  | .id quote digits => ['i', 'd', '=', quote] ++ digits ++ [quote]

def join (pieces : List HtmlPiece) : List Char :=
  pieces.flatMap text

/-- The piece with the number moved. -/
def shift (platform : Platform) (offset : ℤ) :
    HtmlPiece → Except PyException HtmlPiece
  | .other character => .ok (.other character)
  | .id quote digits =>
      match platform.parseInt (String.ofList digits) with
      | some number => .ok (.id quote (toString (number + offset)).toList)
      | none => .error (.valueError "invalid literal for int() with base 10")

end HtmlPiece

/-- A quoted decimal number after an `id=` that begins at a word boundary. -/
structure IdAt (platform : Platform) (previous : Option Char) (quote : Char)
    (digits : List Char) : Prop where
  boundary : (previous.map platform.isWordCharacter).getD false = false
  quoted : quote = '\'' ∨ quote = '"'
  nonempty : digits ≠ []
  decimal : ∀ digit ∈ digits, platform.isDigit digit = true

/-- The pieces are those that the search finds in their text. -/
def Scanned (platform : Platform) :
    Option Char → List HtmlPiece → Prop
  | _, [] => True
  | previous, .other character :: rest =>
      matchIdAttribute platform previous
          (character :: HtmlPiece.join rest) = none ∧
        Scanned platform (some character) rest
  | previous, .id quote digits :: rest =>
      IdAt platform previous quote digits ∧
        Scanned platform (some quote) rest

variable {platform : Platform}

/-! ## One place -/

theorem digitsOf_digits (text : List Char) :
    ∀ digit ∈ (digitsOf platform text).1, platform.isDigit digit = true := by
  induction text with
  | nil => exact List.forall_mem_nil _
  | cons first text induction =>
      rw [digitsOf]
      split_ifs with digit
      · exact List.forall_mem_cons.mpr ⟨digit, induction⟩
      · exact List.forall_mem_nil _

theorem digitsOf_run {digits : List Char}
    (decimal : ∀ digit ∈ digits, platform.isDigit digit = true)
    {stop : Char} (stops : platform.isDigit stop = false)
    (after : List Char) :
    digitsOf platform (digits ++ stop :: after) = (digits, stop :: after) := by
  induction digits with
  | nil => rw [List.nil_append, digitsOf, if_neg (by simp [stops])]
  | cons first digits induction =>
      obtain ⟨digit, decimal⟩ := List.forall_mem_cons.mp decimal
      rw [List.cons_append, digitsOf, if_pos digit, induction decimal]

/-- What the pattern matches. -/
theorem matchIdAttribute_eq_some (reads : platform.ReadsDigits)
    {previous : Option Char} {text : List Char} {quote : Char}
    {digits : List Char} :
    matchIdAttribute platform previous text = some (quote, digits) ↔
      IdAt platform previous quote digits ∧
        ∃ after, text = (HtmlPiece.id quote digits).text ++ after := by
  constructor
  · intro found
    unfold matchIdAttribute at found
    split at found
    · next quote' rest =>
        dsimp only at found
        split_ifs at found with matched
        obtain ⟨boundary, quoted, nonempty, closed⟩ := matched
        obtain ⟨rfl, rfl⟩ := Prod.mk.inj (Option.some.inj found)
        obtain ⟨after, closes⟩ := List.head?_eq_some_iff.mp closed
        refine ⟨⟨boundary, quoted, nonempty, digitsOf_digits rest⟩, after, ?_⟩
        have whole := digitsOf_split platform rest
        rw [closes] at whole
        simp only [HtmlPiece.text, List.cons_append, List.nil_append,
          List.append_assoc, whole]
    · cases found
  · rintro ⟨⟨boundary, quoted, nonempty, decimal⟩, after, rfl⟩
    have run := digitsOf_run decimal (reads.quotes quote quoted) after
    simp only [HtmlPiece.text, List.cons_append, List.nil_append,
      List.append_assoc, matchIdAttribute, run]
    exact if_pos ⟨boundary, quoted, nonempty, rfl⟩

/-- After its first letter a place has no `i`. -/
theorem letter_notMem_place (reads : platform.ReadsDigits)
    {previous : Option Char} {quote : Char} {digits : List Char}
    (place : IdAt platform previous quote digits) :
    'i' ∉ ['d', '=', quote] ++ digits ++ [quote] := by
  have other : 'i' ≠ quote := by
    rcases place.quoted with rfl | rfl <;> decide
  have outside : 'i' ∉ digits := fun member => by
    have digit := place.decimal _ member
    rw [reads.letter] at digit
    cases digit
  simp [other, outside]

/-- Equal texts of places that go on differently are equal places. -/
theorem place_inj (reads : platform.ReadsDigits)
    {previous previous' : Option Char} {quote quote' : Char}
    {digits digits' : List Char} {after after' : List Char}
    (place : IdAt platform previous quote digits)
    (place' : IdAt platform previous' quote' digits')
    (same : (HtmlPiece.id quote digits).text ++ after =
      (HtmlPiece.id quote' digits').text ++ after') :
    quote = quote' ∧ digits = digits' ∧ after = after' := by
  simp only [HtmlPiece.text, List.cons_append, List.nil_append,
    List.append_assoc, List.cons.injEq, true_and] at same
  obtain ⟨rfl, same⟩ := same
  have stops := reads.quotes quote place.quoted
  have run := digitsOf_run place.decimal stops after
  rw [same, digitsOf_run place'.decimal stops after'] at run
  obtain ⟨rfl, rest⟩ := Prod.mk.inj run
  exact ⟨rfl, rfl, (List.cons.inj rest).2.symm⟩

/-! ## The pieces of a text -/

open HtmlPiece

theorem join_cons (piece : HtmlPiece) (pieces : List HtmlPiece) :
    join (piece :: pieces) = piece.text ++ join pieces :=
  List.flatMap_cons

theorem join_append (left right : List HtmlPiece) :
    join (left ++ right) = join left ++ join right :=
  List.flatMap_append

/-- A text is scanned in one way. -/
theorem Scanned.unique (reads : platform.ReadsDigits)
    {pieces others : List HtmlPiece} {previous : Option Char}
    (scanned : Scanned platform previous pieces)
    (scanned' : Scanned platform previous others)
    (same : join pieces = join others) : pieces = others := by
  induction pieces generalizing others previous with
  | nil =>
      cases others with
      | nil => rfl
      | cons other others =>
          cases other <;> simp [join, text] at same
  | cons piece pieces induction =>
      cases others with
      | nil => cases piece <;> simp [join, text] at same
      | cons other others =>
          rw [join_cons, join_cons] at same
          cases piece with
          | other character =>
              cases other with
              | other character' =>
                  obtain ⟨rfl, rest⟩ := List.cons.inj same
                  rw [induction scanned.2 scanned'.2 rest]
              | id quote digits =>
                  have found := (matchIdAttribute_eq_some reads).mpr
                    ⟨scanned'.1, _, same⟩
                  exact absurd (scanned.1.symm.trans found) (by simp)
          | id quote digits =>
              cases other with
              | other character =>
                  have found := (matchIdAttribute_eq_some reads).mpr
                    ⟨scanned.1, _, same.symm⟩
                  exact absurd (scanned'.1.symm.trans found) (by simp)
              | id quote' digits' =>
                  obtain ⟨rfl, rfl, rest⟩ :=
                    place_inj reads scanned.1 scanned'.1 same
                  rw [induction scanned.2 scanned'.2 rest]

/-- The same character, or the same place with another number. -/
inductive HtmlPiece.Moved (platform : Platform) : HtmlPiece → HtmlPiece → Prop
  | other (character : Char) : Moved platform (.other character)
      (.other character)
  | id (quote : Char) (digits moved : List Char) (nonempty : moved ≠ [])
      (decimal : ∀ digit ∈ moved, platform.isDigit digit = true) :
      Moved platform (.id quote digits) (.id quote moved)

/-- A word without an `i` has no part in a place. -/
private theorem join_word {word : List Char} (plain : 'i' ∉ word)
    {pieces moved : List HtmlPiece}
    (same : List.Forall₂ (Moved platform) pieces moved) {after : List Char}
    (joined : join moved = word ++ after) :
    ∃ after', join pieces = word ++ after' := by
  induction word generalizing pieces moved with
  | nil => exact ⟨_, rfl⟩
  | cons first word induction =>
      rw [List.mem_cons, not_or] at plain
      cases same with
      | nil => cases joined
      | cons head rest =>
          rw [join_cons] at joined
          cases head with
          | other character =>
              obtain ⟨rfl, later⟩ := List.cons.inj joined
              obtain ⟨after', found⟩ := induction plain.2 rest later
              exact ⟨after', by rw [join_cons, found]; rfl⟩
          | id quote digits moved =>
              exact absurd (List.cons.inj joined).1 plain.1

theorem Scanned.moved (reads : platform.ReadsDigits)
    {pieces moved : List HtmlPiece} {previous : Option Char}
    (scanned : Scanned platform previous pieces)
    (same : List.Forall₂ (Moved platform) pieces moved) :
    Scanned platform previous moved := by
  induction same generalizing previous with
  | nil => trivial
  | cons head rest induction =>
      cases head with
      | other character =>
          refine ⟨Option.eq_none_iff_forall_ne_some.mpr ?_,
            induction scanned.2⟩
          rintro ⟨quote, digits⟩ found
          obtain ⟨place, after, text⟩ := (matchIdAttribute_eq_some reads).mp found
          -- The place would have been one before the numbers moved.
          obtain ⟨rfl, joined⟩ := List.cons.inj text
          obtain ⟨after', before⟩ :=
            join_word (letter_notMem_place reads place) rest joined
          have earlier := (matchIdAttribute_eq_some reads).mpr
            ⟨place, after', congrArg (List.cons 'i') before⟩
          exact absurd (scanned.1.symm.trans earlier) (by simp)
      | id quote digits moved nonempty decimal =>
          exact ⟨⟨scanned.1.boundary, scanned.1.quoted, nonempty, decimal⟩,
            induction scanned.2⟩

end RagBench
