import Mathlib.Data.List.Infix
import Mathlib.Tactic.SplitIfs

/-!
# Incremental UTF-8 decoding

A decoder that receives a text in arbitrary byte pieces keeps the bytes of an
unfinished character until the next piece arrives.  The bytes kept are empty
exactly when the pieces so far are the encoding of whole characters.
-/

namespace RagBench

/-- The UTF-8 encoding of a text. -/
def utf8 (chars : List Char) : List UInt8 :=
  chars.flatMap String.utf8EncodeChar

namespace Utf8

/-- What some bytes are, read from the start of a character. -/
inductive Reading where
  | complete (char : Char)
  | incomplete
  | invalid

def isTail (octet : ℕ) : Prop :=
  0x80 ≤ octet ∧ octet ≤ 0xBF

/-- The octets that may follow a first octet of three or four: no overlong
form, no surrogate and nothing above U+10FFFF. -/
def isSecond (first octet : ℕ) : Prop :=
  isTail octet ∧
    (first = 0xE0 → 0xA0 ≤ octet) ∧
    (first = 0xED → octet ≤ 0x9F) ∧
    (first = 0xF0 → 0x90 ≤ octet) ∧
    (first = 0xF4 → octet ≤ 0x8F)

instance (octet : ℕ) : Decidable (isTail octet) :=
  inferInstanceAs (Decidable (_ ∧ _))

instance (first octet : ℕ) : Decidable (isSecond first octet) :=
  inferInstanceAs (Decidable (_ ∧ _))

def readOctets : List ℕ → Reading
  | [] => .incomplete
  | [a] =>
      if a ≤ 0x7F then .complete (Char.ofNat a)
      else if 0xC2 ≤ a ∧ a ≤ 0xF4 then .incomplete
      else .invalid
  | [a, b] =>
      if 0xC2 ≤ a ∧ a ≤ 0xDF ∧ isTail b then
        .complete (Char.ofNat ((a - 0xC0) * 64 + (b - 0x80)))
      else if 0xE0 ≤ a ∧ a ≤ 0xF4 ∧ isSecond a b then .incomplete
      else .invalid
  | [a, b, c] =>
      if 0xE0 ≤ a ∧ a ≤ 0xEF ∧ isSecond a b ∧ isTail c then
        .complete (Char.ofNat
          ((a - 0xE0) * 4096 + (b - 0x80) * 64 + (c - 0x80)))
      else if 0xF0 ≤ a ∧ a ≤ 0xF4 ∧ isSecond a b ∧ isTail c then .incomplete
      else .invalid
  | [a, b, c, d] =>
      if 0xF0 ≤ a ∧ a ≤ 0xF4 ∧ isSecond a b ∧ isTail c ∧ isTail d then
        .complete (Char.ofNat ((a - 0xF0) * 262144 + (b - 0x80) * 4096
          + (c - 0x80) * 64 + (d - 0x80)))
      else .invalid
  | _ => .invalid

def read (bytes : List UInt8) : Reading :=
  readOctets (bytes.map (·.toNat))

/-- The octets of a character, by the number of octets. -/
private theorem octets_utf8EncodeChar (char : Char) :
    (String.utf8EncodeChar char).map (·.toNat) =
      if char.toNat ≤ 0x7F then [char.toNat]
      else if char.toNat ≤ 0x7FF then
        [char.toNat / 64 + 0xC0, char.toNat % 64 + 0x80]
      else if char.toNat ≤ 0xFFFF then
        [char.toNat / 4096 + 0xE0, char.toNat / 64 % 64 + 0x80,
          char.toNat % 64 + 0x80]
      else
        [char.toNat / 262144 + 0xF0, char.toNat / 4096 % 64 + 0x80,
          char.toNat / 64 % 64 + 0x80, char.toNat % 64 + 0x80] := by
  have bound : char.toNat < 0x110000 := by
    rcases char.valid with low | ⟨_, high⟩
    · exact low.trans (by decide)
    · exact high
  have unfolded : char.val.toNat = char.toNat := rfl
  unfold String.utf8EncodeChar
  rw [unfolded]
  dsimp only
  split_ifs with one two three
  · simp
    omega
  · simp
    omega
  · simp
    omega
  · simp
    omega

/-- A code point outside the surrogates. -/
private def isScalar (code : ℕ) : Prop :=
  code < 0xD800 ∨ 0xDFFF < code ∧ code < 0x110000

private theorem isScalar_toNat (char : Char) : isScalar char.toNat :=
  char.valid

private theorem toNat_ofNat {code : ℕ} (scalar : isScalar code) :
    (Char.ofNat code).toNat = code := by
  have valid : code.isValidChar := scalar
  rw [Char.ofNat, dif_pos valid]
  rfl

theorem read_utf8EncodeChar (char : Char) :
    read (String.utf8EncodeChar char) = .complete char := by
  have scalar := isScalar_toNat char
  unfold isScalar at scalar
  have back : ∀ code, code = char.toNat → Char.ofNat code = char := by
    rintro code rfl
    exact Char.ofNat_toNat char
  unfold read
  rw [octets_utf8EncodeChar]
  split_ifs with one two three
  · rw [readOctets, if_pos one, back _ rfl]
  · rw [readOctets, if_pos (by unfold isTail; omega), back _ (by omega)]
  · rw [readOctets, if_pos (by unfold isSecond isTail; omega),
      back _ (by omega)]
  · rw [readOctets, if_pos (by unfold isSecond isTail; omega),
      back _ (by omega)]

/-- A character that is cut off is never mistaken for a wrong one. -/
theorem read_take_utf8EncodeChar (char : Char) {count : ℕ}
    (unfinished : count < (String.utf8EncodeChar char).length) :
    read ((String.utf8EncodeChar char).take count) = .incomplete := by
  have scalar := isScalar_toNat char
  unfold isScalar at scalar
  have octets := octets_utf8EncodeChar char
  rw [← List.length_map (·.toNat), octets] at unfinished
  unfold read
  rw [List.map_take, octets]
  split_ifs at unfinished ⊢ with one two three
  · obtain rfl : count = 0 := by simpa using unfinished
    rfl
  · obtain rfl | rfl : count = 0 ∨ count = 1 := by
      simp at unfinished
      omega
    · rfl
    · simp only [List.take_succ_cons, List.take_zero, readOctets]
      rw [if_neg (by omega), if_pos (by omega)]
  · obtain rfl | rfl | rfl : count = 0 ∨ count = 1 ∨ count = 2 := by
      simp at unfinished
      omega
    · rfl
    · simp only [List.take_succ_cons, List.take_zero, readOctets]
      rw [if_neg (by omega), if_pos (by omega)]
    · simp only [List.take_succ_cons, List.take_zero, readOctets]
      rw [if_neg (by omega), if_pos (by unfold isSecond isTail; omega)]
  · obtain rfl | rfl | rfl | rfl :
        count = 0 ∨ count = 1 ∨ count = 2 ∨ count = 3 := by
      simp at unfinished
      omega
    · rfl
    · simp only [List.take_succ_cons, List.take_zero, readOctets]
      rw [if_neg (by omega), if_pos (by omega)]
    · simp only [List.take_succ_cons, List.take_zero, readOctets]
      rw [if_neg (by omega), if_pos (by unfold isSecond isTail; omega)]
    · simp only [List.take_succ_cons, List.take_zero, readOctets]
      rw [if_neg (by omega), if_pos (by unfold isSecond isTail; omega)]

/-- The octets of the character with a given scalar code. -/
private theorem octets_ofNat {code : ℕ} (scalar : isScalar code) :
    (String.utf8EncodeChar (Char.ofNat code)).map (·.toNat) =
      if code ≤ 0x7F then [code]
      else if code ≤ 0x7FF then [code / 64 + 0xC0, code % 64 + 0x80]
      else if code ≤ 0xFFFF then
        [code / 4096 + 0xE0, code / 64 % 64 + 0x80, code % 64 + 0x80]
      else
        [code / 262144 + 0xF0, code / 4096 % 64 + 0x80,
          code / 64 % 64 + 0x80, code % 64 + 0x80] := by
  rw [octets_utf8EncodeChar, toNat_ofNat scalar]

private theorem octets_of_complete {octets : List ℕ} {char : Char}
    (reading : readOctets octets = .complete char) :
    octets = (String.utf8EncodeChar char).map (·.toNat) := by
  unfold readOctets at reading
  split at reading
  · cases reading
  · rename_i a
    split_ifs at reading with one
    cases reading
    rw [octets_ofNat (by unfold isScalar; omega), if_pos one]
  · rename_i a b
    split_ifs at reading with two
    rw [← Reading.complete.inj reading]
    unfold isTail at two
    rw [octets_ofNat (by unfold isScalar; omega), if_neg (by omega),
      if_pos (by omega)]
    congr 1
    · omega
    · congr 1
      omega
  · rename_i a b c
    split_ifs at reading with three
    rw [← Reading.complete.inj reading]
    unfold isSecond isTail at three
    rw [octets_ofNat (by unfold isScalar; omega), if_neg (by omega),
      if_neg (by omega), if_pos (by omega)]
    simp only [List.cons.injEq, and_true]
    omega
  · rename_i a b c d
    split_ifs at reading with four
    rw [← Reading.complete.inj reading]
    unfold isSecond isTail at four
    rw [octets_ofNat (by unfold isScalar; omega), if_neg (by omega),
      if_neg (by omega), if_neg (by omega)]
    simp only [List.cons.injEq, and_true]
    omega
  · cases reading

theorem read_eq_complete_iff {bytes : List UInt8} {char : Char} :
    read bytes = .complete char ↔ bytes = String.utf8EncodeChar char := by
  constructor
  · intro reading
    have same := octets_of_complete reading
    exact List.map_injective_iff.mpr
      (fun _ _ equal => UInt8.toNat_inj.mp equal) same
  · rintro rfl
    exact read_utf8EncodeChar char

/-- Decode `input` after the bytes `pending` of an unfinished character: the
characters, and the bytes pending afterwards. -/
def decodeFrom (pending : List UInt8) :
    List UInt8 → Option (List Char × List UInt8)
  | [] => some ([], pending)
  | byte :: input =>
      match read (pending ++ [byte]) with
      | .complete char =>
          (decodeFrom [] input).map fun (chars, rest) => (char :: chars, rest)
      | .incomplete => decodeFrom (pending ++ [byte]) input
      | .invalid => none

/-- Decode a whole text. -/
def decode (bytes : List UInt8) : Option (List Char) :=
  match decodeFrom [] bytes with
  | some (chars, []) => some chars
  | _ => none

/-- Decoding in two pieces is decoding at once. -/
theorem decodeFrom_append (pending early late : List UInt8) :
    decodeFrom pending (early ++ late) =
      (decodeFrom pending early).bind fun (chars, rest) =>
        (decodeFrom rest late).map fun (more, last) =>
          (chars ++ more, last) := by
  induction early generalizing pending with
  | nil =>
      cases found : decodeFrom pending late <;> simp [decodeFrom, found]
  | cons byte early induction =>
      simp only [List.cons_append, decodeFrom]
      cases read (pending ++ [byte]) with
      | complete char =>
          simp only [induction]
          cases decodeFrom [] early with
          | none => rfl
          | some result =>
              cases found : decodeFrom result.2 late <;> simp [found]
      | incomplete => exact induction _
      | invalid => rfl

/-- The characters decoded and the bytes pending make up the input. -/
theorem bytes_of_decodeFrom {pending input rest : List UInt8}
    {chars : List Char}
    (decoded : decodeFrom pending input = some (chars, rest)) :
    pending ++ input = utf8 chars ++ rest := by
  induction input generalizing pending chars with
  | nil =>
      cases decoded
      simp [utf8]
  | cons byte input induction =>
      rw [decodeFrom] at decoded
      split at decoded
      · rename_i char reading
        obtain ⟨⟨more, last⟩, found, same⟩ :=
          Option.map_eq_some_iff.mp decoded
        cases same
        have encoded := read_eq_complete_iff.mp reading
        have tail := induction found
        calc pending ++ byte :: input
            = (pending ++ [byte]) ++ input := by simp
          _ = String.utf8EncodeChar char ++ (utf8 more ++ rest) := by
              rw [encoded, ← tail, List.nil_append]
          _ = utf8 (char :: more) ++ rest := by simp [utf8]
      · simpa using induction decoded
      · cases decoded

/-- The rest of a character completes it. -/
private theorem decodeFrom_rest (char : Char) (count : ℕ)
    (unfinished : count < (String.utf8EncodeChar char).length) :
    decodeFrom ((String.utf8EncodeChar char).take count)
        ((String.utf8EncodeChar char).drop count) = some ([char], []) := by
  generalize size : (String.utf8EncodeChar char).length - count = missing
  induction missing generalizing count with
  | zero => omega
  | succ missing induction =>
      have next := List.drop_eq_getElem_cons unfinished
      have longer := List.take_succ_eq_append_getElem unfinished
      rw [next, decodeFrom, ← longer]
      by_cases last : count + 1 = (String.utf8EncodeChar char).length
      · rw [last, List.take_length, List.drop_length, read_utf8EncodeChar]
        rfl
      · rw [read_take_utf8EncodeChar char (by omega)]
        exact induction (count + 1) (by omega) (by omega)

theorem decodeFrom_utf8 (chars : List Char) :
    decodeFrom [] (utf8 chars) = some (chars, []) := by
  induction chars with
  | nil => rfl
  | cons char chars induction =>
      have nonempty : 0 < (String.utf8EncodeChar char).length := by
        rw [String.length_utf8EncodeChar]
        exact Char.utf8Size_pos char
      have first : decodeFrom [] (String.utf8EncodeChar char) =
          some ([char], []) := decodeFrom_rest char 0 nonempty
      rw [utf8, List.flatMap_cons, ← utf8, decodeFrom_append, first]
      simp [induction]

theorem decode_eq_some_iff {bytes : List UInt8} {chars : List Char} :
    decode bytes = some chars ↔ bytes = utf8 chars := by
  unfold decode
  constructor
  · intro decoded
    split at decoded
    · rename_i found
      cases decoded
      simpa using bytes_of_decodeFrom found
    · cases decoded
  · rintro rfl
    rw [decodeFrom_utf8]

theorem utf8_append (early late : List Char) :
    utf8 (early ++ late) = utf8 early ++ utf8 late :=
  List.flatMap_append

theorem utf8_injective : Function.Injective utf8 := by
  intro left right same
  have decoded := decode_eq_some_iff.mpr same
  rw [decode_eq_some_iff.mpr rfl] at decoded
  exact Option.some_inj.mp decoded

/-- The octets below 0x80 stand for themselves. -/
theorem ascii_mem_utf8 {chars : List Char} {byte : UInt8}
    (member : byte ∈ utf8 chars) (ascii : byte.toNat ≤ 0x7F) :
    ∃ char ∈ chars, char.toNat = byte.toNat := by
  obtain ⟨char, inside, encoded⟩ := List.mem_flatMap.mp member
  refine ⟨char, inside, ?_⟩
  have octet := List.mem_map_of_mem (f := (·.toNat)) encoded
  rw [octets_utf8EncodeChar] at octet
  split_ifs at octet
  all_goals
    simp only [List.mem_cons, List.not_mem_nil, or_false] at octet
    omega

/-- A prefix of an encoded text decodes to a prefix of the text. -/
theorem decodeFrom_prefix {chars : List Char} {early late : List UInt8}
    (encoded : utf8 chars = early ++ late) :
    ∃ done rest missing, decodeFrom [] early = some (done, rest) ∧
      chars = done ++ missing := by
  have whole := decodeFrom_utf8 chars
  rw [encoded, decodeFrom_append] at whole
  obtain ⟨⟨done, rest⟩, first, second⟩ := Option.bind_eq_some_iff.mp whole
  obtain ⟨⟨missing, last⟩, _, same⟩ := Option.map_eq_some_iff.mp second
  cases same
  exact ⟨done, rest, missing, first, rfl⟩

/-- A text whose encoding begins with that of another begins with it. -/
theorem append_of_utf8_eq {chars early : List Char} {late : List UInt8}
    (encoded : utf8 chars = utf8 early ++ late) :
    ∃ missing, chars = early ++ missing ∧ late = utf8 missing := by
  obtain ⟨done, rest, missing, decoded, same⟩ := decodeFrom_prefix encoded
  rw [decodeFrom_utf8] at decoded
  cases decoded
  refine ⟨missing, same, ?_⟩
  rw [same, utf8_append] at encoded
  exact (List.append_cancel_left encoded).symm

/-- Nothing is pending exactly at a character boundary. -/
theorem decodeFrom_eq_done_iff {bytes : List UInt8} {chars : List Char} :
    decodeFrom [] bytes = some (chars, []) ↔ bytes = utf8 chars := by
  constructor
  · intro decoded
    simpa using bytes_of_decodeFrom decoded
  · rintro rfl
    exact decodeFrom_utf8 chars

end Utf8

end RagBench
