import RagBench.Chunking.HeadingCoverage
import RagBench.Core.JsonPatterns
import RagBench.Providers.Messages

/-!
# Special tokens

The tokenizer refuses a text that spells one of its special tokens.  A text in
which every angle bracket opens a name spells none, and neither does a JSON text
whose strings spell none.
-/

namespace RagBench

/-- The texts of `_SPECIAL_TOKENS`. -/
def specialTokens : List String :=
  ["<|endoftext|>", "<|fim_prefix|>", "<|fim_middle|>", "<|fim_suffix|>",
    "<|endofprompt|>"]

/-- No special token is spelled. -/
def SpellsNone (text : List Char) : Prop :=
  ∀ token ∈ specialTokens, ¬ token.toList <:+: text

instance (text : List Char) : Decidable (SpellsNone text) :=
  inferInstanceAs (Decidable (∀ token ∈ specialTokens,
    ¬ token.toList <:+: text))

theorem isTag_of_special {token : String} (special : token ∈ specialTokens) :
    IsTag token.toList := by
  have each : ∀ token ∈ specialTokens,
      token.toList.head? = some '<' ∧
        token.toList.all (fun character => !isJoint character) = true ∧
          (token.toList.all fun character => 32 ≤ character.toNat) =
            true := by
    decide +kernel
  obtain ⟨opens, plain, printable⟩ := each token special
  refine ⟨opens, fun character member => ?_, fun character member => ?_⟩
  · simpa using List.all_eq_true.mp plain character member
  · exact of_decide_eq_true (List.all_eq_true.mp printable character member)

/-! ## What `tiktoken` documents -/

/-- A text with a special token is refused; another one is cut into tokens
that make it up. -/
structure Encoding.Documented (encoding : Encoding) : Prop where
  refuses : ∀ text : String, ¬ SpellsNone text.toList →
    ∃ message, encoding.encode text = .error (.valueError message)
  encodes : ∀ text : String, SpellsNone text.toList →
    ∃ tokens pieces, Tokenization encoding text tokens pieces

theorem Encoding.Documented.encode_ok_iff {encoding : Encoding}
    (documented : encoding.Documented) (text : String) :
    (∃ tokens, encoding.encode text = .ok tokens) ↔
      SpellsNone text.toList := by
  constructor
  · rintro ⟨tokens, encoded⟩
    by_contra spelled
    obtain ⟨message, refused⟩ := documented.refuses text spelled
    rw [refused] at encoded
    cases encoded
  · intro none
    obtain ⟨tokens, pieces, tokenization⟩ := documented.encodes text none
    exact ⟨tokens, tokenization.encode⟩

/-- The windows of a text are cut exactly when the text spells no special
token. -/
theorem Encoding.Documented.safeTokenWindows_ok_iff {encoding : Encoding}
    (documented : encoding.Documented) {size overlap : ℤ}
    (nonnegative : 0 ≤ overlap) (smaller : overlap < size) (text : String) :
    (∃ windows, safeTokenWindows encoding text size overlap = .ok windows) ↔
      SpellsNone text.toList := by
  constructor
  · rintro ⟨windows, cut⟩
    have valid : ¬(size ≤ 0 ∨ overlap < 0 ∨ size ≤ overlap) := by omega
    refine (documented.encode_ok_iff text).mp ?_
    unfold safeTokenWindows at cut
    rw [if_neg valid] at cut
    obtain ⟨tokens, encoded, -⟩ := bind_eq_ok.mp cut
    exact ⟨tokens, encoded⟩
  · intro none
    obtain ⟨tokens, pieces, tokenization⟩ := documented.encodes text none
    obtain ⟨windows, cut, -⟩ := safe_token_windows_cover_text encoding text
      tokens pieces size overlap tokenization nonnegative smaller
    exact ⟨windows, cut⟩

/-- A token for each character, and none for a special text. -/
def guardedEncoding : Encoding :=
  { charEncoding with
    encode := fun text =>
      if SpellsNone text.toList then charEncoding.encode text
      else .error (.valueError "disallowed special token") }

theorem guardedEncoding_documented : guardedEncoding.Documented where
  refuses := fun _ spelled => ⟨_, if_neg spelled⟩
  encodes := fun text none =>
    ⟨_, _,
      { encode := if_pos none
        decode := (charTokenization text).decode
        nonempty := (charTokenization text).nonempty
        encoded := (charTokenization text).encoded }⟩

/-- Half a special token is cut, a whole one is not. -/
theorem special_token_uncut :
    (∃ windows, safeTokenWindows guardedEncoding "<|endof" 300 50 =
        .ok windows) ∧
      ¬ ∃ windows, safeTokenWindows guardedEncoding "a<|endoftext|>" 300 50 =
        .ok windows := by
  constructor
  · rw [guardedEncoding_documented.safeTokenWindows_ok_iff (by decide)
      (by decide)]
    decide +kernel
  · rw [guardedEncoding_documented.safeTokenWindows_ok_iff (by decide)
      (by decide)]
    decide +kernel

/-! ## Counting tokens -/

/-- `len(encoding.encode(text))`. -/
def Encoding.tokenCount (encoding : Encoding) (text : String) :
    Except PyException ℕ := do
  let tokens ← encoding.encode text
  return tokens.length

/-- The platform counts with this encoding. -/
def Platform.CountsWith (platform : Platform) (encoding : Encoding) : Prop :=
  ∀ text, platform.tokenCount text = encoding.tokenCount text

theorem Encoding.Documented.tokenCount_ok_iff {encoding : Encoding}
    (documented : encoding.Documented) {platform : Platform}
    (counts : platform.CountsWith encoding) (text : String) :
    (∃ count, platform.tokenCount text = .ok count) ↔
      SpellsNone text.toList := by
  rw [← documented.encode_ok_iff, counts]
  constructor
  · rintro ⟨count, counted⟩
    obtain ⟨tokens, encoded, -⟩ := bind_eq_ok.mp counted
    exact ⟨tokens, encoded⟩
  · rintro ⟨tokens, encoded⟩
    exact ⟨tokens.length, bind_eq_ok.mpr ⟨tokens, encoded, rfl⟩⟩

/-- A platform that counts with the guarded encoding. -/
def guardedPlatform : Platform :=
  { samplePlatform with
    tokenCount := guardedEncoding.tokenCount
    jsonDumps := fun value => String.ofList (Json.text sampleFloats value) }

/-! ## Angle brackets that open names -/

/-- Behind every angle bracket stands something else than a bar or a brace. -/
def opensNames : List Char → Bool
  | [] => true
  | character :: rest =>
      (character != '<' ||
        rest.head?.any fun next => next != '|' && next != '\x7b') &&
        opensNames rest

theorem opensNames_cons {character : Char} {rest : List Char} :
    opensNames (character :: rest) = true ↔
      (character = '<' → ∃ next, rest.head? = some next ∧
        next ≠ '|' ∧ next ≠ '\x7b') ∧ opensNames rest = true := by
  simp [opensNames, Option.any_eq_true, imp_iff_not_or]

theorem opensNames_plain {character : Char} {rest : List Char}
    (plain : character ≠ '<') (opens : opensNames rest = true) :
    opensNames (character :: rest) = true :=
  opensNames_cons.mpr ⟨fun bracket => absurd bracket plain, opens⟩

theorem opensNames_of_closed {text : List Char} (closed : '<' ∉ text) :
    opensNames text = true := by
  induction text with
  | nil => rfl
  | cons character rest induction =>
      rw [List.mem_cons, not_or] at closed
      exact opensNames_plain (Ne.symm closed.1) (induction closed.2)

theorem opensNames_append {first second : List Char}
    (opens : opensNames first = true) (opens' : opensNames second = true) :
    opensNames (first ++ second) = true := by
  induction first with
  | nil => exact opens'
  | cons character rest induction =>
      obtain ⟨named, later⟩ := opensNames_cons.mp opens
      rw [List.cons_append]
      refine opensNames_cons.mpr ⟨fun bracket => ?_, induction later⟩
      obtain ⟨next, follows, good⟩ := named bracket
      refine ⟨next, ?_, good⟩
      rw [List.head?_append, follows, Option.some_or]

theorem opensNames_of_append {first second : List Char}
    (opens : opensNames (first ++ second) = true) :
    opensNames second = true := by
  induction first with
  | nil => exact opens
  | cons character rest induction =>
      exact induction (opensNames_cons.mp opens).2

/-- A special token has a bar behind its angle bracket. -/
theorem spellsNone_of_opensNames {text : List Char}
    (opens : opensNames text = true) : SpellsNone text := by
  intro token special
  have barred : ∀ token ∈ specialTokens, token.toList.take 2 = ['<', '|'] := by
    decide +kernel
  rintro ⟨before, after, same⟩
  rw [← same, List.append_assoc] at opens
  have later := opensNames_of_append opens
  rw [← List.take_append_drop 2 token.toList, barred token special] at later
  obtain ⟨next, follows, bar, -⟩ := (opensNames_cons.mp later).1 rfl
  exact bar (Option.some.inj follows).symm

theorem spellNone_of_opensNames {texts : List String}
    (opens : ∀ text ∈ texts, opensNames text.toList = true) :
    ∀ text ∈ texts, SpellsNone text.toList :=
  fun text member => spellsNone_of_opensNames (opens text member)

/-- A text that is put in the place of a text with a brace in front. -/
theorem opensNames_replaceText {pattern new text : List Char}
    (brace : pattern.head? = some '\x7b') (opens : opensNames text = true)
    (opens' : opensNames new = true) :
    opensNames (replaceText pattern new text) = true := by
  have filled : pattern ≠ [] := by
    rintro rfl
    cases brace
  induction text using scan_induction (filled_singleton filled) with
  | nil => rfl
  | found other rest nonempty leading induction =>
      obtain rfl := List.mem_singleton.mp (leadingPattern_eq_some leading).1
      rw [replaceText_pattern filled]
      exact opensNames_append opens' (induction (opensNames_of_append opens))
  | plain first rest other induction =>
      have missing : ¬ pattern <+: first :: rest :=
        leadingPattern_eq_none.mp other pattern (List.mem_singleton_self _)
      obtain ⟨named, later⟩ := opensNames_cons.mp opens
      rw [replaceText_plain missing]
      refine opensNames_cons.mpr ⟨fun bracket => ?_, induction later⟩
      obtain ⟨next, follows, bar, brace'⟩ := named bracket
      obtain ⟨tail, rfl⟩ := List.head?_eq_some_iff.mp follows
      have apart : ¬ pattern <+: next :: tail := by
        rintro ⟨after, same⟩
        obtain ⟨others, rfl⟩ := List.head?_eq_some_iff.mp brace
        exact brace' (List.cons.inj same).1.symm
      rw [replaceText_plain apart]
      exact ⟨next, rfl, bar, brace'⟩

/-! ## The strings of a value -/

/-- No string of the value spells a special token. -/
def Json.SpellsNone (value : Json) : Prop :=
  ∀ text ∈ value.strings, RagBench.SpellsNone text.toList

namespace Json

theorem spellsNone_laidOut_iff {pattern : List Char} {value : Json}
    (places : ∀ token ∈ specialTokens, token.toList <:+: pattern ↔
      ∃ text ∈ value.strings, token.toList <:+: text.toList) :
    RagBench.SpellsNone pattern ↔ value.SpellsNone := by
  constructor
  · intro none text member token special spelled
    exact none token special
      ((places token special).mpr ⟨text, member, spelled⟩)
  · intro none token special spelled
    obtain ⟨text, member, spelled⟩ := (places token special).mp spelled
    exact none text member token special spelled

theorem spellsNone_text_iff {floats : FloatText} {value : Json}
    (compliant : value.isCompliant = true) :
    RagBench.SpellsNone (text floats value) ↔ value.SpellsNone :=
  spellsNone_laidOut_iff fun _ special =>
    infix_text_iff (isTag_of_special special) compliant

theorem spellsNone_dumps_sorted_iff {floats : FloatText} {value : Json} :
    RagBench.SpellsNone (dumps floats value.sorted) ↔ value.SpellsNone :=
  spellsNone_laidOut_iff fun _ special =>
    infix_dumps_sorted_iff (isTag_of_special special) value

theorem spellsNone_str (value : String) :
    (Json.str value).SpellsNone ↔ RagBench.SpellsNone value.toList := by
  simp [SpellsNone, strings]

theorem spellsNone_array (items : List Json) :
    (Json.array items).SpellsNone ↔ ∀ item ∈ items, item.SpellsNone := by
  induction items with
  | nil => simp [SpellsNone, strings, itemStrings]
  | cons item rest induction =>
      rw [List.forall_mem_cons, ← induction]
      exact List.forall_mem_append

theorem spellsNone_object (entries : List (String × Json)) :
    (Json.object entries).SpellsNone ↔ ∀ entry ∈ entries,
      RagBench.SpellsNone entry.1.toList ∧ entry.2.SpellsNone := by
  induction entries with
  | nil => simp [SpellsNone, strings, entryStrings]
  | cons entry rest induction =>
      rw [List.forall_mem_cons, ← induction]
      refine List.forall_mem_append.trans (and_congr_left' ?_)
      exact List.forall_mem_cons

/-- The keys are known. -/
theorem spellsNone_entries {entries : List (String × Json)}
    (keys : List String) (named : entries.map Prod.fst = keys)
    (plain : ∀ key ∈ keys, RagBench.SpellsNone key.toList) :
    (Json.object entries).SpellsNone ↔
      ∀ value ∈ entries.map Prod.snd, value.SpellsNone := by
  rw [spellsNone_object, List.forall_mem_map]
  refine forall₂_congr fun entry member => and_iff_right (plain _ ?_)
  rw [← named]
  exact List.mem_map_of_mem member

theorem spellsNone_int (value : ℤ) : (Json.int value).SpellsNone :=
  List.forall_mem_nil _

theorem spellsNone_texts (texts : List String) :
    (Json.array (texts.map .str)).SpellsNone ↔
      ∀ text ∈ texts, RagBench.SpellsNone text.toList := by
  rw [spellsNone_array, List.forall_mem_map]
  simp only [spellsNone_str]

end Json

end RagBench
