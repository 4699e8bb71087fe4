import Mathlib.Data.List.Basic
import Mathlib.Data.List.Find
import Mathlib.Data.List.Infix

/-!
# Replacing patterns in a text

A scan cuts a text into the patterns it finds and single items.  It goes on
behind each pattern, so what replaces a pattern is not searched.
-/

namespace RagBench

variable {α : Type} [DecidableEq α]

/-- A part of a text that was searched for patterns. -/
inductive Token (α : Type) where
  | plain (item : α)
  | found (pattern : List α)
  deriving DecidableEq

namespace Token

/-- What stands in the text. -/
def source : Token α → List α
  | plain item => [item]
  | found pattern => pattern

/-- What the patterns become. -/
def fill (new : List α → List α) : Token α → List α
  | plain item => [item]
  | found pattern => new pattern

end Token

/-- The first of the patterns that the text begins with. -/
def leadingPattern (patterns : List (List α)) (text : List α) :
    Option (List α) :=
  patterns.find? fun pattern => pattern.isPrefixOf text

/-- The scan; `skip` items belong to the pattern found last. -/
def tokensFrom (patterns : List (List α)) : ℕ → List α → List (Token α)
  | _, [] => []
  | skip + 1, _ :: rest => tokensFrom patterns skip rest
  | 0, first :: rest =>
      match leadingPattern patterns (first :: rest) with
      | some pattern =>
          .found pattern :: tokensFrom patterns (pattern.length - 1) rest
      | none => .plain first :: tokensFrom patterns 0 rest

def tokens (patterns : List (List α)) (text : List α) : List (Token α) :=
  tokensFrom patterns 0 text

/-- All patterns are replaced in one scan. -/
def substitute (patterns : List (List α)) (new : List α → List α)
    (text : List α) : List α :=
  (tokens patterns text).flatMap (Token.fill new)

/-- `text.replace(old, new)`. -/
def replaceText (old new text : List α) : List α :=
  substitute [old] (fun _ => new) text

/-- `text.count(pattern)`. -/
def textCount (pattern text : List α) : ℕ :=
  (tokens [pattern] text).count (.found pattern)

/-! ## One step of the scan -/

section Scan

variable {patterns : List (List α)} {pattern text rest : List α}

theorem leadingPattern_eq_some
    (leading : leadingPattern patterns text = some pattern) :
    pattern ∈ patterns ∧ pattern <+: text :=
  ⟨List.mem_of_find?_eq_some leading,
    List.isPrefixOf_iff_prefix.mp
      (@List.find?_some (List α) (fun pattern => pattern.isPrefixOf text) _ _
        leading)⟩

theorem leadingPattern_eq_none :
    leadingPattern patterns text = none ↔
      ∀ pattern ∈ patterns, ¬ pattern <+: text := by
  rw [leadingPattern, List.find?_eq_none]
  simp only [List.isPrefixOf_iff_prefix]

private theorem tokensFrom_append (lead rest : List α) :
    tokensFrom patterns lead.length (lead ++ rest) =
      tokens patterns rest := by
  induction lead with
  | nil => rfl
  | cons first lead induction =>
      rw [List.length_cons, List.cons_append, tokensFrom, induction]

@[simp] theorem tokens_nil : tokens patterns ([] : List α) = [] :=
  rfl

theorem tokens_found (filled : pattern ≠ [])
    (leading : leadingPattern patterns (pattern ++ rest) = some pattern) :
    tokens patterns (pattern ++ rest) =
      .found pattern :: tokens patterns rest := by
  obtain ⟨first, tail, rfl⟩ := List.exists_cons_of_ne_nil filled
  rw [List.cons_append] at leading ⊢
  rw [tokens, tokensFrom, leading]
  dsimp only
  rw [List.length_cons, Nat.add_sub_cancel, tokensFrom_append]

theorem tokens_plain {first : α}
    (other : leadingPattern patterns (first :: rest) = none) :
    tokens patterns (first :: rest) = .plain first :: tokens patterns rest := by
  rw [tokens, tokensFrom, other]
  rfl

/-- The patterns are not empty. -/
def Filled (patterns : List (List α)) : Prop :=
  ∀ pattern ∈ patterns, pattern ≠ []

/-- Induction along the scan. -/
theorem scan_induction (filled : Filled patterns) {motive : List α → Prop}
    (nil : motive [])
    (found : ∀ pattern rest, pattern ≠ [] →
      leadingPattern patterns (pattern ++ rest) = some pattern →
      motive rest → motive (pattern ++ rest))
    (plain : ∀ first rest, leadingPattern patterns (first :: rest) = none →
      motive rest → motive (first :: rest))
    (text : List α) : motive text := by
  induction size : text.length using Nat.strong_induction_on
    generalizing text with
  | _ size induction =>
      subst size
      cases text with
      | nil => exact nil
      | cons first rest =>
          cases leading : leadingPattern patterns (first :: rest) with
          | none =>
              exact plain first rest leading
                (induction rest.length (Nat.lt_succ_self _) rest rfl)
          | some pattern =>
              obtain ⟨member, others, same⟩ := leadingPattern_eq_some leading
              have length := congrArg List.length same
              rw [List.length_append] at length
              have positive := List.length_pos_iff.mpr (filled pattern member)
              rw [← same] at leading ⊢
              exact found pattern others (filled pattern member) leading
                (induction others.length (by omega) others rfl)

/-- The tokens make up the text. -/
theorem flatMap_source (filled : Filled patterns) (text : List α) :
    (tokens patterns text).flatMap Token.source = text := by
  induction text using scan_induction filled with
  | nil => rfl
  | found pattern rest nonempty leading induction =>
      rw [tokens_found nonempty leading, List.flatMap_cons, induction]
      rfl
  | plain first rest other induction =>
      rw [tokens_plain other, List.flatMap_cons, induction]
      rfl

theorem mem_patterns_of_found (filled : Filled patterns)
    (member : .found pattern ∈ tokens patterns text) : pattern ∈ patterns := by
  induction text using scan_induction filled with
  | nil => cases member
  | found other rest nonempty leading induction =>
      rw [tokens_found nonempty leading, List.mem_cons] at member
      rcases member with here | later
      · cases here
        exact (leadingPattern_eq_some leading).1
      · exact induction later
  | plain first rest other induction =>
      rw [tokens_plain other, List.mem_cons] at member
      rcases member with here | later
      · cases here
      · exact induction later

/-- No pattern begins inside the lead, whatever follows. -/
def Passes (patterns : List (List α)) (lead : List α) : Prop :=
  ∀ tail ∈ lead.tails, tail ≠ [] →
    ∀ pattern ∈ patterns, ¬ tail <+: pattern ∧ ¬ pattern <+: tail

instance (patterns : List (List α)) (lead : List α) :
    Decidable (Passes patterns lead) :=
  inferInstanceAs (Decidable (∀ tail ∈ lead.tails, tail ≠ [] →
    ∀ pattern ∈ patterns, ¬ tail <+: pattern ∧ ¬ pattern <+: tail))

theorem Passes.tokens_append {lead : List α} (passes : Passes patterns lead)
    (rest : List α) :
    tokens patterns (lead ++ rest) =
      lead.map .plain ++ tokens patterns rest := by
  induction lead with
  | nil => rfl
  | cons first lead induction =>
      have later : Passes patterns lead := by
        intro tail member
        rw [Passes, List.tails_cons] at passes
        exact passes tail (List.mem_cons_of_mem _ member)
      have here : leadingPattern patterns (first :: (lead ++ rest)) = none := by
        rw [leadingPattern_eq_none]
        intro pattern member begins
        have apart := passes (first :: lead)
          ((List.mem_tails _ _).mpr List.suffix_rfl) (List.cons_ne_nil _ _) pattern
          member
        rcases List.prefix_or_prefix_of_prefix begins
          (List.prefix_append (first :: lead) rest) with short | long
        · exact apart.2 short
        · exact apart.1 long
      rw [List.cons_append, tokens_plain here, induction later, List.map_cons,
        List.cons_append]

end Scan

/-! ## A single pattern -/

section Single

variable {pattern new text rest : List α}

omit [DecidableEq α] in
theorem filled_singleton (filled : pattern ≠ []) : Filled [pattern] := by
  intro other member
  rw [List.mem_singleton.mp member]
  exact filled

theorem leadingPattern_singleton :
    leadingPattern [pattern] (pattern ++ rest) = some pattern := by
  rw [leadingPattern, List.find?_cons_of_pos]
  rw [List.isPrefixOf_iff_prefix]
  exact List.prefix_append _ _

theorem replaceText_pattern (filled : pattern ≠ []) (rest : List α) :
    replaceText pattern new (pattern ++ rest) =
      new ++ replaceText pattern new rest := by
  rw [replaceText, substitute, tokens_found filled leadingPattern_singleton,
    List.flatMap_cons]
  rfl

theorem replaceText_plain {first : α} (other : ¬ pattern <+: first :: rest) :
    replaceText pattern new (first :: rest) =
      first :: replaceText pattern new rest := by
  have missing : leadingPattern [pattern] (first :: rest) = none := by
    simpa [leadingPattern_eq_none] using other
  rw [replaceText, substitute, tokens_plain missing, List.flatMap_cons]
  rfl

/-- A text with an occurrence has a found one. -/
theorem found_iff_infix (filled : pattern ≠ []) :
    .found pattern ∈ tokens [pattern] text ↔ pattern <:+: text := by
  induction text using scan_induction (filled_singleton filled) with
  | nil => simp [filled]
  | found other rest nonempty leading induction =>
      obtain rfl := List.mem_singleton.mp (leadingPattern_eq_some leading).1
      rw [tokens_found nonempty leading]
      exact ⟨fun _ => (List.prefix_append _ _).isInfix,
        fun _ => List.mem_cons_self⟩
  | plain first rest other induction =>
      rw [tokens_plain other, List.mem_cons, List.infix_cons_iff, induction]
      have begins := leadingPattern_eq_none.mp other pattern
        (List.mem_singleton_self _)
      simp [begins]

/-- Replacing changes a text that has the pattern, except by the pattern. -/
theorem replaceText_eq_self_iff (filled : pattern ≠ []) :
    replaceText pattern new text = text ↔
      ¬ pattern <:+: text ∨ new = pattern := by
  have parts := flatMap_source (filled_singleton filled) text
  have known (token : Token α) (member : token ∈ tokens [pattern] text) :
      ∀ other, token = .found other → other = pattern := by
    rintro other rfl
    exact List.mem_singleton.mp
      (mem_patterns_of_found (filled_singleton filled) member)
  rw [replaceText, substitute, ← found_iff_infix filled]
  nth_rw 2 [← parts]
  generalize tokens [pattern] text = list at known
  constructor
  · intro same
    by_contra! different
    obtain ⟨occurs, different⟩ := different
    -- Each occurrence changes the length by the same difference.
    have lengths : (list.flatMap (Token.fill fun _ => new)).length +
        list.count (.found pattern) * pattern.length =
          (list.flatMap Token.source).length +
            list.count (.found pattern) * new.length := by
      clear same occurs
      induction list with
      | nil => simp
      | cons token list induction =>
          obtain ⟨here, later⟩ := List.forall_mem_cons.mp known
          have rest := induction later
          rw [List.flatMap_cons, List.flatMap_cons, List.length_append,
            List.length_append]
          cases token with
          | plain item =>
              rw [List.count_cons_of_ne (by simp)]
              simp only [Token.fill, Token.source, List.length_singleton]
              omega
          | found other =>
              obtain rfl := here other rfl
              rw [List.count_cons_self, Nat.succ_mul, Nat.succ_mul]
              simp only [Token.fill, Token.source]
              omega
    rw [same, Nat.add_left_cancel_iff] at lengths
    have long : new.length = pattern.length :=
      (Nat.eq_of_mul_eq_mul_left (List.count_pos_iff.mpr occurs)
        lengths).symm
    clear lengths
    induction list with
    | nil => cases occurs
    | cons token list induction =>
        obtain ⟨here, later⟩ := List.forall_mem_cons.mp known
        rw [List.flatMap_cons, List.flatMap_cons] at same
        cases token with
        | plain item =>
            refine induction later (List.append_cancel_left same) ?_
            exact (List.mem_cons.mp occurs).resolve_left (by simp)
        | found other =>
            obtain rfl := here other rfl
            exact different (List.append_inj_left same long)
  · rintro (absent | rfl)
    · refine List.flatMap_congr fun token member => ?_
      cases token with
      | plain item => rfl
      | found other =>
          obtain rfl := known _ member other rfl
          exact absurd member absent
    · refine List.flatMap_congr fun token member => ?_
      cases token with
      | plain item => rfl
      | found other =>
          obtain rfl := known _ member other rfl
          rfl

omit [DecidableEq α] in
/-- A prefix does not reach an item that it does not have. -/
theorem prefix_append_cons_iff {mark : α} (fresh : mark ∉ pattern)
    (lead rest : List α) : pattern <+: lead ++ mark :: rest ↔ pattern <+: lead := by
  constructor
  · intro begins
    rcases List.prefix_or_prefix_of_prefix begins
      (List.prefix_append lead (mark :: rest)) with short | ⟨tail, rfl⟩
    · exact short
    · cases tail with
      | nil => rw [List.append_nil]
      | cons character tail =>
          obtain ⟨rfl, -⟩ := List.cons_prefix_cons.mp
            ((List.prefix_append_right_inj _).mp begins)
          exact absurd (List.mem_append_right _ List.mem_cons_self) fresh
  · exact fun begins => begins.trans (List.prefix_append _ _)

omit [DecidableEq α] in
theorem infix_append_cons_iff {mark : α}
    (fresh : mark ∉ pattern) (lead rest : List α) :
    pattern <:+: lead ++ mark :: rest ↔
      pattern <:+: lead ∨ pattern <:+: rest := by
  induction lead with
  | nil =>
      have here := prefix_append_cons_iff fresh [] rest
      rw [List.nil_append, List.prefix_nil] at here
      rw [List.nil_append, List.infix_cons_iff, here, List.infix_nil]
  | cons first lead induction =>
      have here := prefix_append_cons_iff fresh (first :: lead) rest
      rw [List.cons_append] at here ⊢
      rw [List.infix_cons_iff, here, induction, List.infix_cons_iff, or_assoc]

/-- What a pattern does not have cuts the text for it. -/
theorem replaceText_append_cons {mark : α} (filled : pattern ≠ [])
    (fresh : mark ∉ pattern) (lead rest : List α) :
    replaceText pattern new (lead ++ mark :: rest) =
      replaceText pattern new lead ++ mark :: replaceText pattern new rest := by
  induction lead using scan_induction (filled_singleton filled) with
  | nil =>
      have passed : ¬ pattern <+: mark :: rest := fun begins =>
        filled (List.prefix_nil.mp
          ((prefix_append_cons_iff fresh [] rest).mp begins))
      rw [List.nil_append, replaceText_plain passed]
      rfl
  | found other lead nonempty leading induction =>
      obtain rfl := List.mem_singleton.mp (leadingPattern_eq_some leading).1
      rw [List.append_assoc, replaceText_pattern filled,
        replaceText_pattern filled, induction, List.append_assoc]
  | plain first lead other induction =>
      have missing : ¬ pattern <+: first :: lead :=
        leadingPattern_eq_none.mp other pattern (List.mem_singleton_self _)
      have still : ¬ pattern <+: first :: (lead ++ mark :: rest) :=
        fun begins => missing
          ((prefix_append_cons_iff fresh (first :: lead) rest).mp begins)
      rw [List.cons_append, replaceText_plain still, induction,
        replaceText_plain missing, List.cons_append]

/-- A pattern without the mark that begins a text before which the mark stands
began it before. -/
theorem prefix_of_replaceText {other : List α} {mark : α}
    (fresh : mark ∉ pattern) (marked : new.head? = some mark)
    (begins : pattern <+: replaceText other new text) (filled : other ≠ []) :
    pattern <+: text := by
  induction pattern generalizing text with
  | nil => exact List.nil_prefix
  | cons character pattern induction =>
      rw [List.mem_cons, not_or] at fresh
      cases text with
      | nil => exact begins
      | cons first rest =>
          by_cases leading : other <+: first :: rest
          · obtain ⟨tail, same⟩ := leading
            obtain ⟨others, rfl⟩ := List.head?_eq_some_iff.mp marked
            rw [← same, replaceText_pattern filled, List.cons_append] at begins
            exact absurd (List.cons_prefix_cons.mp begins).1.symm fresh.1
          · rw [replaceText_plain leading] at begins
            obtain ⟨rfl, later⟩ := List.cons_prefix_cons.mp begins
            exact List.cons_prefix_cons.mpr ⟨rfl, induction fresh.2 later⟩

end Single

/-! ## Two patterns, one after the other -/

section Pair

variable {first second asked given : List α} {mark : α}

/-- What a pattern of the pair becomes. -/
def pairFill (first asked given : List α) (pattern : List α) : List α :=
  if pattern = first then asked else given

omit [DecidableEq α] in
theorem filled_pair (filled : first ≠ []) (filled' : second ≠ []) :
    Filled [first, second] := by
  intro pattern member
  simp only [List.mem_cons, List.not_mem_nil, or_false] at member
  rcases member with rfl | rfl
  · exact filled
  · exact filled'

/-- Replacing in turn searches what the first pattern became, and nothing
else. -/
theorem replaceText_replaceText (filled : first ≠ []) (filled' : second ≠ [])
    (passes : Passes [first] second) (fresh : mark ∉ second)
    (body text : List α) :
    replaceText second given
        (replaceText first (mark :: (body ++ [mark])) text) =
      substitute [first, second] (pairFill first
        (replaceText second given (mark :: (body ++ [mark]))) given) text := by
  have different : second ≠ first := by
    rintro rfl
    have apart := passes second ((List.mem_tails _ _).mpr List.suffix_rfl) filled
      second (List.mem_singleton_self _)
    exact apart.1 List.prefix_rfl
  induction text using scan_induction (filled_pair filled filled') with
  | nil => rfl
  | found pattern rest nonempty leading induction =>
      rw [substitute, tokens_found nonempty leading, List.flatMap_cons,
        ← substitute, ← induction]
      have member := (leadingPattern_eq_some leading).1
      simp only [List.mem_cons, List.not_mem_nil, or_false] at member
      rcases member with rfl | rfl
      · rw [replaceText_pattern filled, Token.fill, pairFill, if_pos rfl,
          ← List.cons_append, List.append_assoc (mark :: body),
          List.singleton_append, replaceText_append_cons filled' fresh,
          replaceText_append_cons filled' fresh, List.append_assoc,
          List.cons_append]
        rfl
      · have skipped : replaceText first (mark :: (body ++ [mark]))
            (pattern ++ rest) = pattern ++
              replaceText first (mark :: (body ++ [mark])) rest := by
          rw [replaceText, substitute, passes.tokens_append,
            List.flatMap_append, List.flatMap_map]
          simp only [Token.fill, List.flatMap_singleton']
          rfl
        rw [skipped, replaceText_pattern filled', Token.fill, pairFill,
          if_neg different]
  | plain character rest other induction =>
      have missing := leadingPattern_eq_none.mp other
      have notFirst := missing first List.mem_cons_self
      have notSecond := missing second
        (List.mem_cons_of_mem _ List.mem_cons_self)
      have still : ¬ second <+: character ::
          replaceText first (mark :: (body ++ [mark])) rest := by
        rw [← replaceText_plain notFirst]
        exact fun begins => notSecond
          (prefix_of_replaceText fresh rfl begins filled)
      rw [replaceText_plain notFirst, replaceText_plain still, induction,
        substitute, substitute, tokens_plain other, List.flatMap_cons]
      rfl

/-- A pattern that the other one passes is counted as in the common scan. -/
theorem textCount_eq_count (filled : first ≠ []) (filled' : second ≠ [])
    (passes : Passes [first] second) (passes' : Passes [second] first)
    (text : List α) :
    textCount first text =
        (tokens [first, second] text).count (.found first) ∧
      textCount second text =
        (tokens [first, second] text).count (.found second) := by
  have different : second ≠ first := by
    rintro rfl
    have apart := passes second ((List.mem_tails _ _).mpr List.suffix_rfl) filled
      second (List.mem_singleton_self _)
    exact apart.1 List.prefix_rfl
  have noFound (pattern lead : List α) :
      (lead.map Token.plain).count (.found pattern) = 0 := by
    rw [List.count_eq_zero, List.mem_map]
    rintro ⟨_, -, same⟩
    cases same
  induction text using scan_induction (filled_pair filled filled') with
  | nil => exact ⟨rfl, rfl⟩
  | found pattern rest nonempty leading induction =>
      obtain ⟨one, two⟩ := induction
      rw [tokens_found nonempty leading]
      have member := (leadingPattern_eq_some leading).1
      simp only [List.mem_cons, List.not_mem_nil, or_false] at member
      rw [textCount] at one two ⊢
      rw [textCount]
      rcases member with rfl | rfl
      · rw [tokens_found filled leadingPattern_singleton,
          passes'.tokens_append, List.count_cons_self, List.count_cons_self,
          List.count_append, noFound, one, two,
          List.count_cons_of_ne (by simpa using different.symm), Nat.zero_add]
        exact ⟨rfl, rfl⟩
      · rw [tokens_found filled' leadingPattern_singleton,
          passes.tokens_append, List.count_cons_self, List.count_cons_self,
          List.count_append, noFound, one, two,
          List.count_cons_of_ne (by simpa using different), Nat.zero_add]
        exact ⟨rfl, rfl⟩
  | plain character rest other induction =>
      have missing := leadingPattern_eq_none.mp other
      have alone (pattern : List α) (listed : pattern ∈ [first, second]) :
          leadingPattern [pattern] (character :: rest) = none := by
        rw [leadingPattern_eq_none]
        intro same member
        rw [List.mem_singleton.mp member]
        exact missing pattern listed
      rw [textCount] at induction ⊢
      rw [textCount] at induction ⊢
      rw [tokens_plain other, tokens_plain (alone first List.mem_cons_self),
        tokens_plain (alone second (List.mem_cons_of_mem _
          List.mem_cons_self)), List.count_cons_of_ne (by simp),
        List.count_cons_of_ne (by simp), List.count_cons_of_ne (by simp),
        List.count_cons_of_ne (by simp)]
      exact induction

end Pair

/-! ## Escapes -/

section Escapes

variable {pattern text : List α} {escape : α → List α} {mark : α}

/-- Every item stays, or becomes a text that begins with the mark and has no
item that a pattern begins with. -/
def EscapesFrom (mark : α) (pattern : List α) (escape : α → List α) : Prop :=
  ∀ item, escape item = [item] ∨
    (escape item).head? = some mark ∧
      ∀ other ∈ escape item, pattern.head? ≠ some other

omit [DecidableEq α] in
private theorem prefix_of_escaped {rest : List α} (fresh : mark ∉ rest)
    (escapes : EscapesFrom mark pattern escape)
    (begins : rest <+: text.flatMap escape) : rest <+: text := by
  induction rest generalizing text with
  | nil => exact List.nil_prefix
  | cons first rest induction =>
      rw [List.mem_cons, not_or] at fresh
      cases text with
      | nil => exact begins
      | cons item text =>
          rw [List.flatMap_cons] at begins
          rcases escapes item with same | ⟨marked, -⟩
          · rw [same, List.singleton_append] at begins
            obtain ⟨rfl, later⟩ := List.cons_prefix_cons.mp begins
            exact List.cons_prefix_cons.mpr ⟨rfl, induction fresh.2 later⟩
          · obtain ⟨tail, escaped⟩ := List.head?_eq_some_iff.mp marked
            rw [escaped, List.cons_append] at begins
            exact absurd (List.cons_prefix_cons.mp begins).1.symm fresh.1

omit [DecidableEq α] in
/-- A pattern without the mark is in the escaped text only where it was. -/
theorem infix_flatMap_iff (filled : pattern ≠ []) (fresh : mark ∉ pattern)
    (escapes : EscapesFrom mark pattern escape)
    (kept : pattern.flatMap escape = pattern) :
    pattern <:+: text.flatMap escape ↔ pattern <:+: text := by
  constructor
  · intro inside
    induction text with
    | nil => exact inside
    | cons item text induction =>
        rw [List.infix_cons_iff]
        rcases escapes item with same | ⟨-, apart⟩
        · rw [List.flatMap_cons, same, List.singleton_append,
            List.infix_cons_iff] at inside
          refine inside.imp (fun begins => ?_) induction
          refine prefix_of_escaped fresh escapes ?_
          rwa [List.flatMap_cons, same, List.singleton_append]
        · right
          refine induction ?_
          obtain ⟨first, others, rfl⟩ := List.exists_cons_of_ne_nil filled
          rw [List.flatMap_cons] at inside
          generalize escape item = escaped at inside apart
          clear * - inside apart
          induction escaped with
          | nil => exact inside
          | cons head escaped induction =>
              obtain ⟨here, later⟩ := List.forall_mem_cons.mp apart
              rw [List.cons_append, List.infix_cons_iff] at inside
              rcases inside with begins | inside
              · rw [(List.cons_prefix_cons.mp begins).1] at here
                exact absurd rfl here
              · exact induction inside later
  · rintro ⟨before, after, rfl⟩
    rw [List.flatMap_append, List.flatMap_append, kept]
    exact ⟨_, _, rfl⟩

end Escapes

/-! ## Texts with two places -/

section Frame

variable {first second : List α}

/-- A text with a place for each of two others. -/
inductive Frame (α : Type) where
  | firstThenSecond (before between after : List α)
  | secondThenFirst (before between after : List α)

def Frame.fill (first second : List α) : Frame α → List α
  | .firstThenSecond before between after =>
      before ++ first ++ between ++ second ++ after
  | .secondThenFirst before between after =>
      before ++ second ++ between ++ first ++ after

section Reach

variable {patterns : List (List α)} {pattern : List α}

/-- No pattern reaches into this one from before. -/
def Unreached (patterns : List (List α)) (pattern : List α) : Prop :=
  ∀ other ∈ patterns, Passes [pattern] other.tail

instance (patterns : List (List α)) (pattern : List α) :
    Decidable (Unreached patterns pattern) :=
  inferInstanceAs (Decidable (∀ other ∈ patterns, Passes [pattern] other.tail))

theorem Unreached.leadingPattern_append (unreached : Unreached patterns pattern)
    {lead : List α} (started : lead ≠ []) (rest : List α) :
    leadingPattern patterns (lead ++ (pattern ++ rest)) =
      leadingPattern patterns lead := by
  refine List.find?_congr fun other member => Bool.eq_iff_iff.mpr ?_
  rw [List.isPrefixOf_iff_prefix, List.isPrefixOf_iff_prefix]
  refine ⟨fun begins => ?_, fun begins =>
    begins.trans (List.prefix_append _ _)⟩
  rcases List.prefix_or_prefix_of_prefix begins
    (List.prefix_append lead (pattern ++ rest)) with short | ⟨tail, rfl⟩
  · exact short
  by_cases ended : tail = []
  · rw [ended, List.append_nil]
  obtain ⟨first, others, rfl⟩ := List.exists_cons_of_ne_nil started
  have inside : tail ∈ ((first :: others) ++ tail).tail.tails :=
    (List.mem_tails _ _).mpr ⟨others, rfl⟩
  have apart := unreached _ member tail inside ended pattern
    (List.mem_singleton_self _)
  rcases List.prefix_or_prefix_of_prefix
    ((List.prefix_append_right_inj _).mp begins)
    (List.prefix_append pattern rest) with reaches | covers
  · exact absurd reaches apart.1
  · exact absurd covers apart.2

/-- A pattern that no pattern reaches into is found. -/
theorem Unreached.tokens_append (unreached : Unreached patterns pattern)
    (filled : Filled patterns) (lead rest : List α) :
    tokens patterns (lead ++ (pattern ++ rest)) =
      tokens patterns lead ++ tokens patterns (pattern ++ rest) := by
  induction lead using scan_induction filled with
  | nil => rfl
  | found other lead nonempty leading induction =>
      have still := unreached.leadingPattern_append
        (List.append_ne_nil_of_left_ne_nil nonempty lead) rest
      rw [leading, List.append_assoc] at still
      rw [List.append_assoc, tokens_found nonempty still, induction,
        tokens_found nonempty leading, List.cons_append]
  | plain first lead other induction =>
      have still := unreached.leadingPattern_append
        (List.cons_ne_nil first lead) rest
      rw [other, List.cons_append] at still
      rw [List.cons_append, tokens_plain still, induction, tokens_plain other,
        List.cons_append]

end Reach

/-- Neither of the patterns begins in the other one, or within itself. -/
structure Apart (first second : List α) : Prop where
  filled : first ≠ []
  filled' : second ≠ []
  passes : Passes [first] second
  passes' : Passes [second] first
  unreached : Unreached [first, second] first
  unreached' : Unreached [first, second] second

namespace Apart

variable (apart : Apart first second)

include apart

omit [DecidableEq α] in
theorem different : second ≠ first := by
  rintro rfl
  have inside := apart.passes second ((List.mem_tails _ _).mpr List.suffix_rfl)
    apart.filled' second (List.mem_singleton_self _)
  exact inside.1 List.prefix_rfl

theorem tokens_first (rest : List α) :
    tokens [first, second] (first ++ rest) =
      .found first :: tokens [first, second] rest := by
  refine tokens_found apart.filled ?_
  rw [leadingPattern, List.find?_cons_of_pos]
  rw [List.isPrefixOf_iff_prefix]
  exact List.prefix_append _ _

theorem tokens_second (rest : List α) :
    tokens [first, second] (second ++ rest) =
      .found second :: tokens [first, second] rest := by
  have missing : ¬ first <+: second ++ rest := by
    intro begins
    have inside := apart.passes second
      ((List.mem_tails _ _).mpr List.suffix_rfl) apart.filled' first
      (List.mem_singleton_self _)
    rcases List.prefix_or_prefix_of_prefix begins
      (List.prefix_append second rest) with short | long
    · exact inside.2 short
    · exact inside.1 long
  refine tokens_found apart.filled' ?_
  rw [leadingPattern, List.find?_cons_of_neg, List.find?_cons_of_pos]
  · rw [List.isPrefixOf_iff_prefix]
    exact List.prefix_append _ _
  · rw [List.isPrefixOf_iff_prefix]
    exact missing

/-- A part without a found pattern stays as it is. -/
private theorem fill_part {part : List α} (new : List α → List α)
    (noFirst : (tokens [first, second] part).count (.found first) = 0)
    (noSecond : (tokens [first, second] part).count (.found second) = 0) :
    (tokens [first, second] part).flatMap (Token.fill new) = part := by
  have filled := filled_pair apart.filled apart.filled'
  have parts := flatMap_source filled part
  nth_rw 2 [← parts]
  refine List.flatMap_congr fun token member => ?_
  cases token with
  | plain item => rfl
  | found pattern =>
      have listed := mem_patterns_of_found filled member
      simp only [List.mem_cons, List.not_mem_nil, or_false] at listed
      rcases listed with rfl | rfl
      · exact absurd member (List.count_eq_zero.mp noFirst)
      · exact absurd member (List.count_eq_zero.mp noSecond)

/-- Where each pattern is found once, one scan fills the two places. -/
theorem substitute_fill (new : List α → List α) (frame : Frame α)
    (once : textCount first (frame.fill first second) = 1)
    (once' : textCount second (frame.fill first second) = 1) :
    substitute [first, second] new (frame.fill first second) =
      frame.fill (new first) (new second) := by
  have filled := filled_pair apart.filled apart.filled'
  have different := apart.different
  obtain ⟨same, same'⟩ := textCount_eq_count apart.filled apart.filled'
    apart.passes apart.passes' (frame.fill first second)
  rw [same] at once
  rw [same'] at once'
  rw [substitute]
  cases frame with
  | firstThenSecond before between after =>
      simp only [Frame.fill, List.append_assoc] at once once' ⊢
      rw [apart.unreached.tokens_append filled, apart.tokens_first,
        apart.unreached'.tokens_append filled, apart.tokens_second]
        at once once' ⊢
      simp only [List.count_append, List.count_cons_self,
        List.count_cons_of_ne (show Token.found second ≠ Token.found first by
          simpa using different),
        List.count_cons_of_ne (show Token.found first ≠ Token.found second by
          simpa using different.symm)] at once once'
      simp only [List.flatMap_append, List.flatMap_cons]
      rw [apart.fill_part new (by omega) (by omega),
        apart.fill_part new (by omega) (by omega),
        apart.fill_part new (by omega) (by omega)]
      rfl
  | secondThenFirst before between after =>
      simp only [Frame.fill, List.append_assoc] at once once' ⊢
      rw [apart.unreached'.tokens_append filled, apart.tokens_second,
        apart.unreached.tokens_append filled, apart.tokens_first]
        at once once' ⊢
      simp only [List.count_append, List.count_cons_self,
        List.count_cons_of_ne (show Token.found second ≠ Token.found first by
          simpa using different),
        List.count_cons_of_ne (show Token.found first ≠ Token.found second by
          simpa using different.symm)] at once once'
      simp only [List.flatMap_append, List.flatMap_cons]
      rw [apart.fill_part new (by omega) (by omega),
        apart.fill_part new (by omega) (by omega),
        apart.fill_part new (by omega) (by omega)]
      rfl

/-- A text with each pattern once has two places. -/
theorem exists_frame {text : List α} (once : textCount first text = 1)
    (once' : textCount second text = 1) :
    ∃ frame : Frame α, frame.fill first second = text := by
  have filled := filled_pair apart.filled apart.filled'
  obtain ⟨same, same'⟩ := textCount_eq_count apart.filled apart.filled'
    apart.passes apart.passes' text
  rw [same] at once
  rw [same'] at once'
  have parts := flatMap_source filled text
  have member : .found first ∈ tokens [first, second] text :=
    List.count_pos_iff.mp (by omega)
  have member' : .found second ∈ tokens [first, second] text :=
    List.count_pos_iff.mp (by omega)
  obtain ⟨before, after, cut⟩ := List.append_of_mem member
  rw [cut, List.mem_append, List.mem_cons] at member'
  rw [cut] at parts
  rcases member' with early | here | late
  · obtain ⟨start, between, rfl⟩ := List.append_of_mem early
    refine ⟨.secondThenFirst (start.flatMap Token.source)
      (between.flatMap Token.source) (after.flatMap Token.source), ?_⟩
    rw [← parts]
    simp [Frame.fill, Token.source]
  · exact absurd (Token.found.inj here) apart.different
  · obtain ⟨between, rest, rfl⟩ := List.append_of_mem late
    refine ⟨.firstThenSecond (before.flatMap Token.source)
      (between.flatMap Token.source) (rest.flatMap Token.source), ?_⟩
    rw [← parts]
    simp [Frame.fill, Token.source]

end Apart

end Frame

end RagBench
