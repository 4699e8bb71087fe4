import Mathlib.Data.Bool.AllAny
import RagBench.Providers.Messages
import RagBench.PyText

/-!
# Matching answers

An answer is correct when its text is that of the expected one without
punctuation and spaces, or when both are the same quantity.
-/

namespace RagBench

/-- The two letters of a general category. -/
abbrev Category := Char × Char

/-- The characters of the units, as they are spelled or with `re.IGNORECASE`. -/
def unitCharacters : List Char :=
  ['%', '퍼', '센', '트', '만', '원', '천', 'k', 'K', '\u212a', 'g', 'G', '킬',
    '로', '그', '램']

/-- What the evaluation uses of the Unicode data. -/
structure AnswerTools extends Platform where
  /-- `text.casefold()`. -/
  casefold : String → String
  /-- `unicodedata.category(character)`. -/
  category : Char → Category
  /-- `unicodedata.decimal(character)`. -/
  digitValue : Char → ℕ
  digit_category : ∀ character, isDigit character = true →
    (category character).1 = 'N'
  mark_category : ∀ character ∈ ['.', ',', '-', '%'],
    (category character).1 = 'P'
  symbol_category : ∀ character ∈ ['₩', '￦', '$', '+'],
    (category character).1 = 'S'
  unit_category : ∀ character ∈ unitCharacters, character ≠ '%' →
    (category character).1 = 'L'

structure AnswerMatch where
  exact : Bool
  numeric : Bool
  isAlias : Bool
  deriving DecidableEq, Repr

def AnswerMatch.correct (found : AnswerMatch) : Bool :=
  found.exact || found.numeric || found.isAlias

/-! ## Spellings of numbers -/

/-- The groups of a match of `_NUMBER`. -/
structure NumberMatch where
  currency : List Char
  sign : List Char
  whole : List Char
  fraction : List Char
  unit : List Char
  deriving DecidableEq

/-- At most one character of a class. -/
def readOne (characters : List Char) : List Char → List Char × List Char
  | [] => ([], [])
  | first :: rest =>
      if first ∈ characters then ([first], rest) else ([], first :: rest)

/-- `(?:\.\d+)?`: the digits, none where there is no match. -/
def readFraction (isDigit : Char → Bool) :
    List Char → List Char × List Char
  | '.' :: rest =>
      if rest.takeWhile isDigit = [] then ([], '.' :: rest)
      else (rest.takeWhile isDigit, rest.dropWhile isDigit)
  | text => ([], text)

/-- A character of the pattern under `re.IGNORECASE`. -/
def ignoresCase (pattern character : Char) : Bool :=
  pattern = character ∨ pattern = 'k' ∧ character ∈ ['K', '\u212a'] ∨
    pattern = 'g' ∧ character = 'G'

/-- The units of the patterns. -/
def units : List (List Char) :=
  [['%'], ['퍼', '센', '트'], ['만', '원'], ['천', '원'], ['원'], ['k', 'g'],
    ['킬', '로', '그', '램'], ['g'], ['그', '램']]

/-- `(?P<unit>...)?\Z`. -/
def endsInUnit (text : List Char) : Bool :=
  text = [] ∨ units.any fun unit => unit.isEqv text ignoresCase

/-- `_NUMBER.fullmatch(text)`. -/
def fullmatchNumber (isDigit : Char → Bool) (text : List Char) :
    Option NumberMatch :=
  let (currency, rest) := readOne ['₩', '￦', '$'] text
  let (sign, rest) := readOne ['+', '-'] rest
  let whole := rest.takeWhile isDigit
  let (fraction, unit) := readFraction isDigit (rest.dropWhile isDigit)
  if (whole ≠ [] ∨ fraction ≠ []) ∧ endsInUnit unit then
    some {
      currency := currency
      sign := sign
      whole := whole
      fraction := fraction
      unit := unit }
  else none

/-- `\d{1,3}(?:,\d{3})+`. -/
def areGroups : List (List Char) → Bool
  | [] => false
  | first :: rest =>
      (1 ≤ first.length ∧ first.length ≤ 3) ∧ rest ≠ [] ∧
        rest.all fun group => group.length = 3

/-- `_GROUPED_NUMBER.fullmatch(text)`. -/
def matchesGrouped (isDigit : Char → Bool) (text : List Char) : Bool :=
  let rest := (readOne ['+', '-'] (readOne ['₩', '￦', '$'] text).2).2
  let isGrouped (character : Char) := isDigit character || character = ','
  areGroups ((rest.takeWhile isGrouped).splitOn ',') ∧
    endsInUnit (readFraction isDigit (rest.dropWhile isGrouped)).2

section Values

variable (tools : AnswerTools)

/-- The text that both normalizations start from. -/
def foldedText (value : String) : List Char :=
  (tools.casefold (tools.nfkc value)).toList

/-- `unicodedata.category(character).startswith(("P", "Z"))`. -/
def isDropped (character : Char) : Bool :=
  (tools.category character).1 ∈ ['P', 'Z']

def normalizeAnswer (value : String) : String :=
  String.ofList ((foldedText tools value).filter fun character =>
    !isDropped tools character && !isSpace character)

/-- What `_numeric_value` reads of an answer. -/
def numberMatch (value : String) : Option NumberMatch :=
  let compact := (foldedText tools value).filter fun character =>
    !isSpace character
  if ',' ∈ compact ∧ ¬matchesGrouped tools.isDigit compact then none
  else fullmatchNumber tools.isDigit (compact.filter (· ≠ ','))

/-- `Decimal(match.group("number"))`; it reads every such text. -/
def decimalOf (found : NumberMatch) : ℚ :=
  let digits := (found.whole ++ found.fraction).foldl
    (fun total digit => 10 * total + tools.digitValue digit) 0
  let magnitude : ℚ := digits / 10 ^ found.fraction.length
  if found.sign = ['-'] then -magnitude else magnitude

/-- The dimension of a match, and the factor to its unit. -/
def dimensionOf (found : NumberMatch) : String × ℚ :=
  let unit := tools.casefold (String.ofList found.unit)
  if found.currency = ['$'] then ("usd", 1)
  else if found.currency = ['₩'] ∨ found.currency = ['￦'] then ("krw", 1)
  else if unit = "원" then ("krw", 1)
  else if unit = "천원" then ("krw", 1000)
  else if unit = "만원" then ("krw", 10000)
  else if unit = "kg" ∨ unit = "킬로그램" then ("mass-g", 1000)
  else if unit = "g" ∨ unit = "그램" then ("mass-g", 1)
  else if unit = "%" ∨ unit = "퍼센트" then ("scalar", 1 / 100)
  else ("scalar", 1)

/-- `_numeric_value`. -/
def numericValue (value : String) : Option (ℚ × String) :=
  (numberMatch tools value).map fun found =>
    let (dimension, multiplier) := dimensionOf tools found
    (tools.context.fix (decimalOf tools found * multiplier), dimension)

def matchAnswer (prediction gold : String) (aliases : List String) :
    AnswerMatch :=
  let predictionNormalized := normalizeAnswer tools prediction
  let goldNormalized := normalizeAnswer tools gold
  { exact := predictionNormalized ≠ "" ∧ predictionNormalized = goldNormalized
    numeric :=
      match numericValue tools prediction, numericValue tools gold with
      | some left, some right => left = right
      | _, _ => false
    isAlias := aliases.any fun candidate =>
      predictionNormalized = normalizeAnswer tools candidate ∧
        predictionNormalized ≠ goldNormalized }

end Values

/-! ## What is left of a number -/

/-- What a number keeps when its punctuation is removed. -/
structure AnswerShape where
  currency : List Char
  hasPlus : Bool
  digits : List Char
  unit : List Char
  deriving DecidableEq

def NumberMatch.shape (found : NumberMatch) : AnswerShape :=
  { currency := found.currency
    hasPlus := found.sign = ['+']
    digits := found.whole ++ found.fraction
    unit := if found.unit = ['%'] then [] else found.unit }

def AnswerShape.text (shape : AnswerShape) : List Char :=
  shape.currency ++ (if shape.hasPlus then ['+'] else []) ++ shape.digits ++
    shape.unit

/-! ### Parts of a match -/

theorem readOne_spec (characters text : List Char) :
    text = (readOne characters text).1 ++ (readOne characters text).2 ∧
      ((readOne characters text).1 = [] ∨
        ∃ first ∈ characters, (readOne characters text).1 = [first]) := by
  cases text with
  | nil => exact ⟨rfl, .inl rfl⟩
  | cons first rest =>
      rw [readOne]
      split_ifs with listed
      · exact ⟨rfl, .inr ⟨first, listed, rfl⟩⟩
      · exact ⟨rfl, .inl rfl⟩

/-- A fraction is a point and digits. -/
theorem readFraction_spec (isDigit : Char → Bool) (text : List Char) :
    (∀ digit ∈ (readFraction isDigit text).1, isDigit digit = true) ∧
      (text = (readFraction isDigit text).2 ∧
          (readFraction isDigit text).1 = [] ∨
        text = '.' :: (readFraction isDigit text).1 ++
          (readFraction isDigit text).2) := by
  unfold readFraction
  split
  · next rest =>
      split_ifs with nothing
      · exact ⟨by simp, .inl ⟨rfl, rfl⟩⟩
      · refine ⟨fun digit member => List.mem_takeWhile_imp member, .inr ?_⟩
        rw [List.cons_append, List.takeWhile_append_dropWhile]
  · exact ⟨by simp, .inl ⟨rfl, rfl⟩⟩

/-- A character that a unit matches is a character of units. -/
private theorem ignoresCase_spec {pattern character : Char}
    (listed : pattern ∈ unitCharacters ∧ pattern ≠ '%')
    (same : ignoresCase pattern character = true) :
    character ∈ unitCharacters ∧ character ≠ '%' := by
  unfold ignoresCase at same
  rcases of_decide_eq_true same with rfl | ⟨-, kelvin⟩ | ⟨-, rfl⟩
  · exact listed
  · simp only [List.mem_cons, List.not_mem_nil, or_false] at kelvin
    rcases kelvin with rfl | rfl <;> decide
  · decide

private theorem isEqv_spec {unit text : List Char}
    (listed : ∀ pattern ∈ unit, pattern ∈ unitCharacters ∧ pattern ≠ '%')
    (same : unit.isEqv text ignoresCase = true) :
    ∀ character ∈ text, character ∈ unitCharacters ∧ character ≠ '%' := by
  induction unit generalizing text with
  | nil =>
      cases text with
      | nil => simp
      | cons character text => cases same
  | cons pattern unit induction =>
      cases text with
      | nil => simp
      | cons character text =>
          obtain ⟨here, later⟩ := List.forall_mem_cons.mp listed
          rw [List.isEqv, Bool.and_eq_true] at same
          exact List.forall_mem_cons.mpr
            ⟨ignoresCase_spec here same.1, induction later same.2⟩

/-- The characters of a unit. -/
theorem endsInUnit_spec {text : List Char} (ends : endsInUnit text = true) :
    text = ['%'] ∨ ∀ character ∈ text,
      character ∈ unitCharacters ∧ character ≠ '%' := by
  have spelled : ∀ unit ∈ units, unit = ['%'] ∨
      ∀ pattern ∈ unit, pattern ∈ unitCharacters ∧ pattern ≠ '%' := by
    simp only [← List.all_iff_forall_prop]
    decide
  rcases of_decide_eq_true ends with rfl | matched
  · exact .inr (by simp)
  · obtain ⟨unit, member, same⟩ := List.any_eq_true.mp matched
    rcases spelled unit member with rfl | listed
    · cases text with
      | nil => cases same
      | cons character text =>
          cases text with
          | nil =>
              left
              simpa [List.isEqv, ignoresCase, eq_comm] using same
          | cons second text => simp [List.isEqv] at same
    · exact .inr (isEqv_spec listed same)

/-- How a match is made up. -/
structure NumberMatch.IsValid (isDigit : Char → Bool) (found : NumberMatch) :
    Prop where
  currency : found.currency = [] ∨
    ∃ first ∈ ['₩', '￦', '$'], found.currency = [first]
  sign : found.sign = [] ∨ ∃ first ∈ ['+', '-'], found.sign = [first]
  digits : ∀ digit ∈ found.whole ++ found.fraction, isDigit digit = true
  some : found.whole ++ found.fraction ≠ []
  unit : found.unit = ['%'] ∨ ∀ character ∈ found.unit,
    character ∈ unitCharacters ∧ character ≠ '%'

theorem fullmatchNumber_spec {isDigit : Char → Bool} {text : List Char}
    {found : NumberMatch} (matched : fullmatchNumber isDigit text = some found) :
    found.IsValid isDigit ∧ ∃ point : List Char, (point = [] ∨ point = ['.']) ∧
      text = found.currency ++ found.sign ++ found.whole ++ point ++
        found.fraction ++ found.unit := by
  unfold fullmatchNumber at matched
  dsimp only at matched
  obtain ⟨⟨digits, ends⟩, same⟩ := Option.ite_none_right_eq_some.mp matched
  obtain ⟨currencySplit, currency⟩ := readOne_spec ['₩', '￦', '$'] text
  generalize readOne ['₩', '￦', '$'] text = first at *
  obtain ⟨signSplit, sign⟩ := readOne_spec ['+', '-'] first.2
  generalize readOne ['+', '-'] first.2 = second at *
  obtain ⟨fraction, fractionSplit⟩ :=
    readFraction_spec isDigit (second.2.dropWhile isDigit)
  generalize readFraction isDigit (second.2.dropWhile isDigit) = third at *
  have wholeSplit := List.takeWhile_append_dropWhile (p := isDigit)
    (l := second.2)
  rw [← Option.some.inj same]
  refine ⟨⟨currency, sign, ?_, ?_, endsInUnit_spec ends⟩, ?_⟩
  · intro digit member
    rcases List.mem_append.mp member with whole | part
    · exact List.mem_takeWhile_imp whole
    · exact fraction digit part
  · rw [Ne, List.append_eq_nil_iff]
    tauto
  · dsimp only
    rcases fractionSplit with ⟨rest, nothing⟩ | rest
    · refine ⟨[], .inl rfl, ?_⟩
      rw [nothing, ← rest]
      simp only [List.append_nil, List.append_assoc, wholeSplit, ← signSplit,
        ← currencySplit]
    · refine ⟨['.'], .inr rfl, ?_⟩
      have tail : ['.'] ++ third.1 ++ third.2 = second.2.dropWhile isDigit :=
        rest.symm
      simp only [List.append_assoc] at tail ⊢
      rw [tail, wholeSplit, ← signSplit, ← currencySplit]

section Shapes

variable {tools : AnswerTools} {found other : NumberMatch}

/-- A number keeps its shape when its punctuation is removed. -/
theorem filter_match (valid : found.IsValid tools.isDigit) {point : List Char}
    (pointed : point = [] ∨ point = ['.']) :
    (found.currency ++ found.sign ++ found.whole ++ point ++ found.fraction ++
        found.unit).filter (fun character => !isDropped tools character) =
      found.shape.text := by
  have symbols : ∀ character ∈ ['₩', '￦', '$', '+'],
      isDropped tools character = false := by
    intro character member
    rw [isDropped, tools.symbol_category character member]
    rfl
  have marks : ∀ character ∈ ['.', ',', '-', '%'],
      isDropped tools character = true := by
    intro character member
    rw [isDropped, tools.mark_category character member]
    rfl
  have digits : ∀ digits ⊆ found.whole ++ found.fraction,
      digits.filter (fun character => !isDropped tools character) =
        digits := by
    intro digits within
    refine List.filter_eq_self.mpr fun digit member => ?_
    have isDigit := valid.digits digit (within member)
    rw [isDropped, tools.digit_category digit isDigit]
    rfl
  have currency : found.currency.filter
      (fun character => !isDropped tools character) = found.currency := by
    rcases valid.currency with nothing | ⟨first, listed, one⟩
    · rw [nothing]
      rfl
    · rw [one, List.filter_cons_of_pos]
      · rfl
      · rw [symbols first (List.mem_append_left ['+'] listed)]
        rfl
  have sign : found.sign.filter
      (fun character => !isDropped tools character) =
        if found.shape.hasPlus then ['+'] else [] := by
    rcases valid.sign with nothing | ⟨first, listed, one⟩
    · simp [NumberMatch.shape, nothing]
    · simp only [List.mem_cons, List.not_mem_nil, or_false] at listed
      rcases listed with rfl | rfl
      · simp [NumberMatch.shape, one, symbols '+' (by simp)]
      · simp [NumberMatch.shape, one, marks '-' (by simp)]
  have points : point.filter
      (fun character => !isDropped tools character) = [] := by
    rcases pointed with rfl | rfl
    · rfl
    · simp [marks '.' (by simp)]
  have unit : found.unit.filter
      (fun character => !isDropped tools character) = found.shape.unit := by
    by_cases percent : found.unit = ['%']
    · simp [NumberMatch.shape, percent, marks '%' (by simp)]
    · rw [NumberMatch.shape, if_neg percent]
      refine List.filter_eq_self.mpr fun character member => ?_
      obtain ⟨listed, other⟩ := valid.unit.resolve_left percent character member
      rw [isDropped, tools.unit_category character listed other]
      rfl
  simp only [List.filter_append, currency, sign, points, unit,
    digits found.whole (List.subset_append_left _ _),
    digits found.fraction (List.subset_append_right _ _)]
  simp [AnswerShape.text, NumberMatch.shape]

theorem normalizeAnswer_of_match {value : String}
    (matched : numberMatch tools value = some found) :
    found.IsValid tools.isDigit ∧
      normalizeAnswer tools value = String.ofList found.shape.text := by
  unfold numberMatch at matched
  dsimp only at matched
  split_ifs at matched with malformed
  obtain ⟨valid, point, pointed, text⟩ := fullmatchNumber_spec matched
  refine ⟨valid, ?_⟩
  have comma : isDropped tools ',' = true := by
    rw [isDropped, tools.mark_category ',' (by simp)]
    rfl
  rw [← filter_match valid pointed, ← text, List.filter_filter,
    List.filter_filter, normalizeAnswer]
  congr 1
  refine List.filter_congr fun character _ => ?_
  by_cases same : character = ','
  · simp [same, comma]
  · simp [same]

/-- Which part of a shape a character belongs to. -/
def partOf (isDigit : Char → Bool) (character : Char) : ℕ :=
  if character ∈ ['₩', '￦', '$'] then 0
  else if character = '+' then 1
  else if isDigit character then 2
  else 3

private theorem filter_uniform {part : Char → ℕ} {text : List Char} {kind : ℕ}
    (uniform : ∀ character ∈ text, part character = kind) (wanted : ℕ) :
    text.filter (fun character => part character = wanted) =
      if kind = wanted then text else [] := by
  split_ifs with same
  · refine List.filter_eq_self.mpr fun character member => ?_
    exact decide_eq_true ((uniform character member).trans same)
  · refine List.filter_eq_nil_iff.mpr fun character member kept => ?_
    exact same ((uniform character member).symm.trans (of_decide_eq_true kept))

/-- The parts of a shape can be read off its text. -/
theorem filter_shape (valid : found.IsValid tools.isDigit) (wanted : ℕ) :
    found.shape.text.filter
        (fun character => partOf tools.isDigit character = wanted) =
      (if 0 = wanted then found.shape.currency else []) ++
        (if 1 = wanted then (if found.shape.hasPlus then ['+'] else [])
          else []) ++
        (if 2 = wanted then found.shape.digits else []) ++
        (if 3 = wanted then found.shape.unit else []) := by
  have notDigit : ∀ character, (tools.category character).1 ≠ 'N' →
      tools.isDigit character = false := by
    intro character other
    by_contra isDigit
    exact other (tools.digit_category character (by simpa using isDigit))
  have digits : ∀ digit ∈ found.shape.digits,
      partOf tools.isDigit digit = 2 := by
    intro digit member
    have isDigit := valid.digits digit member
    have category := tools.digit_category digit isDigit
    have plain : digit ∉ ['₩', '￦', '$', '+'] := by
      intro listed
      rw [tools.symbol_category digit listed] at category
      exact absurd category (by decide)
    simp only [List.mem_cons, List.not_mem_nil, or_false, not_or] at plain
    simp [partOf, plain, isDigit]
  have currency : ∀ character ∈ found.shape.currency,
      partOf tools.isDigit character = 0 := by
    intro character member
    rcases valid.currency with nothing | ⟨first, listed, one⟩
    · simp [NumberMatch.shape, nothing] at member
    · have same : character = first := by
        simpa [NumberMatch.shape, one] using member
      rw [partOf, if_pos (same ▸ listed)]
  have plus : ∀ character ∈ (if found.shape.hasPlus then ['+'] else []),
      partOf tools.isDigit character = 1 := by
    intro character member
    split_ifs at member
    · rw [List.mem_singleton.mp member]
      rfl
    · cases member
  have unit : ∀ character ∈ found.shape.unit,
      partOf tools.isDigit character = 3 := by
    intro character member
    by_cases percent : found.unit = ['%']
    · simp [NumberMatch.shape, percent] at member
    · rw [NumberMatch.shape, if_neg percent] at member
      obtain ⟨listed, other⟩ := valid.unit.resolve_left percent character member
      have category := tools.unit_category character listed other
      have plain : ∀ character ∈ unitCharacters,
          character ∉ ['₩', '￦', '$'] ∧ character ≠ '+' :=
        List.all_iff_forall_prop.mp (by decide)
      obtain ⟨notCurrency, notPlus⟩ := plain character listed
      have letter := notDigit character (by rw [category]; decide)
      rw [partOf, if_neg notCurrency, if_neg notPlus, letter]
      rfl
  rw [AnswerShape.text, List.filter_append, List.filter_append,
    List.filter_append, filter_uniform currency, filter_uniform plus,
    filter_uniform digits, filter_uniform unit]

/-- The text tells shapes apart. -/
theorem shape_of_text (valid : found.IsValid tools.isDigit)
    (valid' : other.IsValid tools.isDigit)
    (same : found.shape.text = other.shape.text) :
    found.shape = other.shape := by
  have parts (wanted : ℕ) := (filter_shape valid wanted).symm.trans
    ((congrArg (List.filter _) same).trans (filter_shape valid' wanted))
  have currency := parts 0
  have plus := parts 1
  have digits := parts 2
  have unit := parts 3
  simp only [reduceIte, OfNat.ofNat_ne_zero, OfNat.zero_ne_ofNat,
    OfNat.ofNat_ne_one, OfNat.one_ne_ofNat, one_ne_zero, zero_ne_one,
    Nat.reduceEqDiff, List.append_nil, List.nil_append]
    at currency plus digits unit
  cases first : found.shape with
  | mk currency hasPlus digits unit =>
      cases second : other.shape with
      | mk currency' hasPlus' digits' unit' =>
          simp only [first, second] at *
          subst currency digits unit
          cases hasPlus <;> cases hasPlus' <;> simp_all

end Shapes

/-! ## Confused answers -/

/-- The shape of a numeric answer. -/
def answerShape (tools : AnswerTools) (value : String) : Option AnswerShape :=
  (numberMatch tools value).map NumberMatch.shape

/-- Different quantities are told apart exactly when their spellings differ in
more than minus signs, decimal points, grouping commas and percent signs. -/
theorem matchAnswer_correct_iff (tools : AnswerTools) {prediction gold : String}
    {left right : ℚ × String}
    (predicted : numericValue tools prediction = some left)
    (expected : numericValue tools gold = some right)
    (different : left ≠ right) :
    (matchAnswer tools prediction gold []).correct = false ↔
      answerShape tools prediction ≠ answerShape tools gold := by
  obtain ⟨found, matched, -⟩ := Option.map_eq_some_iff.mp predicted
  obtain ⟨other, matched', -⟩ := Option.map_eq_some_iff.mp expected
  obtain ⟨valid, text⟩ := normalizeAnswer_of_match matched
  obtain ⟨valid', text'⟩ := normalizeAnswer_of_match matched'
  have nonempty : normalizeAnswer tools prediction ≠ "" := by
    rw [text]
    intro empty
    have nothing := congrArg String.toList empty
    rw [String.toList_ofList] at nothing
    simp only [AnswerShape.text] at nothing
    refine valid.some (List.append_eq_nil_iff.mp
      (List.append_eq_nil_iff.mp nothing).1).2
  have exactly : (matchAnswer tools prediction gold []).correct = true ↔
      found.shape = other.shape := by
    have numeric : decide (left = right) = false := decide_eq_false different
    simp only [matchAnswer, AnswerMatch.correct, predicted, expected, numeric,
      List.any_nil, Bool.or_false, decide_eq_true_eq]
    constructor
    · rintro ⟨-, same⟩
      rw [text, text', String.ofList_inj] at same
      exact shape_of_text valid valid' same
    · intro same
      exact ⟨nonempty, by rw [text, text', same]⟩
  rw [← Bool.not_eq_true, exactly, answerShape, answerShape, matched, matched']
  simp

def sampleAnswerTools : AnswerTools :=
  { samplePlatform with
    casefold := id
    category := fun character =>
      if character.isDigit then ('N', 'd')
      else if character ∈ ['.', ',', '%'] then ('P', 'o')
      else if character = '-' then ('P', 'd')
      else if character ∈ ['₩', '￦', '$'] then ('S', 'c')
      else if character = '+' then ('S', 'm')
      else ('L', 'o')
    digitValue := fun character => character.toNat - 48
    digit_category := by
      intro character isDigit
      have digit : character.isDigit = true := isDigit
      rw [if_pos digit]
    mark_category := List.all_iff_forall_prop.mp (by decide)
    symbol_category := List.all_iff_forall_prop.mp (by decide)
    unit_category := List.all_iff_forall_prop.mp (by decide) }

theorem matchAnswer_correct_iff_won :
    (matchAnswer sampleAnswerTools "1.5만원" "15원" []).correct = false ↔
      answerShape sampleAnswerTools "1.5만원" ≠
        answerShape sampleAnswerTools "15원" :=
  matchAnswer_correct_iff sampleAnswerTools
    (show numericValue sampleAnswerTools "1.5만원" = some (15000, "krw") by
      decide +kernel)
    (show numericValue sampleAnswerTools "15원" = some (15, "krw") by
      decide +kernel) (by decide +kernel)

/-- One and a half and fifteen have the same text without punctuation. -/
theorem matchAnswer_confuses_point :
    numericValue sampleAnswerTools "1.5" = some (3 / 2, "scalar") ∧
      numericValue sampleAnswerTools "15" = some (15, "scalar") ∧
      ((3 / 2, "scalar") : ℚ × String) ≠ (15, "scalar") ∧
      (matchAnswer sampleAnswerTools "1.5" "15" []).correct = true := by
  refine ⟨?_, ?_, ?_, ?_⟩ <;> decide +kernel

end RagBench
