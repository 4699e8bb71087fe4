import RagBench.Benchmark.Validation

/-!
# Numbers of accepted answers

An accepted answer only uses numbers of its evidence, and its evidence matches
source units.  The second hop goes through `_search_text`, which drops signs
and decimal points, so a number of the answer need not be a number of the
source.
-/

namespace RagBench

/-! ## Numbers of joined texts -/

section Joined

variable {platform : Platform}

theorem takeWhile_until {accepts : Char → Bool} {stop : Char}
    (stops : accepts stop = false) (front back : List Char) :
    (front ++ stop :: back).takeWhile accepts = front.takeWhile accepts := by
  induction front with
  | nil => simp [stops]
  | cons first rest induction =>
      by_cases accepted : accepts first
      · simp [accepted, induction]
      · simp [accepted]

theorem dropWhile_until {accepts : Char → Bool} {stop : Char}
    (stops : accepts stop = false) (front back : List Char) :
    (front ++ stop :: back).dropWhile accepts =
      front.dropWhile accepts ++ stop :: back := by
  induction front with
  | nil => simp [stops]
  | cons first rest induction =>
      by_cases accepted : accepts first
      · simp [accepted, induction]
      · simp [accepted]

theorem space_not_digitOrComma : isDigitOrComma platform ' ' = false := by
  simp [isDigitOrComma, platform.space_not_digit]

theorem splitSign_append (front back : List Char) :
    splitSign (front ++ ' ' :: back) =
      ((splitSign front).1, (splitSign front).2 ++ ' ' :: back) := by
  cases front with
  | nil => rfl
  | cons first rest =>
      simp only [List.cons_append, splitSign]
      split_ifs <;> rfl

theorem matchFraction_append (front back : List Char) :
    matchFraction platform (front ++ ' ' :: back) =
      matchFraction platform front := by
  cases front with
  | nil => simp [matchFraction]
  | cons first rest =>
      simp only [List.cons_append, matchFraction,
        takeWhile_until platform.space_not_digit]

theorem matchUnsigned_append (front back : List Char) :
    matchUnsigned platform (front ++ ' ' :: back) =
      matchUnsigned platform front := by
  cases front with
  | nil => simp [matchUnsigned, platform.space_not_digit]
  | cons first rest =>
      simp only [List.cons_append, matchUnsigned,
        takeWhile_until space_not_digitOrComma,
        dropWhile_until space_not_digitOrComma, matchFraction_append]

theorem matchNumber_append (platform : Platform) (front back : List Char) :
    matchNumber platform (front ++ ' ' :: back) =
      matchNumber platform front := by
  simp only [matchNumber, splitSign_append, matchUnsigned_append]

theorem matchFraction_length (platform : Platform) (text : List Char) :
    (matchFraction platform text).length ≤ text.length := by
  cases text with
  | nil => simp [matchFraction]
  | cons first rest =>
      simp only [matchFraction]
      split_ifs
      · have shorter :=
          (List.takeWhile_prefix platform.isDigit (l := rest)).length_le
        simpa using shorter
      · simp

theorem matchUnsigned_length {text number : List Char}
    (matched : matchUnsigned platform text = some number) :
    number.length ≤ text.length := by
  cases text with
  | nil => cases matched
  | cons first rest =>
      simp only [matchUnsigned] at matched
      split_ifs at matched
      cases matched
      have fraction := matchFraction_length platform
        (rest.dropWhile (isDigitOrComma platform))
      have whole := congrArg List.length
        (List.takeWhile_append_dropWhile (p := isDigitOrComma platform)
          (l := rest))
      simp only [List.length_append] at whole
      simp only [List.cons_append, List.length_cons, List.length_append]
      omega

theorem matchNumber_length {text number : List Char}
    (matched : matchNumber platform text = some number) :
    number.length ≤ text.length := by
  obtain ⟨unsigned, found, rfl⟩ := Option.map_eq_some_iff.mp matched
  have bound := matchUnsigned_length found
  have split : (splitSign text).1.length + (splitSign text).2.length =
      text.length := by
    cases text with
    | nil => rfl
    | cons first rest =>
        simp only [splitSign]
        split_ifs
        · simp only [List.length_cons, List.length_nil]
          omega
        · simp
  simp only [List.length_append]
  omega

/-- A space never lies inside a number. -/
theorem findNumbers_append (skip : ℕ) (front back : List Char)
    (within : skip ≤ front.length) :
    findNumbers platform skip (front ++ ' ' :: back) =
      findNumbers platform skip front ++ findNumbers platform 0 back := by
  induction front generalizing skip with
  | nil =>
      obtain rfl : skip = 0 := by simpa using within
      have none : matchNumber platform (' ' :: back) = none := by
        have same := matchNumber_append platform [] back
        simpa [matchNumber, splitSign, matchUnsigned] using same
      simp [findNumbers, none]
  | cons first rest induction =>
      cases skip with
      | succ skip =>
          simp only [List.cons_append, findNumbers]
          exact induction skip (by simpa using within)
      | zero =>
          have same := matchNumber_append platform
            (first :: rest) back
          simp only [List.cons_append] at same
          simp only [List.cons_append, findNumbers, same]
          cases matched : matchNumber platform (first :: rest) with
          | none => exact induction 0 (Nat.zero_le _)
          | some number =>
              have bound := matchNumber_length matched
              simp only [List.length_cons] at bound
              simp only [List.cons_append]
              rw [induction (number.length - 1) (by omega)]

/-- The numbers of texts joined by spaces are those of the texts. -/
theorem mem_numbers_join {texts : List String} {number : String}
    (member : number ∈ numbers platform (String.intercalate " " texts)) :
    ∃ text ∈ texts, number ∈ numbers platform text := by
  induction texts with
  | nil => simp [numbers, findNumbers] at member
  | cons first rest induction =>
      cases rest with
      | nil => exact ⟨first, by simp, by simpa using member⟩
      | cons second rest =>
          have joined : (String.intercalate " "
              (first :: second :: rest)).toList =
                first.toList ++ ' ' ::
                  (String.intercalate " " (second :: rest)).toList := by
            rw [String.intercalate_cons_cons]
            simp
          rw [numbers, joined, findNumbers_append 0 _ _ (Nat.zero_le _),
            List.map_append, List.mem_append] at member
          rcases member with here | later
          · exact ⟨first, by simp, here⟩
          · obtain ⟨text, among, found⟩ := induction later
            exact ⟨text, List.mem_cons_of_mem _ among, found⟩

end Joined

/-! ## What acceptance means -/

section Accepted

variable {platform : Platform} {corpus : List SourceWindow}
  {config : ValidationConfig} {candidate : QuestionCandidate}

/-- A candidate which failed neither rule of its answer nor of its evidence. -/
def Supported (platform : Platform) (corpus : List SourceWindow)
    (config : ValidationConfig) (candidate : QuestionCandidate) : Prop :=
  evidenceRules platform corpus config candidate = [] ∧
    answerRules platform candidate = []

/-- One round adds a single item, supported if it is accepted. -/
theorem validateNext_supported {terms duplicateIds : List String}
    {state : ValidationState}
    (earlier : ∀ item ∈ state.validated, item.isAccepted = true →
      Supported platform corpus config item)
    (candidate : QuestionCandidate) :
    ∀ item ∈ (validateNext platform corpus config terms duplicateIds state
        candidate).validated, item.isAccepted = true →
      Supported platform corpus config item := by
  intro item member accepted
  rw [validateNext_validated, List.mem_append, List.mem_singleton] at member
  rcases member with before | rfl
  · exact earlier item before accepted
  · have none : failedRules platform corpus config terms duplicateIds state
        candidate = [] := by
      by_contra some
      simp [QuestionCandidate.isAccepted, QuestionCandidate.judged, some]
        at accepted
    have nothing : ∀ rule, rule ∉ candidateRules platform corpus config terms
        duplicateIds state candidate := by
      intro rule failed
      have member : rule ∈ failedRules platform corpus config terms
          duplicateIds state candidate := by
        apply mem_distinct.mpr
        rw [if_neg (List.ne_nil_of_mem failed)]
        exact failed
      simp [none] at member
    have empty := List.eq_nil_iff_forall_not_mem.mpr nothing
    simp only [candidateRules, List.append_eq_nil_iff] at empty
    exact ⟨empty.1.1.1.2, empty.1.1.2⟩

/-- Every accepted candidate of a validation is supported. -/
theorem accepted_supported {candidates : List QuestionCandidate}
    {terms : List String}
    (member : candidate ∈
      (validateCandidates platform candidates corpus config terms).items)
    (accepted : candidate.isAccepted = true) :
    Supported platform corpus config candidate := by
  have pass : ∀ (terms duplicateIds : List String)
      (candidates : List QuestionCandidate) (state : ValidationState),
      (∀ item ∈ state.validated, item.isAccepted = true →
        Supported platform corpus config item) →
      ∀ item ∈ (candidates.foldl (validateNext platform corpus config terms
          duplicateIds) state).validated, item.isAccepted = true →
        Supported platform corpus config item := by
    intro terms duplicateIds candidates
    induction candidates with
    | nil => exact fun _ holds => holds
    | cons first rest induction =>
        intro state holds
        exact induction _ (validateNext_supported holds first)
  exact pass _ _ candidates {} (by simp) candidate member accepted

/-- What `_evidence_matches` accepts: after normalization the span occurs in
the source, or a window of the source is similar enough. -/
def Matches (platform : Platform) (threshold : ℚ) (span source : String) :
    Prop :=
  searchText platform span ≠ "" ∧
    (occursIn (searchText platform span) (searchText platform source) = true ∨
      ∃ start, threshold ≤ platform.similarity (searchText platform span)
        (String.ofList (((searchText platform source).toList.drop start).take
          (searchText platform span).length)))

theorem evidenceMatches_matches {span source : String} {threshold : ℚ}
    (success : evidenceMatches platform span source threshold = true) :
    Matches platform threshold span source := by
  unfold evidenceMatches at success
  dsimp only at success
  split_ifs at success with blank occurs longer
  · exact ⟨blank, .inl occurs⟩
  · obtain ⟨index, -, similar⟩ := List.any_eq_true.mp success
    exact ⟨blank, .inr ⟨_, of_decide_eq_true similar⟩⟩

/-- The source unit an evidence span matches. -/
theorem spanRules_nil {span : EvidenceSpan}
    (passed : spanRules platform corpus config span = []) :
    ∃ window ∈ corpus, ∃ unit ∈ window.sourceUnits,
      window.documentId = span.documentId ∧ unit.page = span.page ∧
        unit.chunkId = span.chunkId ∧
          Matches platform config.evidenceSimilarityThreshold span.text
            unit.content := by
  unfold spanRules at passed
  dsimp only at passed
  split_ifs at passed with noPage noChunk matched
  obtain ⟨unit, cited, success⟩ := List.any_eq_true.mp matched
  obtain ⟨window, covering, here⟩ := List.mem_flatMap.mp cited
  obtain ⟨unitMember, sameUnit⟩ := List.mem_filter.mp here
  obtain ⟨windowMember, sameWindow⟩ := List.mem_filter.mp covering
  simp only [decide_eq_true_eq] at sameUnit sameWindow
  exact ⟨window, windowMember, unit, unitMember, sameWindow.1, sameUnit.1,
    sameUnit.2, evidenceMatches_matches success⟩

theorem answerRules_numbers {goldAnswer number : String}
    (passed : answerRules platform candidate = [])
    (answerable : candidate.answerable = true)
    (gold : candidate.goldAnswer = some goldAnswer)
    (member : number ∈ numbers platform goldAnswer) :
    number ∈ numbers platform candidate.evidenceText := by
  unfold answerRules at passed
  rw [answerable, gold] at passed
  dsimp only at passed
  have supported := (List.append_eq_nil_iff.mp passed).2
  by_contra missing
  have mismatch : (!(numbers platform goldAnswer).all
      (· ∈ numbers platform candidate.evidenceText)) = true := by
    simp only [Bool.not_eq_true', List.all_eq_false]
    exact ⟨number, member, by simpa using missing⟩
  rw [if_pos mismatch] at supported
  cases supported

/-- Every number of an accepted answer is a number of one of its evidence
spans, and every evidence span matches a source unit of its document, page
and chunk. -/
theorem accepted_numbers_in_evidence {candidates : List QuestionCandidate}
    {terms : List String} {goldAnswer : String}
    (member : candidate ∈
      (validateCandidates platform candidates corpus config terms).items)
    (accepted : candidate.isAccepted = true)
    (answerable : candidate.answerable = true)
    (gold : candidate.goldAnswer = some goldAnswer) :
    (∀ number ∈ numbers platform goldAnswer,
      ∃ span ∈ candidate.evidenceSpans, number ∈ numbers platform span.text) ∧
      ∀ span ∈ candidate.evidenceSpans,
        ∃ window ∈ corpus, ∃ unit ∈ window.sourceUnits,
          window.documentId = span.documentId ∧ unit.page = span.page ∧
            unit.chunkId = span.chunkId ∧
              Matches platform config.evidenceSimilarityThreshold span.text
                unit.content := by
  obtain ⟨evidence, answer⟩ := accepted_supported member accepted
  constructor
  · intro number extracted
    obtain ⟨text, among, found⟩ := mem_numbers_join
      (answerRules_numbers answer answerable gold extracted)
    obtain ⟨span, here, rfl⟩ := List.mem_map.mp among
    exact ⟨span, here, found⟩
  · intro span here
    apply spanRules_nil
    exact List.flatMap_eq_nil_iff.mp evidence span here

end Accepted

/-- The numbers of the answer are numbers of source units the evidence
cites. -/
def NumbersGrounded (platform : Platform) (corpus : List SourceWindow)
    (candidate : QuestionCandidate) : Prop :=
  ∀ goldAnswer, candidate.goldAnswer = some goldAnswer →
    ∀ number ∈ numbers platform goldAnswer,
      ∃ span ∈ candidate.evidenceSpans, ∃ window ∈ corpus,
        ∃ unit ∈ window.sourceUnits, window.documentId = span.documentId ∧
          unit.page = span.page ∧ number ∈ numbers platform unit.content

def sampleWindow : SourceWindow :=
  { windowId := "window"
    documentId := "document"
    documentTitle := "Report"
    pageStart := 1
    pageEnd := 1
    chunkIds := ["chunk"]
    content := "sales grew by 15 percent"
    sourceUnits := [⟨1, "chunk", "sales grew by 15 percent"⟩]
    pages_ordered := by decide
    units_within := by decide }

/-- The source says 15 percent; the candidate quotes 1.5 percent. -/
def sampleCandidate : QuestionCandidate :=
  { candidateId := "candidate"
    question := "How fast did sales grow?"
    goldAnswer := some "1.5 percent"
    evidenceSpans := [⟨"grew by 1.5 percent", "document", 1, "chunk"⟩]
    questionType := .fact
    difficulty := .easy
    answerable := true
    answerable_shape := by simp
    unanswerable_shape := by simp }

def sampleRules : List String :=
  failedRules samplePlatform [sampleWindow] {} []
    (duplicateGroups samplePlatform [sampleCandidate] (92 / 100)).2 {}
    sampleCandidate

private theorem sample_items :
    (validateCandidates samplePlatform [sampleCandidate] [sampleWindow] {}
      []).items = [sampleCandidate.judged sampleRules] :=
  validateNext_validated _ _ _ _ _ _ _

/-- A lost decimal point goes unnoticed: 1.5 is accepted against 15. -/
theorem decimal_point_not_grounded :
    ∃ candidate ∈ (validateCandidates samplePlatform [sampleCandidate]
        [sampleWindow] {} []).items,
      candidate.isAccepted = true ∧ candidate.answerable = true ∧
        ¬ NumbersGrounded samplePlatform [sampleWindow] candidate := by
  refine ⟨sampleCandidate.judged sampleRules, by simp [sample_items],
    by decide +kernel, rfl, ?_⟩
  intro grounded
  have extracted : "1.5" ∈ numbers samplePlatform "1.5 percent" := by
    decide +kernel
  obtain ⟨span, -, window, here, unit, member, -, -, found⟩ :=
    grounded "1.5 percent" rfl "1.5" extracted
  obtain rfl : window = sampleWindow := by simpa using here
  obtain rfl : unit = ⟨1, "chunk", "sales grew by 15 percent"⟩ := by
    simpa [sampleWindow] using member
  have absent : "1.5" ∉ numbers samplePlatform "sales grew by 15 percent" := by
    decide +kernel
  exact absent found

theorem sample_numbers_in_evidence :
    (∀ number ∈ numbers samplePlatform "1.5 percent",
      ∃ span ∈ sampleCandidate.evidenceSpans,
        number ∈ numbers samplePlatform span.text) ∧
      ∀ span ∈ sampleCandidate.evidenceSpans,
        ∃ window ∈ [sampleWindow], ∃ unit ∈ window.sourceUnits,
          window.documentId = span.documentId ∧ unit.page = span.page ∧
            unit.chunkId = span.chunkId ∧
              Matches samplePlatform (96 / 100) span.text unit.content :=
  @accepted_numbers_in_evidence samplePlatform [sampleWindow] {}
    (sampleCandidate.judged sampleRules) [sampleCandidate] [] "1.5 percent"
    (by simp [sample_items]) (by decide +kernel) rfl rfl

end RagBench
