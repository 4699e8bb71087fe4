import RagBench.Benchmark.Generation

/-!
# Validation of benchmark candidates

Candidates are checked in input order.  Every failed rule rejects; only a
candidate without any failed rule is counted against the quotas and caps.
-/

namespace RagBench

inductive Difficulty where
  | easy
  | medium
  | hard
  deriving DecidableEq, Repr

inductive ValidationDecision where
  | unvalidated
  | accepted
  | rejected
  deriving DecidableEq, Repr

structure ValidationStatus where
  decision : ValidationDecision
  ruleCodes : List String := []
  deriving DecidableEq

structure EvidenceSpan where
  text : String
  documentId : String
  page : ℕ
  chunkId : String
  deriving DecidableEq

structure UnanswerableTransform where
  targetDocumentId : String
  targetPage : ℕ
  targetChunkId : String
  originalFact : String
  transformedFact : String
  deriving DecidableEq

/-- The shape fields are `_answerability_shape`. -/
structure QuestionCandidate where
  candidateId : String
  question : String
  goldAnswer : Option String
  evidenceSpans : List EvidenceSpan
  questionType : QuestionType
  difficulty : Difficulty
  answerable : Bool
  assertedAbsentFacts : List String := []
  unanswerableTransform : Option UnanswerableTransform := none
  validation : ValidationStatus := { decision := .unvalidated }
  answerable_shape : answerable = true →
    questionType ≠ .unanswerable ∧ goldAnswer ≠ none ∧ evidenceSpans ≠ [] ∧
      assertedAbsentFacts = [] ∧ unanswerableTransform = none
  unanswerable_shape : answerable = false →
    questionType = .unanswerable ∧ goldAnswer = none ∧ evidenceSpans = [] ∧
      ∃ transform, unanswerableTransform = some transform ∧
        assertedAbsentFacts = [transform.transformedFact]

/-! ## Quotas and completion -/

/-- `NORMAL_SCOPE_QUOTAS`. -/
def normalScopeQuotas : Quotas :=
  .ofList
    [(.fact, 200), (.numericTable, 200), (.comparison, 167),
      (.multihop, 167), (.unanswerable, 133), (.complexSummary, 133)]

inductive CompletionLevel where
  | target
  | normalFloor
  | emergencyOnly
  | insufficient
  deriving DecidableEq, Repr

/-- `quota_deficits`. -/
def quotaDeficits (typeDistribution : Quotas) (normalScope : Bool) :
    List (QuestionType × ℕ) :=
  let quotas := if normalScope then normalScopeQuotas else defaultQuotas
  (quotas.entries.filter fun entry =>
    typeDistribution.getD entry.1 0 < entry.2).map fun entry =>
      (entry.1, entry.2 - typeDistribution.getD entry.1 0)

/-- `completion_level`; counts are natural numbers. -/
def completionLevel (typeDistribution : Quotas) : CompletionLevel :=
  if quotaDeficits typeDistribution false = [] then .target
  else if quotaDeficits typeDistribution true = [] then .normalFloor
  else if typeDistribution.values.sum ≥ 800 then .emergencyOnly
  else .insufficient

/-- `dict(sorted(Counter(kinds).items()))`: the kinds in the order of their
values, those that occur. -/
def typeDistribution (kinds : List QuestionType) : Quotas :=
  .ofList
    (([.comparison, .complexSummary, .fact, .multihop, .numericTable,
      .unanswerable].filter fun kind => kind ∈ kinds).map fun kind =>
        (kind, kinds.count kind))

/-- The same for difficulties. -/
def difficultyDistribution (levels : List Difficulty) : Dict Difficulty ℕ :=
  .ofList
    (([.easy, .hard, .medium].filter fun level => level ∈ levels).map
      fun level => (level, levels.count level))

structure ValidationConfig where
  quotas : Quotas := defaultQuotas
  perDocumentCap : ℕ := 300
  perPageCap : ℕ := 30
  duplicateSimilarityThreshold : ℚ := 92 / 100
  evidenceSimilarityThreshold : ℚ := 96 / 100
  rejectionSampleLimit : ℕ := 5
  contaminationTerms : List String := []

/-! ## Texts -/

/-- The characters `[0-9a-z가-힣]`. -/
def isSearchCharacter (character : Char) : Bool :=
  ('0' ≤ character ∧ character ≤ '9') ∨
    ('a' ≤ character ∧ character ≤ 'z') ∨
      ('가' ≤ character ∧ character ≤ '힣')

/-- `needle in haystack`. -/
def occursIn (needle haystack : String) : Bool :=
  needle.toList <:+: haystack.toList

section Texts

variable (platform : Platform)

/-- `_search_text`. -/
def searchText (value : String) : String :=
  String.ofList ((platform.lower (platform.nfkc value)).toList.filter
    isSearchCharacter)

/-- A match of `[-+]?` at the start, and what follows it. -/
def splitSign : List Char → List Char × List Char
  | [] => ([], [])
  | first :: rest =>
      if first = '-' ∨ first = '+' then ([first], rest) else ([], first :: rest)

/-- A match of `(?:\.\d+)?` at the start. -/
def matchFraction : List Char → List Char
  | [] => []
  | first :: rest =>
      if first = '.' ∧ rest.takeWhile platform.isDigit ≠ [] then
        '.' :: rest.takeWhile platform.isDigit
      else []

/-- The class `[\d,]`. -/
def isDigitOrComma (character : Char) : Bool :=
  platform.isDigit character || character == ','

/-- A match of `\d[\d,]*(?:\.\d+)?` at the start. -/
def matchUnsigned : List Char → Option (List Char)
  | [] => none
  | first :: rest =>
      if platform.isDigit first then
        some (first :: rest.takeWhile (isDigitOrComma platform) ++
          matchFraction platform (rest.dropWhile (isDigitOrComma platform)))
      else none

/-- A match of `[-+]?\d[\d,]*(?:\.\d+)?` at the start. -/
def matchNumber (text : List Char) : Option (List Char) :=
  (matchUnsigned platform (splitSign text).2).map ((splitSign text).1 ++ ·)

/-- `re.findall` of the number pattern; `skip` characters belong to the last
match. -/
def findNumbers : ℕ → List Char → List (List Char)
  | _, [] => []
  | skip + 1, _ :: rest => findNumbers skip rest
  | 0, first :: rest =>
      match matchNumber platform (first :: rest) with
      | some number => number :: findNumbers (number.length - 1) rest
      | none => findNumbers 0 rest

/-- `_numbers`, as a list of its members. -/
def numbers (value : String) : List String :=
  (findNumbers platform 0 value.toList).map fun number =>
    String.ofList (number.filter (· ≠ ','))

/-- The maximal runs of search characters that are long enough. -/
def contentTokenSequence (value : String) : List String :=
  (((platform.lower (platform.nfkc value)).toList.splitOnP
    fun character => !isSearchCharacter character).map String.ofList).filter
      fun token => token.length ≥ 2 ∨ token = "안" ∨ token = "못"

/-- `_question_fingerprint`. -/
def questionFingerprint (value : String) : String :=
  let normalized := searchText platform value
  match ["인가요", "인가", "입니까", "인가요"].find? fun suffix =>
      suffix.toList.isSuffixOf normalized.toList with
  | some suffix =>
      String.ofList (normalized.toList.take
        (normalized.length - suffix.length))
  | none => normalized

/-! ## Rules -/

/-- `_index_pages`, looked up: the windows that cover the page. -/
def pageWindows (windows : List SourceWindow) (documentId : String)
    (page : ℕ) : List SourceWindow :=
  windows.filter fun window =>
    window.documentId = documentId ∧ page ∈ window.pages

/-- `_document_text`, looked up. -/
def documentText (windows : List SourceWindow) (documentId : String) :
    Option String :=
  match windows.filter fun window => window.documentId = documentId with
  | [] => none
  | found => some (String.intercalate "\n" (found.map (·.content)))

/-- The source units of the page and chunk. -/
def citedUnits (windows : List SourceWindow) (documentId : String)
    (page : ℕ) (chunkId : String) : List SourceUnit :=
  (pageWindows windows documentId page).flatMap fun window =>
    window.sourceUnits.filter fun unit =>
      unit.page = page ∧ unit.chunkId = chunkId

/-- `_evidence_matches`. -/
def evidenceMatches (span source : String) (threshold : ℚ) : Bool :=
  let normalizedSpan := searchText platform span
  let normalizedSource := searchText platform source
  let windowSize := normalizedSpan.length
  let step := max 1 (windowSize / 10)
  if normalizedSpan = "" then false
  else if occursIn normalizedSpan normalizedSource then true
  else if windowSize > normalizedSource.length then false
  else
    (List.range ((normalizedSource.length - windowSize) / step + 1)).any
      fun index =>
        threshold ≤ platform.similarity normalizedSpan
          (String.ofList ((normalizedSource.toList.drop (index * step)).take
            windowSize))

/-- What `_evidence_rules` says about one span. -/
def spanRules (windows : List SourceWindow) (config : ValidationConfig)
    (span : EvidenceSpan) : List String :=
  if pageWindows windows span.documentId span.page = [] then
    ["impossible_page"]
  else
    let exactUnits :=
      citedUnits windows span.documentId span.page span.chunkId
    if exactUnits = [] then ["impossible_chunk"]
    else if exactUnits.any fun unit =>
        evidenceMatches platform span.text unit.content
          config.evidenceSimilarityThreshold then []
    else ["evidence_not_found"]

/-- `_evidence_rules`. -/
def evidenceRules (windows : List SourceWindow) (config : ValidationConfig)
    (candidate : QuestionCandidate) : List String :=
  candidate.evidenceSpans.flatMap (spanRules platform windows config)

/-- The texts of the evidence, joined by spaces. -/
def QuestionCandidate.evidenceText (candidate : QuestionCandidate) : String :=
  String.intercalate " " (candidate.evidenceSpans.map (·.text))

/-- `_answer_rules`. -/
def answerRules (candidate : QuestionCandidate) : List String :=
  match candidate.answerable, candidate.goldAnswer with
  | true, some goldAnswer =>
      let evidence := candidate.evidenceText
      let leaked :=
        if occursIn (searchText platform goldAnswer)
            (searchText platform candidate.question) then
          ["answer_leaked_in_question"]
        else []
      let literal : Bool := candidate.questionType = .fact ∨
        candidate.questionType = .numericTable
      let answerTokens := contentTokenSequence platform goldAnswer
      let evidenceTokens := contentTokenSequence platform evidence
      let answerRelations := answerTokens.zip answerTokens.tail
      let evidenceRelations := evidenceTokens.zip evidenceTokens.tail
      let supported :=
        if !(numbers platform goldAnswer).all
            (· ∈ numbers platform evidence) then
          ["numeric_mismatch"]
        else if literal then
          if occursIn (searchText platform goldAnswer)
              (searchText platform evidence) then []
          else ["answer_not_supported"]
        else if answerTokens.all (· ∈ evidenceTokens) ∧
            answerRelations.all (· ∈ evidenceRelations) then []
        else ["answer_not_supported"]
      leaked ++ supported
  | _, _ => []

/-- `_unanswerable_rules`. -/
def unanswerableRules (windows : List SourceWindow)
    (candidate : QuestionCandidate) : List String :=
  if candidate.answerable then []
  else
    match candidate.unanswerableTransform with
    | none => ["malformed_unanswerable"]
    | some transform =>
        match documentText windows transform.targetDocumentId with
        | none => ["impossible_target_document"]
        | some target =>
            let targetUnits := citedUnits windows transform.targetDocumentId
              transform.targetPage transform.targetChunkId
            let transformed := searchText platform transform.transformedFact
            (if targetUnits.any fun unit =>
                occursIn (searchText platform transform.originalFact)
                  (searchText platform unit.content) then []
              else ["original_fact_not_found"]) ++
            (if occursIn transformed (searchText platform target) then
                ["asserted_absent_fact_present"]
              else []) ++
            (if occursIn transformed
                (searchText platform candidate.question) then []
              else ["transformed_fact_not_in_question"])

def contaminationRules (terms : List String)
    (candidate : QuestionCandidate) : List String :=
  let texts := [candidate.question, candidate.goldAnswer.getD ""].filter
    (· ≠ "")
  let searchable := searchText platform (String.intercalate " " texts)
  if terms.any fun term => occursIn (searchText platform term) searchable then
    ["contamination_detected"]
  else []

/-! ## Duplicates -/

/-- `find`, with path halving; the fuel bounds the length of a path. -/
def findRoot : ℕ → List ℕ → ℕ → List ℕ × ℕ
  | 0, parent, index => (parent, index)
  | fuel + 1, parent, index =>
      let above := parent.getD index index
      if above = index then (parent, index)
      else
        let grandparent := parent.getD above above
        findRoot fuel (parent.set index grandparent) grandparent

/-- `union`. -/
def unite (parent : List ℕ) (left right : ℕ) : List ℕ :=
  let (parent, leftRoot) := findRoot parent.length parent left
  let (parent, rightRoot) := findRoot parent.length parent right
  if leftRoot ≠ rightRoot then parent.set rightRoot leftRoot else parent

/-- The parents after all similar pairs have been united. -/
def duplicateParents (fingerprints : List String) (threshold : ℚ) :
    List ℕ :=
  let indices := List.range fingerprints.length
  (indices.flatMap fun left =>
    (indices.filter fun right => left < right).map fun right =>
      (left, right)).foldl (fun parent pair =>
        if threshold ≤ platform.similarity (fingerprints.getD pair.1 "")
            (fingerprints.getD pair.2 "") then
          unite parent pair.1 pair.2
        else parent) indices

/-- `_duplicate_groups`: the groups of more than one candidate, in the order
of their roots, and the identifiers of all but the first of each. -/
def duplicateGroups (candidates : List QuestionCandidate) (threshold : ℚ) :
    List (List String) × List String :=
  let fingerprints := candidates.map fun candidate =>
    questionFingerprint platform candidate.question
  let parent := duplicateParents platform fingerprints threshold
  let indices := List.range candidates.length
  let roots := indices.map fun index =>
    (findRoot parent.length parent index).2
  let identifiers := candidates.map (·.candidateId)
  let groups := (indices.map fun root =>
    (indices.filter fun index => roots.getD index index = root).map fun index =>
      identifiers.getD index "").filter fun group => 1 < group.length
  (groups, groups.flatMap List.tail)

/-! ## The pass over the candidates -/

structure ValidationState where
  typeCounts : Quotas := .empty
  documentCounts : Dict String ℕ := .empty
  pageCounts : Dict (String × ℕ) ℕ := .empty
  seen : List String := []
  validated : List QuestionCandidate := []

/-- The documents a candidate is counted for. -/
def QuestionCandidate.documents (candidate : QuestionCandidate) :
    List String :=
  match candidate.unanswerableTransform with
  | some transform => [transform.targetDocumentId]
  | none => distinct (candidate.evidenceSpans.map (·.documentId))

/-- The pages a candidate is counted for. -/
def QuestionCandidate.pages (candidate : QuestionCandidate) :
    List (String × ℕ) :=
  let spans := candidate.evidenceSpans.map fun span =>
    (span.documentId, span.page)
  match candidate.unanswerableTransform with
  | some transform =>
      distinct (spans ++ [(transform.targetDocumentId, transform.targetPage)])
  | none => distinct spans

/-- `counts[key] += 1` for each key. -/
def countAll {κ : Type} [DecidableEq κ] (counts : Dict κ ℕ) (keys : List κ) :
    Dict κ ℕ :=
  keys.foldl (fun counts key => counts.set key (counts.getD key 0 + 1)) counts

/-- The rules a candidate fails by itself, or as a duplicate. -/
def candidateRules (windows : List SourceWindow) (config : ValidationConfig)
    (terms duplicateIds : List String) (state : ValidationState)
    (candidate : QuestionCandidate) : List String :=
  (if candidate.candidateId ∈ state.seen then ["duplicate_candidate_id"]
    else []) ++
  (if candidate.candidateId ∈ duplicateIds then ["duplicate_question"]
    else []) ++
  evidenceRules platform windows config candidate ++
  answerRules platform candidate ++
  unanswerableRules platform windows candidate ++
  contaminationRules platform terms candidate

/-- The quota or cap that is exhausted, if any. -/
def capacityRules (config : ValidationConfig) (state : ValidationState)
    (candidate : QuestionCandidate) : List String :=
  if state.typeCounts.getD candidate.questionType 0 ≥
      config.quotas.getD candidate.questionType 0 then
    ["type_quota_exceeded"]
  else if candidate.documents.any fun documentId =>
      state.documentCounts.getD documentId 0 ≥ config.perDocumentCap then
    ["per_document_cap_exceeded"]
  else if candidate.pages.any fun page =>
      state.pageCounts.getD page 0 ≥ config.perPageCap then
    ["per_page_cap_exceeded"]
  else []

/-- All rules the candidate fails, each once. -/
def failedRules (windows : List SourceWindow) (config : ValidationConfig)
    (terms duplicateIds : List String) (state : ValidationState)
    (candidate : QuestionCandidate) : List String :=
  let own := candidateRules platform windows config terms duplicateIds state
    candidate
  distinct (if own = [] then capacityRules config state candidate else own)

/-- The candidate with its decision. -/
def QuestionCandidate.judged (candidate : QuestionCandidate)
    (rules : List String) : QuestionCandidate :=
  { candidate with
    validation :=
      { decision := if rules = [] then .accepted else .rejected
        ruleCodes := rules } }

/-- One round of the loop of `validate_candidates`. -/
def validateNext (windows : List SourceWindow) (config : ValidationConfig)
    (terms duplicateIds : List String) (state : ValidationState)
    (candidate : QuestionCandidate) : ValidationState :=
  let rules := failedRules platform windows config terms duplicateIds state
    candidate
  let marked := { state with
    seen := state.seen ++ [candidate.candidateId]
    validated := state.validated ++ [candidate.judged rules] }
  if rules = [] then
    { marked with
      typeCounts := countAll state.typeCounts [candidate.questionType]
      documentCounts := countAll state.documentCounts candidate.documents
      pageCounts := countAll state.pageCounts candidate.pages }
  else marked

/-- One round judges one candidate. -/
theorem validateNext_validated (windows : List SourceWindow)
    (config : ValidationConfig) (terms duplicateIds : List String)
    (state : ValidationState) (candidate : QuestionCandidate) :
    (validateNext platform windows config terms duplicateIds state
      candidate).validated = state.validated ++
        [candidate.judged (failedRules platform windows config terms
          duplicateIds state candidate)] := by
  unfold validateNext
  dsimp only
  split_ifs <;> rfl

structure ValidationReport where
  items : List QuestionCandidate
  acceptedCount : ℕ
  rejectedCount : ℕ
  rejectionCounts : Dict String ℕ
  typeDistribution : Quotas
  difficultyDistribution : Dict Difficulty ℕ
  documentDistribution : Dict String ℕ
  duplicateGroups : List (List String)
  quotaDeficits : List (QuestionType × ℕ)

def QuestionCandidate.isAccepted (candidate : QuestionCandidate) : Bool :=
  candidate.validation.decision = .accepted

/-- `validate_candidates`. -/
def validateCandidates (candidates : List QuestionCandidate)
    (corpus : List SourceWindow) (config : ValidationConfig)
    (contaminationTerms : List String) : ValidationReport :=
  let (groups, duplicateIds) := duplicateGroups platform candidates
    config.duplicateSimilarityThreshold
  let terms := config.contaminationTerms ++ contaminationTerms
  let state := candidates.foldl
    (validateNext platform corpus config terms duplicateIds) {}
  let accepted := state.validated.filter (·.isAccepted)
  let distribution := typeDistribution (accepted.map (·.questionType))
  { items := state.validated
    acceptedCount := accepted.length
    rejectedCount := state.validated.length - accepted.length
    rejectionCounts := (countAll .empty
      (state.validated.flatMap (·.validation.ruleCodes))).sorted
    typeDistribution := distribution
    difficultyDistribution :=
      difficultyDistribution (accepted.map (·.difficulty))
    documentDistribution := state.documentCounts.sorted
    duplicateGroups := groups
    quotaDeficits := quotaDeficits distribution false }

end Texts

end RagBench
