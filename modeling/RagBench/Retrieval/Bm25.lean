import RagBench.Counters
import RagBench.Retrieval.Fusion

/-!
# The BM25 baseline

An index counts the tokens of its documents once.  A search scores the allowed
documents with these counts.  Scores are exact.
-/

namespace RagBench

/-- What the baseline uses of the Unicode data and of `math`. -/
structure BM25Tools where
  /-- `unicodedata.normalize("NFKC", text)`. -/
  nfkc : String → String
  /-- `text.casefold()`. -/
  casefold : String → String
  isDigit : Char → Bool
  isWordCharacter : Char → Bool
  /-- `math.log(value)` of a positive value. -/
  log : ℚ → ℚ

section Tokens

variable (tools : BM25Tools)

/-! ## Tokens -/

/-- `(?:,\d{3})*`. -/
def digitGroups : List Char → List Char
  | ',' :: first :: second :: third :: rest =>
      if [first, second, third].all tools.isDigit then
        ',' :: first :: second :: third :: digitGroups rest
      else []
  | _ => []

/-- `(?:\.\d+)?`. -/
def decimals : List Char → List Char
  | '.' :: rest =>
      if rest.takeWhile tools.isDigit = [] then []
      else '.' :: rest.takeWhile tools.isDigit
  | _ => []

/-- `[^\W\d_]`. -/
def isLetter (character : Char) : Bool :=
  tools.isWordCharacter character && !tools.isDigit character &&
    character ≠ '_'

/-- What `_TOKEN_PATTERN` matches at the start of a text.  Only a run of at
most three digits can be followed by groups. -/
def matchToken (text : List Char) : List Char :=
  let digits := text.takeWhile tools.isDigit
  let rest := text.dropWhile tools.isDigit
  if digits = [] then text.takeWhile (isLetter tools)
  else
    let groups := if digits.length ≤ 3 then digitGroups tools rest else []
    digits ++ groups ++ decimals tools (rest.drop groups.length)

/-- `_TOKEN_PATTERN.finditer`, after some characters of the last match. -/
def findTokens : ℕ → List Char → List String
  | _, [] => []
  | skipped + 1, _ :: rest => findTokens skipped rest
  | 0, first :: rest =>
      let token := matchToken tools (first :: rest)
      let later := findTokens (token.length - 1) rest
      if token = [] then later else String.ofList token :: later

def baselineTokenize (text : String) : List String :=
  findTokens tools 0 (tools.casefold (tools.nfkc text)).toList

end Tokens

/-! ## The index -/

structure BM25Document where
  chunkId : String
  documentId : String
  content : String
  filled : chunkId ≠ "" ∧ documentId ≠ "" ∧ content ≠ ""

/-- `BM25Document(chunk_id, document_id, content)`. -/
def BM25Document.create (chunkId documentId content : String) :
    Except PyException BM25Document :=
  if filled : chunkId ≠ "" ∧ documentId ≠ "" ∧ content ≠ "" then
    .ok ⟨chunkId, documentId, content, filled⟩
  else .error
    (.valueError "BM25 document identity and content cannot be empty")

structure BM25IndexSnapshot where
  searchFilter : SearchFilter
  documents : List BM25Document
  distinct : (documents.map BM25Document.chunkId).Nodup

/-- `BM25IndexSnapshot(search_filter, documents)`. -/
def BM25IndexSnapshot.create (searchFilter : SearchFilter)
    (documents : List BM25Document) : Except PyException BM25IndexSnapshot :=
  if distinct : (documents.map BM25Document.chunkId).Nodup then
    .ok ⟨searchFilter, documents, distinct⟩
  else .error (.valueError
    "duplicate chunk IDs are not allowed in a BM25 snapshot")

/-- `Counter(items)`. -/
def counterOf (items : List String) : Dict String ℕ :=
  items.foldl (fun counts item =>
    counts.set item (counts.getD item 0 + 1)) .empty

structure BM25Retriever where
  snapshot : BM25IndexSnapshot
  k1 : ℚ
  b : ℚ
  tokens : List (List String)
  termFrequencies : List (Dict String ℕ)
  documentFrequencies : Dict String ℕ
  averageLength : ℚ

/-- `math.log(value)`. -/
def BM25Tools.mathLog (tools : BM25Tools) (value : ℚ) :
    Except PyException ℚ :=
  if 0 < value then .ok (tools.log value)
  else .error (.valueError "math domain error")

namespace BM25Retriever

variable (tools : BM25Tools)

/-- `_average_length`. -/
def averageOf (tokens : List (List String)) : Except PyException ℚ :=
  if tokens = [] then .ok 0
  else floatDivide (tokens.map List.length).sum tokens.length

/-- `BM25Retriever(snapshot, k1=k1, b=b)`. -/
def create (snapshot : BM25IndexSnapshot) (k1 b : PyFloat) :
    Except PyException BM25Retriever := do
  raiseIf (¬k1.isFinite ∨ k1.exact ≤ 0)
    (.valueError "k1 must be finite and positive")
  raiseIf (¬b.isFinite ∨ ¬(0 ≤ b.exact ∧ b.exact ≤ 1))
    (.valueError "b must be finite and between 0 and 1")
  let tokens := snapshot.documents.map fun document =>
    baselineTokenize tools document.content
  let averageLength ← averageOf tokens
  return {
    snapshot := snapshot
    k1 := k1.exact
    b := b.exact
    tokens := tokens
    termFrequencies := tokens.map counterOf
    documentFrequencies := counterOf (tokens.flatMap fun tokens =>
      RagBench.distinct tokens)
    averageLength := averageLength }

variable (retriever : BM25Retriever)

/-- What one term adds to the score of a document. -/
def addTerm (frequencies : Dict String ℕ) (length : ℕ) (score : ℚ)
    (term : String) : Except PyException ℚ := do
  let termFrequency : ℚ := frequencies.getD term 0
  if termFrequency = 0 then return score
  let rowCount : ℚ := retriever.snapshot.documents.length
  let documentFrequency : ℚ := retriever.documentFrequencies.getD term 0
  let odds ← floatDivide (rowCount - documentFrequency + 1 / 2)
    (documentFrequency + 1 / 2)
  let inverseDocumentFrequency ← tools.mathLog (1 + odds)
  let lengthRatio ← floatDivide length retriever.averageLength
  let denominator := termFrequency +
    retriever.k1 * (1 - retriever.b + retriever.b * lengthRatio)
  let saturation ← floatDivide (termFrequency * (retriever.k1 + 1)) denominator
  return score + inverseDocumentFrequency * saturation

/-- The document is allowed by the filter. -/
def isAllowed (filter : SearchFilter) (document : BM25Document) : Bool :=
  filter.documentIds = [] ∨ document.documentId ∈ filter.documentIds

/-- One document of the loop. -/
def scoreDocument (filter : SearchFilter) (queryTerms : List String)
    (scored : List (String × ℚ))
    (row : BM25Document × Dict String ℕ × List String) :
    Except PyException (List (String × ℚ)) := do
  let (document, frequencies, tokens) := row
  if ¬isAllowed filter document then return scored
  let score ← queryTerms.foldlM
    (addTerm tools retriever frequencies tokens.length) 0
  return if 0 < score then scored ++ [(document.chunkId, score)] else scored

/-- The filter names the snapshots of the other one. -/
def SameSnapshots (filter other : SearchFilter) : Prop :=
  filter.corpusSnapshotId = other.corpusSnapshotId ∧
    filter.parseSnapshotId = other.parseSnapshotId ∧
    filter.chunkStrategy = other.chunkStrategy ∧
    filter.embeddingSnapshotId = other.embeddingSnapshotId

instance (filter other : SearchFilter) :
    Decidable (SameSnapshots filter other) :=
  inferInstanceAs (Decidable (_ ∧ _))

def search (query : String) (topK : ℤ) (filter : SearchFilter) :
    Except PyException (List SearchHit) := do
  raiseIf (topK ≤ 0) (.valueError "top_k must be positive")
  raiseIf (filter ≠ retriever.snapshot.searchFilter ∧
      ¬SameSnapshots filter retriever.snapshot.searchFilter) (.valueError
    "search filter snapshot identity does not match BM25 index snapshot")
  let queryTerms := RagBench.distinct (baselineTokenize tools query)
  if queryTerms = [] ∨ retriever.snapshot.documents = [] then return []
  let scored ← (retriever.snapshot.documents.zip
      (retriever.termFrequencies.zip retriever.tokens)).foldlM
    (scoreDocument tools retriever filter queryTerms) []
  return numberHits "bm25" ((sortBy scoredKey scored).take topK.toNat)

end BM25Retriever

/-! ## Exact scores -/

/-- Parameters that the constructor accepts. -/
structure AcceptedParameters (k1 b : PyFloat) : Prop where
  k1_finite : k1.isFinite = true
  k1_positive : 0 < k1.exact
  b_finite : b.isFinite = true
  b_nonneg : 0 ≤ b.exact
  b_le_one : b.exact ≤ 1

section Scores

variable (tools : BM25Tools) (snapshot : BM25IndexSnapshot) (k1 b : ℚ)

def contentTokens (document : BM25Document) : List String :=
  baselineTokenize tools document.content

/-- How many documents contain a term. -/
def documentFrequency (term : String) : ℕ :=
  snapshot.documents.countP fun document =>
    term ∈ contentTokens tools document

def meanLength : ℚ :=
  ((snapshot.documents.map fun document =>
    (contentTokens tools document).length).sum : ℕ) /
      (snapshot.documents.length : ℚ)

def inverseDocumentFrequency (term : String) : ℚ :=
  let frequency : ℚ := documentFrequency tools snapshot term
  tools.log (1 + (snapshot.documents.length - frequency + 1 / 2) /
    (frequency + 1 / 2))

/-- The frequency of a term, saturated by `k1` and the length. -/
def saturatedFrequency (document : BM25Document) (term : String) : ℚ :=
  let tokens := contentTokens tools document
  let frequency : ℚ := tokens.count term
  frequency * (k1 + 1) / (frequency + k1 *
    (1 - b + b * (tokens.length / meanLength tools snapshot)))

/-- The Okapi score of a document. -/
def bm25Score (query : String) (document : BM25Document) : ℚ :=
  ((distinct (baselineTokenize tools query)).map fun term =>
    inverseDocumentFrequency tools snapshot term *
      saturatedFrequency tools snapshot k1 b document term).sum

/-- The index that the constructor builds. -/
def bm25Index : BM25Retriever :=
  let tokens := snapshot.documents.map (contentTokens tools)
  { snapshot := snapshot
    k1 := k1
    b := b
    tokens := tokens
    termFrequencies := tokens.map counterOf
    documentFrequencies := counterOf (tokens.flatMap fun tokens =>
      distinct tokens)
    averageLength := meanLength tools snapshot }

/-- The document shares a token with the query. -/
def SharesToken (query : String) (document : BM25Document) : Prop :=
  ∃ token ∈ baselineTokenize tools query, token ∈ contentTokens tools document

end Scores

theorem getD_counterOf (items : List String) (item : String) :
    (counterOf items).getD item 0 = items.count item := by
  have counted := (Tallies.empty.countEach id items).getD item
  rw [List.map_id] at counted
  simpa [counterOf] using counted

private theorem count_flatMap_distinct (lists : List (List String))
    (item : String) :
    (lists.flatMap fun list => distinct list).count item =
      lists.countP fun list => item ∈ list := by
  induction lists with
  | nil => rfl
  | cons list lists induction =>
      rw [List.flatMap_cons, List.count_append, induction, List.countP_cons,
        (distinct_nodup list).count, add_comm]
      simp only [mem_distinct, decide_eq_true_eq]

section Index

variable {tools : BM25Tools} {snapshot : BM25IndexSnapshot}

namespace BM25Retriever

private theorem averageOf_ok :
    averageOf (snapshot.documents.map (contentTokens tools)) =
      .ok (meanLength tools snapshot) := by
  rw [averageOf, List.map_map, List.length_map]
  split_ifs with empty
  · rw [meanLength, List.map_eq_nil_iff.mp empty]
    simp
  · have nonzero : (snapshot.documents.length : ℚ) ≠ 0 := by
      rw [Nat.cast_ne_zero, Ne, List.length_eq_zero_iff]
      exact fun none => empty (List.map_eq_nil_iff.mpr none)
    exact floatDivide_ok nonzero

/-- The constructor builds the index; it divides by no zero. -/
theorem create_eq_bm25Index {k1 b : PyFloat}
    (accepted : AcceptedParameters k1 b) :
    create tools snapshot k1 b =
      .ok (bm25Index tools snapshot k1.exact b.exact) := by
  have first : ¬(¬k1.isFinite ∨ k1.exact ≤ 0) := by
    simp [accepted.k1_finite, accepted.k1_positive]
  have second : ¬(¬b.isFinite ∨ ¬(0 ≤ b.exact ∧ b.exact ≤ 1)) := by
    simp [accepted.b_finite, accepted.b_nonneg, accepted.b_le_one]
  rw [create, raiseIf_bind first, raiseIf_bind second]
  change averageOf (snapshot.documents.map (contentTokens tools)) >>= _ = _
  rw [averageOf_ok]
  rfl

/-! ## The loop over the documents -/

variable {k1 b : ℚ}

theorem getD_documentFrequencies (term : String) :
    (bm25Index tools snapshot k1 b).documentFrequencies.getD term 0 =
      documentFrequency tools snapshot term := by
  rw [bm25Index, getD_counterOf, count_flatMap_distinct, List.countP_map]
  rfl

/-- A term occurs in no more documents than there are. -/
private theorem odds_pos (term : String) :
    0 < ((snapshot.documents.length : ℚ) -
        documentFrequency tools snapshot term + 1 / 2) /
      (documentFrequency tools snapshot term + 1 / 2) := by
  have most : (documentFrequency tools snapshot term : ℚ) ≤
      snapshot.documents.length := Nat.cast_le.mpr List.countP_le_length
  have numerator : 0 < (snapshot.documents.length : ℚ) -
      documentFrequency tools snapshot term + 1 / 2 := by linarith
  positivity

/-- The average is positive where a document has a token. -/
private theorem meanLength_pos {document : BM25Document}
    (member : document ∈ snapshot.documents) {term : String}
    (present : term ∈ contentTokens tools document) :
    0 < meanLength tools snapshot := by
  have documents : 0 < snapshot.documents.length :=
    List.length_pos_of_mem member
  have tokens : 0 < (snapshot.documents.map fun document =>
      (contentTokens tools document).length).sum :=
    (List.length_pos_of_mem present).trans_le (List.le_sum_of_mem
      (List.mem_map.mpr ⟨document, member, rfl⟩))
  rw [meanLength]
  exact div_pos (Nat.cast_pos.mpr tokens) (Nat.cast_pos.mpr documents)

/-- The denominator of the saturation is positive. -/
private theorem denominator_pos (k1_positive : 0 < k1) (b_nonneg : 0 ≤ b)
    (b_le_one : b ≤ 1) {frequency length average : ℚ}
    (counted : 0 < frequency) (long : 0 ≤ length) (mean : 0 < average) :
    0 < frequency + k1 * (1 - b + b * (length / average)) := by
  have rest : 0 ≤ 1 - b := sub_nonneg.mpr b_le_one
  positivity

/-- A term of the query adds its share; no denominator is zero. -/
private theorem addTerm_ok (k1_positive : 0 < k1) (b_nonneg : 0 ≤ b)
    (b_le_one : b ≤ 1) {document : BM25Document}
    (member : document ∈ snapshot.documents) (score : ℚ) (term : String) :
    addTerm tools (bm25Index tools snapshot k1 b)
        (counterOf (contentTokens tools document))
        (contentTokens tools document).length score term =
      .ok (score + inverseDocumentFrequency tools snapshot term *
        saturatedFrequency tools snapshot k1 b document term) := by
  rw [addTerm, getD_counterOf, getD_documentFrequencies]
  dsimp only
  by_cases present : term ∈ contentTokens tools document
  · have counted : (0 : ℚ) < (contentTokens tools document).count term :=
      Nat.cast_pos.mpr (List.count_pos_iff.mpr present)
    have odds := @odds_pos tools snapshot term
    have nonzero : (documentFrequency tools snapshot term : ℚ) + 1 / 2 ≠ 0 := by
      positivity
    have mean := meanLength_pos member present
    have denominator := denominator_pos k1_positive b_nonneg b_le_one counted
      (Nat.cast_nonneg (contentTokens tools document).length) mean
    rw [if_neg counted.ne']
    change (floatDivide (snapshot.documents.length - _ + 1 / 2) _ >>= _) = _
    rw [floatDivide_ok nonzero]
    change (tools.mathLog _ >>= _) = _
    rw [BM25Tools.mathLog, if_pos (add_pos one_pos odds)]
    change (floatDivide _ (meanLength tools snapshot) >>= _) = _
    rw [floatDivide_ok mean.ne']
    change (floatDivide (_ * (k1 + 1)) (_ + k1 * (1 - b + b * _)) >>= _) = _
    rw [floatDivide_ok denominator.ne']
    rfl
  · have none : ((contentTokens tools document).count term : ℚ) = 0 :=
      Nat.cast_eq_zero.mpr (List.count_eq_zero_of_not_mem present)
    rw [if_pos none, saturatedFrequency, none, zero_mul, zero_div, mul_zero,
      add_zero]
    rfl

private theorem foldlM_addTerm (k1_positive : 0 < k1) (b_nonneg : 0 ≤ b)
    (b_le_one : b ≤ 1) {document : BM25Document}
    (member : document ∈ snapshot.documents) (terms : List String)
    (score : ℚ) :
    terms.foldlM (addTerm tools (bm25Index tools snapshot k1 b)
        (counterOf (contentTokens tools document))
        (contentTokens tools document).length) score =
      .ok (score + (terms.map fun term =>
        inverseDocumentFrequency tools snapshot term *
          saturatedFrequency tools snapshot k1 b document term).sum) := by
  induction terms generalizing score with
  | nil =>
      rw [List.map_nil, List.sum_nil, add_zero]
      rfl
  | cons term terms induction =>
      rw [List.foldlM_cons,
        addTerm_ok k1_positive b_nonneg b_le_one member score term]
      change List.foldlM _ _ terms = _
      rw [induction, List.map_cons, List.sum_cons, add_assoc]

/-- Only a term of the document has a share, and this share is positive. -/
private theorem share_pos_iff (positive : ∀ value, 1 < value →
      0 < tools.log value)
    (k1_positive : 0 < k1) (b_nonneg : 0 ≤ b) (b_le_one : b ≤ 1)
    {document : BM25Document} (member : document ∈ snapshot.documents)
    (term : String) :
    0 ≤ inverseDocumentFrequency tools snapshot term *
        saturatedFrequency tools snapshot k1 b document term ∧
      (0 < inverseDocumentFrequency tools snapshot term *
          saturatedFrequency tools snapshot k1 b document term ↔
        term ∈ contentTokens tools document) := by
  by_cases present : term ∈ contentTokens tools document
  · have counted : (0 : ℚ) < (contentTokens tools document).count term :=
      Nat.cast_pos.mpr (List.count_pos_iff.mpr present)
    have denominator := denominator_pos k1_positive b_nonneg b_le_one counted
      (Nat.cast_nonneg (contentTokens tools document).length)
      (meanLength_pos member present)
    have rarity : 0 < inverseDocumentFrequency tools snapshot term :=
      positive _ (lt_add_of_pos_right 1 (odds_pos term))
    have saturation : 0 <
        saturatedFrequency tools snapshot k1 b document term :=
      div_pos (mul_pos counted (by linarith)) denominator
    have share := mul_pos rarity saturation
    exact ⟨share.le, iff_of_true share present⟩
  · have none : saturatedFrequency tools snapshot k1 b document term = 0 := by
      rw [saturatedFrequency, List.count_eq_zero_of_not_mem present,
        Nat.cast_zero, zero_mul, zero_div]
    rw [none, mul_zero]
    exact ⟨le_rfl, iff_of_false (lt_irrefl 0) present⟩

/-- A sum of shares is positive where one of them is. -/
private theorem sum_pos_iff {shares : List ℚ}
    (nonneg : ∀ share ∈ shares, 0 ≤ share) :
    0 < shares.sum ↔ ∃ share ∈ shares, 0 < share := by
  induction shares with
  | nil => simp
  | cons share shares induction =>
      obtain ⟨first, later⟩ := List.forall_mem_cons.mp nonneg
      have rest := List.sum_nonneg later
      rw [List.sum_cons, List.exists_mem_cons_iff, ← induction later]
      constructor
      · intro total
        rcases first.lt_or_eq with more | same
        · exact .inl more
        · exact .inr (by rwa [← same, zero_add] at total)
      · rintro (more | more)
        · exact add_pos_of_pos_of_nonneg more rest
        · exact add_pos_of_nonneg_of_pos first more

theorem bm25Score_pos_iff (positive : ∀ value, 1 < value →
      0 < tools.log value)
    (k1_positive : 0 < k1) (b_nonneg : 0 ≤ b) (b_le_one : b ≤ 1)
    {document : BM25Document} (member : document ∈ snapshot.documents)
    (query : String) :
    0 < bm25Score tools snapshot k1 b query document ↔
      SharesToken tools query document := by
  have shares (term : String) := share_pos_iff positive k1_positive b_nonneg
    b_le_one member term
  rw [bm25Score, sum_pos_iff]
  · simp only [List.mem_map, exists_exists_and_eq_and, mem_distinct,
      (shares _).2, SharesToken]
  · intro share listed
    obtain ⟨term, -, rfl⟩ := List.mem_map.mp listed
    exact (shares term).1

/-- The scored documents that a filter allows. -/
def scoredDocuments (tools : BM25Tools) (snapshot : BM25IndexSnapshot)
    (k1 b : ℚ) (query : String) (filter : SearchFilter) :
    List (String × ℚ) :=
  (snapshot.documents.filter fun document => isAllowed filter document ∧
      0 < bm25Score tools snapshot k1 b query document).map fun document =>
    (document.chunkId, bm25Score tools snapshot k1 b query document)

/-- A loop that keeps the values of some rows. -/
private theorem foldlM_kept {α β : Type}
    {step : List β → α → Except PyException (List β)} {keep : α → Bool}
    {value : α → β} {rows : List α}
    (steps : ∀ row ∈ rows, ∀ kept, step kept row =
      .ok (if keep row then kept ++ [value row] else kept)) (kept : List β) :
    rows.foldlM step kept = .ok (kept ++ (rows.filter keep).map value) := by
  induction rows generalizing kept with
  | nil =>
      rw [List.filter_nil, List.map_nil, List.append_nil]
      rfl
  | cons row rows induction =>
      obtain ⟨first, later⟩ := List.forall_mem_cons.mp steps
      rw [List.foldlM_cons, first]
      change List.foldlM step _ rows = _
      rw [induction later, List.filter_cons]
      split_ifs
      · rw [List.map_cons, List.append_assoc]
        rfl
      · rfl

private theorem indexRows : snapshot.documents.zip
    ((bm25Index tools snapshot k1 b).termFrequencies.zip
      (bm25Index tools snapshot k1 b).tokens) =
    snapshot.documents.map fun document => (document,
      counterOf (contentTokens tools document),
      contentTokens tools document) := by
  rw [bm25Index, List.map_map, List.zip_map']
  nth_rewrite 1 [← List.map_id snapshot.documents]
  rw [List.zip_map']
  rfl

private theorem foldlM_scoreDocument (k1_positive : 0 < k1) (b_nonneg : 0 ≤ b)
    (b_le_one : b ≤ 1) (query : String) (filter : SearchFilter) :
    (snapshot.documents.zip ((bm25Index tools snapshot k1 b).termFrequencies.zip
        (bm25Index tools snapshot k1 b).tokens)).foldlM
      (scoreDocument tools (bm25Index tools snapshot k1 b) filter
        (distinct (baselineTokenize tools query))) [] =
      .ok (scoredDocuments tools snapshot k1 b query filter) := by
  rw [indexRows, List.foldlM_map]
  refine foldlM_kept (fun document member kept => ?_) []
  rw [scoreDocument]
  by_cases allowed : isAllowed filter document
  · rw [if_neg (not_not.mpr allowed),
      foldlM_addTerm k1_positive b_nonneg b_le_one member]
    change Except.ok (if 0 < 0 + bm25Score tools snapshot k1 b query document
      then kept ++ [(document.chunkId,
        0 + bm25Score tools snapshot k1 b query document)] else kept) = _
    simp only [zero_add, allowed, true_and, decide_eq_true_eq]
  · rw [if_pos allowed]
    simp only [allowed]
    rfl

/-- A search in the index ranks the scored documents. -/
theorem search_bm25Index (k1_positive : 0 < k1) (b_nonneg : 0 ≤ b)
    (b_le_one : b ≤ 1) (query : String) {topK : ℤ} (positive : 0 < topK)
    {filter : SearchFilter}
    (same : SameSnapshots filter snapshot.searchFilter) :
    search tools (bm25Index tools snapshot k1 b) query topK filter =
      .ok (numberHits "bm25" ((sortBy scoredKey
        (scoredDocuments tools snapshot k1 b query filter)).take
          topK.toNat)) := by
  have matching : ¬(filter ≠ (bm25Index tools snapshot k1 b).snapshot.searchFilter
      ∧ ¬SameSnapshots filter
        (bm25Index tools snapshot k1 b).snapshot.searchFilter) :=
    fun other => other.2 same
  have loop := @foldlM_scoreDocument tools snapshot k1 b k1_positive b_nonneg
    b_le_one query filter
  rw [search, raiseIf_bind (not_le.mpr positive), raiseIf_bind matching]
  dsimp only
  split_ifs with empty
  · have none : scoredDocuments tools snapshot k1 b query filter = [] := by
      rcases empty with terms | documents
      · have zero (document : BM25Document) :
            bm25Score tools snapshot k1 b query document = 0 := by
          rw [bm25Score, terms]
          rfl
        simp [scoredDocuments, zero]
      · rw [scoredDocuments, show snapshot.documents = [] from documents]
        rfl
    rw [none, sortBy_eq_self List.Pairwise.nil, List.take_nil]
    rfl
  · change List.foldlM _ _ (List.zip snapshot.documents _) >>= _ = _
    rw [loop]
    rfl

end BM25Retriever

end Index

/-! ## Exact searches -/

/-- The chunks of the documents that a filter allows. -/
def allowedChunks (snapshot : BM25IndexSnapshot) (filter : SearchFilter) :
    List String :=
  (snapshot.documents.filter (BM25Retriever.isAllowed filter)).map
    BM25Document.chunkId

/-- The filter without its documents. -/
def SearchFilter.unrestricted (filter : SearchFilter) : SearchFilter :=
  { filter with documentIds := [] }

/-- The ranking of all documents that share a token with the query. -/
structure RanksMatches (tools : BM25Tools) (snapshot : BM25IndexSnapshot)
    (k1 b : ℚ) (query : String) (filter : SearchFilter)
    (ranking : List SearchHit) : Prop where
  numbered : IsRanking ranking
  ordered : ranking.Pairwise SearchHit.Precedes
  matching : ∀ chunkId, chunkId ∈ ranking.map SearchHit.chunkId ↔
    ∃ document ∈ snapshot.documents, document.chunkId = chunkId ∧
      BM25Retriever.isAllowed filter document ∧
      SharesToken tools query document
  scores : ∀ hit ∈ ranking, ∃ document ∈ snapshot.documents,
    document.chunkId = hit.chunkId ∧
      hit.score = .finite (bm25Score tools snapshot k1 b query document)

/-- What the searches of an index owe to its snapshot. -/
structure SearchesExactly (tools : BM25Tools) (snapshot : BM25IndexSnapshot)
    (k1 b : ℚ) (search : String → ℤ → SearchFilter →
      Except PyException (List SearchHit)) : Prop where
  exact : ∀ query filter,
    BM25Retriever.SameSnapshots filter snapshot.searchFilter →
      ∃ ranking, RanksMatches tools snapshot k1 b query filter ranking ∧
        ∀ topK, 0 < topK →
          search query topK filter = .ok (ranking.take topK.toNat)
  restricted : ∀ query filter topK whole,
    BM25Retriever.SameSnapshots filter snapshot.searchFilter → 0 < topK →
      0 < whole → (snapshot.documents.length : ℤ) ≤ whole →
        ∃ complete hits,
          search query whole filter.unrestricted = .ok complete ∧
          search query topK filter = .ok hits ∧
          hits.map SearchHit.scored =
            ((complete.filter fun hit =>
              hit.chunkId ∈ allowedChunks snapshot filter).map
                SearchHit.scored).take topK.toNat
  tokens : ∀ query query',
    (∀ token, token ∈ baselineTokenize tools query ↔
      token ∈ baselineTokenize tools query') →
        search query = search query'

section Exact

variable {tools : BM25Tools} {snapshot : BM25IndexSnapshot}

open BM25Retriever

private theorem mem_allowedChunks {filter : SearchFilter}
    {document : BM25Document} (member : document ∈ snapshot.documents) :
    document.chunkId ∈ allowedChunks snapshot filter ↔
      isAllowed filter document := by
  rw [allowedChunks, List.mem_map]
  constructor
  · rintro ⟨other, inside, same⟩
    obtain ⟨listed, allowed⟩ := List.mem_filter.mp inside
    rwa [← List.inj_on_of_nodup_map snapshot.distinct listed member same]
  · intro allowed
    exact ⟨document, List.mem_filter.mpr ⟨member, allowed⟩, rfl⟩

theorem scoredDocuments_nodup (k1 b : ℚ) (query : String)
    (filter : SearchFilter) :
    ((scoredDocuments tools snapshot k1 b query filter).map
      Prod.fst).Nodup := by
  rw [scoredDocuments, List.map_map]
  exact (List.filter_sublist.map BM25Document.chunkId).nodup snapshot.distinct

/-- A filter only leaves scored documents out. -/
theorem scoredDocuments_filter (k1 b : ℚ) (query : String)
    (filter : SearchFilter) :
    scoredDocuments tools snapshot k1 b query filter =
      (scoredDocuments tools snapshot k1 b query filter.unrestricted).filter
        fun item => item.1 ∈ allowedChunks snapshot filter := by
  rw [scoredDocuments, scoredDocuments, List.filter_map, List.filter_filter]
  congr 1
  refine List.filter_congr fun document member => ?_
  have all : isAllowed filter.unrestricted document = true := by
    simp [isAllowed, SearchFilter.unrestricted]
  simp only [Function.comp_apply, mem_allowedChunks member, all, true_and,
    Bool.decide_and, Bool.decide_eq_true]

private theorem ranksMatches (positive : ∀ value, 1 < value →
      0 < tools.log value) {k1 b : ℚ}
    (k1_positive : 0 < k1) (b_nonneg : 0 ≤ b) (b_le_one : b ≤ 1)
    (query : String) (filter : SearchFilter) :
    RanksMatches tools snapshot k1 b query filter
      (numberHits "bm25" (sortBy scoredKey
        (scoredDocuments tools snapshot k1 b query filter))) := by
  have distinct := @scoredDocuments_nodup tools snapshot k1 b query filter
  have permuted := sortBy_perm scoredKey
    (scoredDocuments tools snapshot k1 b query filter)
  refine ⟨isRanking_numberHits _
    ((permuted.map Prod.fst).nodup_iff.mpr distinct),
    precedes_numberHits "bm25" distinct, fun chunkId => ?_, fun hit member => ?_⟩
  · rw [map_chunkId_numberHits, (permuted.map Prod.fst).mem_iff,
      scoredDocuments, List.map_map, List.mem_map]
    constructor
    · rintro ⟨document, inside, rfl⟩
      obtain ⟨listed, kept⟩ := List.mem_filter.mp inside
      obtain ⟨allowed, score⟩ := of_decide_eq_true kept
      exact ⟨document, listed, rfl, allowed, (bm25Score_pos_iff positive
        k1_positive b_nonneg b_le_one listed query).mp score⟩
    · rintro ⟨document, listed, rfl, allowed, shared⟩
      have score := (bm25Score_pos_iff positive k1_positive b_nonneg b_le_one
        listed query).mpr shared
      exact ⟨document, List.mem_filter.mpr
        ⟨listed, decide_eq_true ⟨allowed, score⟩⟩, rfl⟩
  · obtain ⟨value, listed, same, -, -⟩ := mem_numberHits member
    obtain ⟨document, inside, pair⟩ :=
      List.mem_map.mp (permuted.mem_iff.mp listed)
    obtain ⟨chunk, score⟩ := Prod.mk.inj pair
    exact ⟨document, (List.mem_filter.mp inside).1, chunk, by rw [same, score]⟩

private theorem bm25Score_congr {query query' : String}
    (same : ∀ token, token ∈ baselineTokenize tools query ↔
      token ∈ baselineTokenize tools query') (k1 b : ℚ) :
    bm25Score tools snapshot k1 b query =
      bm25Score tools snapshot k1 b query' := by
  funext document
  exact ((distinct_perm_iff.mpr same).map _).sum_eq

/-- The query counts as a set of tokens. -/
private theorem search_congr {k1 b : ℚ} (k1_positive : 0 < k1)
    (b_nonneg : 0 ≤ b) (b_le_one : b ≤ 1) {query query' : String}
    (same : ∀ token, token ∈ baselineTokenize tools query ↔
      token ∈ baselineTokenize tools query') :
    search tools (bm25Index tools snapshot k1 b) query =
      search tools (bm25Index tools snapshot k1 b) query' := by
  funext topK filter
  by_cases positive : 0 < topK
  · by_cases matching : SameSnapshots filter snapshot.searchFilter
    · rw [search_bm25Index k1_positive b_nonneg b_le_one query positive matching,
        search_bm25Index k1_positive b_nonneg b_le_one query' positive matching,
        scoredDocuments, scoredDocuments, bm25Score_congr same]
    · have drift : filter ≠ (bm25Index tools snapshot k1 b).snapshot.searchFilter
          ∧ ¬SameSnapshots filter
            (bm25Index tools snapshot k1 b).snapshot.searchFilter := by
        refine ⟨?_, matching⟩
        rintro rfl
        exact matching ⟨rfl, rfl, rfl, rfl⟩
      rw [search, search, raiseIf_bind (not_le.mpr positive),
        raiseIf_bind (not_le.mpr positive), raiseIf_bind_error drift,
        raiseIf_bind_error drift]
  · rw [search, search, raiseIf_bind_error (not_lt.mp positive),
      raiseIf_bind_error (not_lt.mp positive)]

/-- The constructor accepts its parameters, and no search in its index divides
by zero: it ranks the allowed documents that share a token with the query. -/
theorem bm25_search_exact (positive : ∀ value, 1 < value →
      0 < tools.log value) {k1 b : PyFloat}
    (accepted : AcceptedParameters k1 b) :
    ∃ retriever, BM25Retriever.create tools snapshot k1 b = .ok retriever ∧
      SearchesExactly tools snapshot k1.exact b.exact
        (BM25Retriever.search tools retriever) := by
  obtain ⟨-, k1_positive, -, b_nonneg, b_le_one⟩ := id accepted
  refine ⟨_, create_eq_bm25Index accepted, ?_⟩
  have searches (query : String) {topK : ℤ} (large : 0 < topK)
      {filter : SearchFilter}
      (same : SameSnapshots filter snapshot.searchFilter) :=
    @search_bm25Index tools snapshot _ _ k1_positive b_nonneg b_le_one query
      topK large filter same
  refine ⟨fun query filter same => ?_,
    fun query filter topK whole same large large' enough => ?_,
    fun query query' same => search_congr k1_positive b_nonneg b_le_one same⟩
  · refine ⟨_, ranksMatches positive k1_positive b_nonneg b_le_one query filter,
      fun topK large => ?_⟩
    rw [searches query large same, take_numberHits]
  · refine ⟨_, _, searches query large' same, searches query large same, ?_⟩
    have fits : (sortBy scoredKey (scoredDocuments tools snapshot k1.exact
        b.exact query filter.unrestricted)).length ≤ whole.toNat := by
      rw [(sortBy_perm scoredKey _).length_eq, scoredDocuments,
        List.length_map]
      exact (List.length_filter_le _ _).trans (by omega)
    rw [List.take_of_length_le fits, map_scored_numberHits]
    change _ = (((numberHits "bm25" _).filter
      ((fun item : String × PyFloat => decide
        (item.1 ∈ allowedChunks snapshot filter)) ∘ SearchHit.scored)).map
          SearchHit.scored).take topK.toNat
    rw [← List.filter_map, map_scored_numberHits, List.filter_map,
      ← List.map_take]
    congr 2
    rw [scoredDocuments_filter, ← filter_sortBy_of_nodup
      (scoredKey_nodup (scoredDocuments_nodup _ _ _ _))]
    rfl

end Exact

/-! ## A small index -/

/-- The first terms of the series of the logarithm. -/
def sampleLog (value : ℚ) : ℚ :=
  let ratio := (value - 1) / (value + 1)
  2 * (ratio + ratio ^ 3 / 3 + ratio ^ 5 / 5 + ratio ^ 7 / 7 + ratio ^ 9 / 9)

/-- ASCII texts in lower case. -/
def sampleBM25Tools : BM25Tools :=
  { nfkc := id
    casefold := id
    isDigit := Char.isDigit
    isWordCharacter := Char.isAlphanum
    log := sampleLog }

example : baselineTokenize sampleBM25Tools "ai, 1,234.50won / 12.5%" =
    ["ai", "1,234.50", "won", "12.5"] := by decide

theorem sampleLog_pos (value : ℚ) (large : 1 < value) : 0 < sampleLog value := by
  have ratio : 0 < (value - 1) / (value + 1) :=
    div_pos (by linarith) (by linarith)
  rw [sampleLog]
  positivity

def sampleIndexSnapshot : BM25IndexSnapshot :=
  { searchFilter :=
      { corpusSnapshotId := "corpus"
        parseSnapshotId := "parse"
        chunkStrategy := "fixed"
        embeddingSnapshotId := "embedding"
        documentIds := [] }
    documents :=
      [⟨"a", "first", "apple apple", by decide⟩,
        ⟨"b", "second", "apple pear", by decide⟩]
    distinct := by decide }

theorem bm25_search_exact_sample :
    ∃ retriever, BM25Retriever.create sampleBM25Tools sampleIndexSnapshot
        (.finite (6 / 5)) (.finite (3 / 4)) = .ok retriever ∧
      SearchesExactly sampleBM25Tools sampleIndexSnapshot (6 / 5) (3 / 4)
        (BM25Retriever.search sampleBM25Tools retriever) :=
  bm25_search_exact sampleLog_pos
    { k1_finite := rfl
      k1_positive := by norm_num [PyFloat.exact]
      b_finite := rfl
      b_nonneg := by norm_num [PyFloat.exact]
      b_le_one := by norm_num [PyFloat.exact] }

end RagBench
