import RagBench.Providers.CacheKeys
import RagBench.Ingestion.PaidEvidence

/-!
# Page counts of split documents

The parser compares the page count of a response with the manifest.  For a
split document it sees the merged response, whose usage states the total the
gateway asked for; what the chunks reported is not carried over.
-/

namespace RagBench

def pageCountMismatch : PyException :=
  parseIntegrityError "provider billable page count does not match the corpus"

section Never

variable {unwanted : PyException}

end Never

mutual

/-- Hashing complains about values and types only. -/
private theorem canonicalize_error {floats : FloatText} {error : PyException} :
    ∀ value : PyValue, value.canonicalize floats = .error error →
      error.cls = .valueError ∨ error.cls = .typeError
  | .null, failed | .bool _, failed | .int _, failed | .str _, failed
  | .float (.finite _), failed | .decimal _, failed | .datetime _, failed
  | .uuid _, failed | .path _, failed | .enum _, failed
  | .bytes _, failed => by cases failed
  | .float .nan, failed | .float .infinity, failed
  | .float .negativeInfinity, failed => by
      cases failed
      exact .inl rfl
  | .unsupported _, failed => by
      cases failed
      exact .inr rfl
  | .list items, failed | .tuple items, failed | .set items, failed
  | .frozenset items, failed => by
      rcases bind_eq_error.mp failed with failed | ⟨_, _, failed⟩
      · exact canonicalizeItems_error items failed
      · cases failed
  | .dict entries, failed | .dataclass entries, failed => by
      rcases bind_eq_error.mp failed with failed | ⟨_, _, failed⟩
      · exact canonicalizeEntries_error entries failed
      · cases failed

private theorem canonicalizeItems_error {floats : FloatText}
    {error : PyException} : ∀ items : List PyValue,
      PyValue.canonicalizeItems floats items = .error error →
        error.cls = .valueError ∨ error.cls = .typeError
  | [], failed => by cases failed
  | item :: rest, failed => by
      rcases bind_eq_error.mp failed with failed | ⟨_, _, failed⟩
      · exact canonicalize_error item failed
      rcases bind_eq_error.mp failed with failed | ⟨_, _, failed⟩
      · exact canonicalizeItems_error rest failed
      · cases failed

private theorem canonicalizeEntries_error {floats : FloatText}
    {error : PyException} : ∀ entries : List (String × PyValue),
      PyValue.canonicalizeEntries floats entries = .error error →
        error.cls = .valueError ∨ error.cls = .typeError
  | [], failed => by cases failed
  | (_, value) :: rest, failed => by
      rcases bind_eq_error.mp failed with failed | ⟨_, _, failed⟩
      · exact canonicalize_error value failed
      rcases bind_eq_error.mp failed with failed | ⟨_, _, failed⟩
      · exact canonicalizeEntries_error rest failed
      · cases failed

end

theorem Platform.HashesCanonically.error {platform : Platform}
    {floats : FloatText} (hashes : platform.HashesCanonically floats)
    {value : Json} {error : PyException}
    (failed : platform.canonicalJsonHash value = .error error) :
    error.cls = .valueError ∨ error.cls = .typeError := by
  rw [hashes] at failed
  rcases bind_eq_error.mp failed with failed | ⟨_, _, failed⟩
  · rcases bind_eq_error.mp failed with failed | ⟨_, _, failed⟩
    · exact canonicalize_error _ failed
    · cases failed
  · cases failed

section Normalize

variable {parser : CorpusParser} {snapshot : CorpusSnapshot}
  {document : DocumentRecord} {mode : ParseMode} {latencyMs : ℕ}
  {response : ParsedDocument}

/-- What a merge states about model, elements and page counts. -/
structure MergedFields (chunks : List (ℕ × ℕ × ParsedDocument))
    (totalPages : ℤ) (merged : JsonObject) (model : String)
    (elements : List JsonObject) : Prop where
  nonempty : ∃ chunk, chunk ∈ chunks
  models : ∀ chunk ∈ chunks,
    Json.get? chunk.2.2.rawResponse "model" = some (.str model)
  named : model ≠ ""
  merged_model : Json.get? merged "model" = some (.str model)
  merged_elements : Json.get? merged "elements" = some (.array (elements.map .object))
  merged_usage : Json.get? merged "usage" =
    some (.object [("pages", .int totalPages)])
  billable_pages : Json.get? merged "billable_pages" = none
  page_count : Json.get? merged "page_count" = none

/-- A usage is the only page count of a merged response. -/
theorem MergedFields.validate {chunks : List (ℕ × ℕ × ParsedDocument)}
    {totalPages count : ℤ} {merged : JsonObject} {model : String}
    {elements : List JsonObject}
    (fields : MergedFields chunks totalPages merged model elements)
    {raw : JsonObject} (usage : Json.get? raw "usage" =
      some (.object [("pages", .int count)]))
    (others : ∀ key ≠ "usage", Json.get? raw key = Json.get? merged key)
    (expectedPages : ℕ) :
    validateProviderPageCount raw expectedPages =
      if count = expectedPages then .ok true
      else .error pageCountMismatch := by
  have observed : observedPageCounts raw = .ok [.int count] := by
    unfold observedPageCounts
    rw [usage]
    simp only [List.filterMap_cons, List.filterMap_nil,
      others "billable_pages" (by decide), others "page_count" (by decide),
      fields.billable_pages, fields.page_count]
    rfl
  unfold validateProviderPageCount
  rw [observed]
  by_cases same : count = expectedPages
  · simp [same, Json.asInt, bind, Except.bind, pure, Except.pure]
  · simp [same, Json.asInt, bind, Except.bind, throw, throwThe,
      MonadExceptOf.throw, pageCountMismatch]

end Normalize

/-! ## A wrong count in the second chunk -/

end RagBench
