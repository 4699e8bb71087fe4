import RagBench.Providers.Messages

/-!
# Content of a parse response

The provider may put the text at the top level, into a content object, into a
bare string or into the elements.
-/

namespace RagBench

/-- A value that is a non-empty string. -/
def nonemptyText : Option Json → List String
  | some (.str value) => if value = "" then [] else [value]
  | _ => []

/-- The Markdown of an element. -/
def elementMarkdown : Json → List String
  | .object element =>
      match Json.get? element "content" with
      | some (.object content) => nonemptyText (Json.get? content "markdown")
      | content => nonemptyText content
  | _ => []

/-- The HTML of an element. -/
def elementHtml : Json → List String
  | .object element =>
      match Json.get? element "content" with
      | some (.object content) => nonemptyText (Json.get? content "html")
      | _ => []
  | _ => []

/-- `elements` when it is a list. -/
def responseElements (raw : JsonObject) : List Json :=
  match Json.get? raw "elements" with
  | some (.array elements) => elements
  | _ => []

/-- `value if isinstance(value, str) else ""`. -/
def textOrEmpty : Json → String
  | .str value => value
  | _ => ""

/-- `_content_fields`. -/
def contentFields (raw : JsonObject) : String × String :=
  let markdown := (Json.get? raw "markdown").getD (.str "")
  let html := (Json.get? raw "html").getD (.str "")
  let (markdown, html) :=
    match Json.get? raw "content" with
    | some (.object content) =>
        ((Json.get? content "markdown").getD markdown,
          (Json.get? content "html").getD html)
    | some (.str content) =>
        (if markdown.truthy then markdown else .str content, html)
    | _ => (markdown, html)
  let elements := responseElements raw
  let markdown :=
    if markdown.truthy then markdown
    else .str ("\n\n".intercalate (elements.flatMap elementMarkdown))
  let html :=
    if html.truthy then html
    else .str ("\n".intercalate (elements.flatMap elementHtml))
  (textOrEmpty markdown, textOrEmpty html)

/-- The Markdown value that comes before the elements: of the content object, of
the response, or a bare string. -/
def statedMarkdown (raw : JsonObject) : Json :=
  let markdown := (Json.get? raw "markdown").getD (.str "")
  match Json.get? raw "content" with
  | some (.object content) => (Json.get? content "markdown").getD markdown
  | some (.str content) => if markdown.truthy then markdown else .str content
  | _ => markdown

def statedHtml (raw : JsonObject) : Json :=
  let html := (Json.get? raw "html").getD (.str "")
  match Json.get? raw "content" with
  | some (.object content) => (Json.get? content "html").getD html
  | _ => html

/-- The texts of the elements, joined as `_content_fields` does. -/
def elementsMarkdown (raw : JsonObject) : String :=
  "\n\n".intercalate ((responseElements raw).flatMap elementMarkdown)

def elementsHtml (raw : JsonObject) : String :=
  "\n".intercalate ((responseElements raw).flatMap elementHtml)

/-- The elements are read when no value is stated. -/
def statedOr (stated : Json) (elements : String) : String :=
  if stated.truthy then textOrEmpty stated else elements

/-- A text in the content object of a response. -/
def contentText (raw : JsonObject) (key : String) : String :=
  match Json.get? raw "content" with
  | some (.object content) =>
      match Json.get? content key with
      | some value => textOrEmpty value
      | none => ""
  | _ => ""

/-- A text in the content object was written there as a string. -/
private theorem contentText_filled {raw : JsonObject} {key : String}
    (filled : contentText raw key ≠ "") :
    ∃ content, Json.get? raw "content" = some (.object content) ∧
      Json.get? content key = some (.str (contentText raw key)) := by
  unfold contentText at filled ⊢
  cases found : Json.get? raw "content" with
  | none => simp [found] at filled
  | some value =>
      cases value with
      | object content =>
          refine ⟨content, rfl, ?_⟩
          rw [found] at filled
          dsimp only at filled ⊢
          cases inside : Json.get? content key with
          | none => simp [inside] at filled
          | some value =>
              cases value with
              | str text => rfl
              | _ => simp [inside, textOrEmpty] at filled
      | _ => simp [found] at filled

/-- The content object comes first. -/
theorem contentFields_markdown {raw : JsonObject}
    (filled : contentText raw "markdown" ≠ "") :
    (contentFields raw).1 = contentText raw "markdown" := by
  obtain ⟨content, found, inside⟩ := contentText_filled filled
  simp [contentFields, found, inside, Json.truthy, filled, textOrEmpty]

theorem contentFields_html {raw : JsonObject}
    (filled : contentText raw "html" ≠ "") :
    (contentFields raw).2 = contentText raw "html" := by
  obtain ⟨content, found, inside⟩ := contentText_filled filled
  simp [contentFields, found, inside, Json.truthy, filled, textOrEmpty]

/-- Two stages: the stated values, then the elements. -/
theorem contentFields_eq (raw : JsonObject) :
    contentFields raw =
      (statedOr (statedMarkdown raw) (elementsMarkdown raw),
        statedOr (statedHtml raw) (elementsHtml raw)) := by
  unfold contentFields statedOr statedMarkdown statedHtml
  cases Json.get? raw "content" with
  | none =>
      dsimp only
      split_ifs <;> rfl
  | some content =>
      cases content <;> dsimp only <;> split_ifs <;> rfl

/-- A content object with both texts, empty or not. -/
theorem contentFields_of_texts {raw content : JsonObject}
    {markdown html : String}
    (found : Json.get? raw "content" = some (.object content))
    (markdownAt : Json.get? content "markdown" = some (.str markdown))
    (htmlAt : Json.get? content "html" = some (.str html)) :
    contentFields raw =
      (if markdown = "" then elementsMarkdown raw else markdown,
        if html = "" then elementsHtml raw else html) := by
  simp only [contentFields, found, markdownAt, htmlAt, Option.getD_some,
    Json.truthy, elementsMarkdown, elementsHtml]
  by_cases first : markdown = "" <;> by_cases second : html = "" <;>
    simp [first, second, textOrEmpty]

theorem nonemptyText_ne_empty {value : Option Json} :
    ∀ text ∈ nonemptyText value, text ≠ "" := by
  intro text member
  unfold nonemptyText at member
  split at member
  · split_ifs at member with empty
    · cases member
    · rw [List.mem_singleton.mp member]
      exact empty
  · cases member

theorem elementMarkdown_ne_empty {element : Json} :
    ∀ text ∈ elementMarkdown element, text ≠ "" := by
  intro text member
  unfold elementMarkdown at member
  split at member
  · split at member <;> exact nonemptyText_ne_empty text member
  · cases member

theorem elementHtml_ne_empty {element : Json} :
    ∀ text ∈ elementHtml element, text ≠ "" := by
  intro text member
  unfold elementHtml at member
  split at member
  · split at member
    · exact nonemptyText_ne_empty text member
    · cases member
  · cases member

end RagBench
