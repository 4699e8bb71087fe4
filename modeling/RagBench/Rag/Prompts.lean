import RagBench.Core.MarkupEscape
import RagBench.Rag.Context
import RagBench.Substitution

/-!
# Prompts

A template has a place for the question and one for the context.  They are
filled in turn, so a question that spells the placeholder of the context gets
the context into its own text.
-/

namespace RagBench

inductive PromptVersion where
  | v1
  | v2
  | v3
  deriving DecidableEq, Repr

def PromptVersion.value : PromptVersion → String
  | .v1 => "v1"
  | .v2 => "v2"
  | .v3 => "v3"

def questionPlaceholder : List Char :=
  "\x7b\x7bQUESTION_JSON\x7d\x7d".toList

def contextPlaceholder : List Char :=
  "\x7b\x7bCONTEXT\x7d\x7d".toList

/-- `_safe_json(json.dumps(question, ensure_ascii=False))`. -/
def questionJson (question : String) : List Char :=
  safeJson (quoted question)

/-- `render_prompt`, with the templates of the package. -/
def renderPrompt (templates : PromptVersion → String)
    (version : PromptVersion) (question : String) (context : ContextBundle) :
    Except PyException String := do
  raiseIf (strip question = "") (.valueError "question cannot be blank")
  let template := (templates version).toList
  raiseIf (textCount questionPlaceholder template ≠ 1 ∨
      textCount contextPlaceholder template ≠ 1)
    (.runtimeError ("prompt version " ++ version.value ++
      " has an invalid template contract"))
  return String.ofList (replaceText contextPlaceholder context.text.toList
    (replaceText questionPlaceholder (questionJson question) template))

/-! ## The placeholders -/

theorem placeholders_apart : Apart questionPlaceholder contextPlaceholder where
  filled := by decide +kernel
  filled' := by decide +kernel
  passes := by decide +kernel
  passes' := by decide +kernel
  unreached := by decide +kernel
  unreached' := by decide +kernel

/-- What a character of the question becomes. -/
def questionCharacter (character : Char) : List Char :=
  safeJson (escapeChar character)

theorem questionJson_eq (question : String) :
    questionJson question =
      '"' :: (question.toList.flatMap questionCharacter ++ ['"']) := by
  have each : questionCharacter = fun character =>
      (escapeChar character).flatMap safeCharacter :=
    funext fun character => safeJson_eq _
  simp only [each, questionJson, quoted, escape, safeJson_eq,
    List.flatMap_append, List.flatMap_assoc]
  rfl

/-- No escape has a brace. -/
theorem questionCharacter_escapes :
    EscapesFrom '\\' contextPlaceholder questionCharacter := by
  have brace : contextPlaceholder.head? = some '\x7b' := by
    decide +kernel
  have digits : ∀ digit < 16, Nat.digitChar digit ≠ '\x7b' := by
    decide
  have shown {tail : List Char} (plain : '\x7b' ∉ '\\' :: tail) :
      ('\\' :: tail).head? = some '\\' ∧
        ∀ other ∈ '\\' :: tail, contextPlaceholder.head? ≠ some other :=
    ⟨rfl, fun other member same =>
      plain (Option.some.inj (brace.symm.trans same) ▸ member)⟩
  have escaped {tail : List Char} (plain : '\x7b' ∉ '\\' :: tail) :
      (safeJson ('\\' :: tail)).head? = some '\\' ∧
        ∀ other ∈ safeJson ('\\' :: tail),
          contextPlaceholder.head? ≠ some other := by
    refine ⟨by rw [safeJson_plain (by decide)]; rfl, ?_⟩
    rw [brace]
    rintro _ member ⟨rfl⟩
    rcases mem_of_mem_safeJson member with inText | escape
    · exact plain inText
    · revert escape
      decide
  intro character
  unfold questionCharacter escapeChar
  split_ifs with quote backslash newline feed tab form back control
  pick_goal 8
  · right
    refine escaped ?_
    have high := digits (character.toNat / 16) (by omega)
    have low := digits (character.toNat % 16) (by omega)
    simp [high.symm, low.symm]
  pick_goal 8
  · rw [safeJson_cons, safeJson_nil, List.append_nil, safeCharacter]
    split_ifs
    · exact .inr (shown (by decide))
    · exact .inr (shown (by decide))
    · exact .inr (shown (by decide))
    · exact .inl rfl
  all_goals exact .inr (escaped (by decide))

/-- The escaped question has the placeholder of the context where the question
has it. -/
theorem infix_questionJson_iff (question : String) :
    contextPlaceholder <:+: questionJson question ↔
      contextPlaceholder <:+: question.toList := by
  have fresh : '"' ∉ contextPlaceholder := by
    decide +kernel
  have filled := placeholders_apart.filled'
  have kept : contextPlaceholder.flatMap questionCharacter =
      contextPlaceholder := by
    decide +kernel
  have opening := infix_append_cons_iff fresh []
    (question.toList.flatMap questionCharacter ++ ['"'])
  have closing := infix_append_cons_iff fresh
    (question.toList.flatMap questionCharacter) []
  rw [List.infix_nil] at opening closing
  rw [questionJson_eq, ← List.nil_append ('"' :: _), opening, closing,
    infix_flatMap_iff filled (by decide +kernel) questionCharacter_escapes kept]
  simp [filled]

/-- Both placeholders are replaced at once, when the question is escaped and
then searched. -/
theorem replaceText_placeholders (question : String)
    (context template : List Char) :
    replaceText contextPlaceholder context
        (replaceText questionPlaceholder (questionJson question) template) =
      substitute [questionPlaceholder, contextPlaceholder]
        (pairFill questionPlaceholder
          (replaceText contextPlaceholder context (questionJson question))
          context) template := by
  rw [questionJson_eq]
  exact replaceText_replaceText placeholders_apart.filled
    placeholders_apart.filled' placeholders_apart.passes (by decide +kernel)
    _ template

/-! ## One substitution -/

/-- The frame has one text in it when the other ones are the same. -/
theorem Frame.fill_injective {α : Type} {frame : Frame α}
    {first first' second : List α}
    (same : frame.fill first second = frame.fill first' second) :
    first = first' := by
  cases frame with
  | firstThenSecond before between after =>
      simpa [Frame.fill] using same
  | secondThenFirst before between after =>
      simpa [Frame.fill] using same

section Render

variable {templates : PromptVersion → String} {version : PromptVersion}
  {question : String} {context : ContextBundle}

private theorem renderPrompt_eq_iff (asked : strip question ≠ "")
    (once : textCount questionPlaceholder (templates version).toList = 1)
    (once' : textCount contextPlaceholder (templates version).toList = 1)
    {frame : Frame Char}
    (filled : frame.fill questionPlaceholder contextPlaceholder =
      (templates version).toList) :
    renderPrompt templates version question context = .ok (String.ofList
        (frame.fill (questionJson question) context.text.toList)) ↔
      ¬ contextPlaceholder <:+: question.toList ∨
        context.text.toList = contextPlaceholder := by
  have rendered : renderPrompt templates version question context =
      .ok (String.ofList (frame.fill (replaceText contextPlaceholder
        context.text.toList (questionJson question)) context.text.toList)) := by
    rw [renderPrompt, raiseIf_bind asked, raiseIf_bind (by simp [once, once'])]
    rw [← filled] at once once'
    rw [replaceText_placeholders, ← filled,
      placeholders_apart.substitute_fill _ frame once once']
    simp [pairFill, placeholders_apart.different]
    rfl
  rw [rendered, ← infix_questionJson_iff,
    ← replaceText_eq_self_iff placeholders_apart.filled']
  constructor
  · intro same
    have texts := congrArg String.toList (Except.ok.inj same)
    rw [String.toList_ofList, String.toList_ofList] at texts
    exact Frame.fill_injective texts
  · intro same
    rw [same]

/-- A template is filled as its two places say exactly when the question does
not spell the placeholder of the context, or the context is nothing else. -/
theorem render_substitutes_once_iff (asked : strip question ≠ "")
    (once : textCount questionPlaceholder (templates version).toList = 1)
    (once' : textCount contextPlaceholder (templates version).toList = 1) :
    (∃ frame : Frame Char, frame.fill questionPlaceholder contextPlaceholder =
        (templates version).toList) ∧
      ∀ frame : Frame Char, frame.fill questionPlaceholder contextPlaceholder =
          (templates version).toList →
        (renderPrompt templates version question context = .ok (String.ofList
            (frame.fill (questionJson question) context.text.toList)) ↔
          ¬ contextPlaceholder <:+: question.toList ∨
            context.text.toList = contextPlaceholder) :=
  ⟨placeholders_apart.exists_frame once once',
    fun _ filled => renderPrompt_eq_iff asked once once' filled⟩

end Render

/-- What all templates of the package end with. -/
def templateEnd (_ : PromptVersion) : String :=
  "<QUESTION_JSON>\n\x7b\x7bQUESTION_JSON\x7d\x7d\n</QUESTION_JSON>\n" ++
    "<UNTRUSTED_CONTEXT>\n\x7b\x7bCONTEXT\x7d\x7d\n</UNTRUSTED_CONTEXT>\n"

def emptyDocument : ContextBundle where
  items := []
  text := "<UNTRUSTED_DOCUMENT>\n\x7b\x7d\n</UNTRUSTED_DOCUMENT>"
  tokenCount := 9
  tokenBudget := 100
  duplicateChunkIds := []
  truncatedChunkIds := []

theorem render_substitutes_once_plain :
    ∃ frame : Frame Char, frame.fill questionPlaceholder contextPlaceholder =
        (templateEnd .v1).toList ∧
      renderPrompt templateEnd .v1 "Who?" emptyDocument = .ok (String.ofList
        (frame.fill (questionJson "Who?") emptyDocument.text.toList)) := by
  obtain ⟨⟨frame, filled⟩, rendered⟩ := @render_substitutes_once_iff
    templateEnd .v1 "Who?" emptyDocument (by decide +kernel)
    (by decide +kernel) (by decide +kernel)
  exact ⟨frame, filled,
    (rendered frame filled).mpr (.inl (by decide +kernel))⟩

/-- The question gets the documents between its quotes. -/
theorem placeholder_question_rendered :
    (¬ ∃ frame : Frame Char,
      frame.fill questionPlaceholder contextPlaceholder =
          (templateEnd .v1).toList ∧
        renderPrompt templateEnd .v1 "\x7b\x7bCONTEXT\x7d\x7d" emptyDocument =
          .ok (String.ofList (frame.fill
            (questionJson "\x7b\x7bCONTEXT\x7d\x7d")
            emptyDocument.text.toList))) ∧
      renderPrompt templateEnd .v1 "\x7b\x7bCONTEXT\x7d\x7d" emptyDocument =
        .ok ("<QUESTION_JSON>\n\"" ++ emptyDocument.text ++
          "\"\n</QUESTION_JSON>\n<UNTRUSTED_CONTEXT>\n" ++
          emptyDocument.text ++ "\n</UNTRUSTED_CONTEXT>\n") := by
  refine ⟨?_, by decide +kernel⟩
  rintro ⟨frame, filled, rendered⟩
  have plain := (renderPrompt_eq_iff (by decide +kernel) (by decide +kernel)
    (by decide +kernel) filled).mp rendered
  revert plain
  decide +kernel

end RagBench
