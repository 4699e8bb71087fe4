import RagBench.Core.JsonText

/-!
# Other texts of JSON values

`json.dumps` without sorting and with its own separators, and `str`.
-/

namespace RagBench

/-- `repr` of a float: the finite ones as `FloatText` has them. -/
def floatRepr (floats : FloatText) : PyFloat → List Char
  | .finite value => floats.text value
  | .infinity => ['i', 'n', 'f']
  | .negativeInfinity => ['-', 'i', 'n', 'f']
  | .nan => ['n', 'a', 'n']

/-- How `json.dumps` writes a float. -/
def floatDump (floats : FloatText) : PyFloat → List Char
  | .finite value => floats.text value
  | .infinity => ['I', 'n', 'f', 'i', 'n', 'i', 't', 'y']
  | .negativeInfinity => ['-', 'I', 'n', 'f', 'i', 'n', 'i', 't', 'y']
  | .nan => ['N', 'a', 'N']

/-- `", ".join(items)`. -/
def spacedCommas (items : List (List Char)) : List Char :=
  [',', ' '].intercalate items

namespace Json

mutual

/-- `json.dumps(value, ensure_ascii=False, separators=(", ", ": "))`. -/
def dumps (floats : FloatText) : Json → List Char
  | .null => ['n', 'u', 'l', 'l']
  | .bool true => ['t', 'r', 'u', 'e']
  | .bool false => ['f', 'a', 'l', 's', 'e']
  | .int value => (toString value).toList
  | .float value => floatDump floats value
  | .str value => quoted value
  | .array items => ['['] ++ spacedCommas (itemDumps floats items) ++ [']']
  | .object entries =>
      ['{'] ++ spacedCommas (entryDumps floats entries) ++ ['}']

def itemDumps (floats : FloatText) : List Json → List (List Char)
  | [] => []
  | item :: rest => dumps floats item :: itemDumps floats rest

def entryDumps (floats : FloatText) : List (String × Json) → List (List Char)
  | [] => []
  | (key, value) :: rest =>
      (quoted key ++ [':', ' '] ++ dumps floats value) ::
        entryDumps floats rest

end

section Str

/-! `reprText` is `repr` on strings. -/

variable (floats : FloatText) (reprText : String → List Char)

mutual

/-- `repr(value)`. -/
def repr : Json → List Char
  | .null => ['N', 'o', 'n', 'e']
  | .bool true => ['T', 'r', 'u', 'e']
  | .bool false => ['F', 'a', 'l', 's', 'e']
  | .int value => (toString value).toList
  | .float value => floatRepr floats value
  | .str value => reprText value
  | .array items => ['['] ++ spacedCommas (itemReprs items) ++ [']']
  | .object entries => ['{'] ++ spacedCommas (entryReprs entries) ++ ['}']

def itemReprs : List Json → List (List Char)
  | [] => []
  | item :: rest => repr item :: itemReprs rest

def entryReprs : List (String × Json) → List (List Char)
  | [] => []
  | (key, value) :: rest =>
      (reprText key ++ [':', ' '] ++ repr value) :: entryReprs rest

end

/-- `str(value)`. -/
def pyStr : Json → String
  | .str value => value
  | value => String.ofList (repr floats reprText value)

end Str

end Json

end RagBench
