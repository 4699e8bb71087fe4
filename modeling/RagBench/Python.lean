import Mathlib.Algebra.Order.Floor.Ring
import Mathlib.Data.List.Forall2
import Mathlib.Data.Rat.Floor
import Mathlib.Order.Bounds.Basic
import RagBench.Dict

/-!
# Python values at the boundary

Exception classes with their inheritance, floats with infinities and NaN, and
the values the JSON decoder produces.  `json.loads` accepts `Infinity`, `NaN`
and decimal literals beyond the float range, so a decoded number need not be
finite.
-/

namespace RagBench

inductive ExceptionClass where
  | baseException
  | cancelledError
  | exception
  | typeError
  | valueError
  | arithmeticError
  | overflowError
  | invalidOperation
  | lookupError
  | keyError
  | runtimeError
  | recursionError
  | osError
  | fileExistsError
  | fileNotFoundError
  | permissionError
  /-- `class name(base)`. -/
  | derived (name : String) (base : ExceptionClass)
  deriving DecidableEq, Repr

namespace ExceptionClass

/-- The class itself, then its bases outwards to `BaseException`. -/
def lineage : ExceptionClass → List ExceptionClass
  | .baseException => [.baseException]
  | .cancelledError => [.cancelledError, .baseException]
  | .exception => [.exception, .baseException]
  | .typeError => [.typeError, .exception, .baseException]
  | .valueError => [.valueError, .exception, .baseException]
  | .arithmeticError => [.arithmeticError, .exception, .baseException]
  | .overflowError =>
      [.overflowError, .arithmeticError, .exception, .baseException]
  | .invalidOperation =>
      [.invalidOperation, .arithmeticError, .exception, .baseException]
  | .lookupError => [.lookupError, .exception, .baseException]
  | .keyError => [.keyError, .lookupError, .exception, .baseException]
  | .runtimeError => [.runtimeError, .exception, .baseException]
  | .recursionError =>
      [.recursionError, .runtimeError, .exception, .baseException]
  | .osError => [.osError, .exception, .baseException]
  | .fileExistsError => [.fileExistsError, .osError, .exception, .baseException]
  | .fileNotFoundError =>
      [.fileNotFoundError, .osError, .exception, .baseException]
  | .permissionError => [.permissionError, .osError, .exception, .baseException]
  | .derived name base => .derived name base :: base.lineage

/-- `cls.__name__`. -/
def name : ExceptionClass → String
  | .baseException => "BaseException"
  | .cancelledError => "CancelledError"
  | .exception => "Exception"
  | .typeError => "TypeError"
  | .valueError => "ValueError"
  | .arithmeticError => "ArithmeticError"
  | .overflowError => "OverflowError"
  | .invalidOperation => "InvalidOperation"
  | .lookupError => "LookupError"
  | .keyError => "KeyError"
  | .runtimeError => "RuntimeError"
  | .recursionError => "RecursionError"
  | .osError => "OSError"
  | .fileExistsError => "FileExistsError"
  | .fileNotFoundError => "FileNotFoundError"
  | .permissionError => "PermissionError"
  | .derived name _ => name

end ExceptionClass

structure PyException where
  cls : ExceptionClass
  message : String
  deriving DecidableEq, Repr

namespace PyException

/-- `isinstance(error, cls)`. -/
def isInstance (error : PyException) (cls : ExceptionClass) : Bool :=
  cls ∈ error.cls.lineage

def valueError (message : String) : PyException :=
  ⟨.valueError, message⟩

def typeError (message : String) : PyException :=
  ⟨.typeError, message⟩

def runtimeError (message : String) : PyException :=
  ⟨.runtimeError, message⟩

def overflowError (message : String) : PyException :=
  ⟨.overflowError, message⟩

def invalidOperation : PyException :=
  ⟨.invalidOperation, "[<class 'decimal.InvalidOperation'>]"⟩

def keyError (message : String) : PyException :=
  ⟨.keyError, message⟩

def indexError (message : String) : PyException :=
  ⟨.derived "IndexError" .lookupError, message⟩

def unicodeDecodeError (message : String) : PyException :=
  ⟨.derived "UnicodeDecodeError" (.derived "UnicodeError" .valueError),
    message⟩

def cancelled : PyException :=
  ⟨.cancelledError, ""⟩

end PyException

/-- A block succeeds when its first step and then the rest succeed. -/
theorem bind_eq_ok {α β : Type} {first : Except PyException α}
    {next : α → Except PyException β} {result : β} :
    first >>= next = .ok result ↔
      ∃ value, first = .ok value ∧ next value = .ok result := by
  cases first with
  | error error => simp [bind, Except.bind]
  | ok value => simp [bind, Except.bind]

/-- A block fails in its first step, or after it. -/
theorem bind_eq_error {α β : Type} {first : Except PyException α}
    {next : α → Except PyException β} {error : PyException} :
    first >>= next = .error error ↔
      first = .error error ∨
        ∃ value, first = .ok value ∧ next value = .error error := by
  cases first with
  | error error => simp [bind, Except.bind]
  | ok value => simp [bind, Except.bind]

/-- `if condition: raise error`. -/
def raiseIf (condition : Prop) [Decidable condition] (error : PyException) :
    Except PyException Unit :=
  if condition then .error error else .ok ()

theorem raiseIf_eq_ok {condition : Prop} [Decidable condition]
    {error : PyException} {value : Unit} :
    raiseIf condition error = .ok value ↔ ¬condition := by
  unfold raiseIf
  split_ifs with holds <;> simp [holds]

/-- A block goes on after a check that passes. -/
theorem raiseIf_bind {α : Type} {condition : Prop} [Decidable condition]
    {error : PyException} {next : Unit → Except PyException α}
    (passes : ¬condition) : (raiseIf condition error >>= next) = next () := by
  rw [raiseIf, if_neg passes]
  rfl

theorem raiseIf_bind_error {α : Type} {condition : Prop}
    [Decidable condition] {error : PyException}
    {next : Unit → Except PyException α} (fails : condition) :
    (raiseIf condition error >>= next) = .error error := by
  rw [raiseIf, if_pos fails]
  rfl

theorem toOption_eq_some {ε α : Type} {outcome : Except ε α} {value : α} :
    outcome.toOption = some value ↔ outcome = .ok value := by
  cases outcome <;> simp [Except.toOption]

/-- A loop succeeds when every round does. -/
theorem mapM_eq_ok {α β : Type} {step : α → Except PyException β}
    {items : List α} {results : List β} :
    items.mapM step = .ok results ↔
      List.Forall₂ (fun item result => step item = .ok result) items
        results := by
  induction items generalizing results with
  | nil =>
      rw [List.mapM_nil, List.forall₂_nil_left_iff]
      exact ⟨fun same => (Except.ok.inj same).symm, fun same => same ▸ rfl⟩
  | cons item rest induction =>
      rw [List.mapM_cons, List.forall₂_cons_left_iff]
      constructor
      · intro success
        obtain ⟨result, first, success⟩ := bind_eq_ok.mp success
        obtain ⟨others, later, success⟩ := bind_eq_ok.mp success
        cases success
        exact ⟨result, others, first, induction.mp later, rfl⟩
      · rintro ⟨result, others, first, later, rfl⟩
        exact bind_eq_ok.mpr ⟨result, first,
          bind_eq_ok.mpr ⟨others, induction.mpr later, rfl⟩⟩

theorem forM_eq_ok {α : Type} {items : List α}
    {step : α → Except PyException Unit} :
    items.forM step = .ok () ↔ ∀ item ∈ items, step item = .ok () := by
  induction items with
  | nil => exact iff_of_true rfl (List.forall_mem_nil _)
  | cons item items induction =>
      rw [List.forall_mem_cons, ← induction]
      change (step item >>= fun _ => items.forM step) = .ok () ↔ _
      constructor
      · intro performed
        obtain ⟨_, first, later⟩ := bind_eq_ok.mp performed
        exact ⟨first, later⟩
      · rintro ⟨first, later⟩
        exact bind_eq_ok.mpr ⟨(), first, later⟩

theorem mapM_eq_some {α β : Type} {step : α → Option β} {items : List α}
    {results : List β} :
    items.mapM step = some results ↔
      List.Forall₂ (fun item result => step item = some result) items
        results := by
  induction items generalizing results with
  | nil =>
      rw [List.mapM_nil, List.forall₂_nil_left_iff]
      exact ⟨fun same => (Option.some.inj same).symm, fun same => same ▸ rfl⟩
  | cons item rest induction =>
      rw [List.mapM_cons, List.forall₂_cons_left_iff]
      simp only [Option.bind_eq_bind, Option.bind_eq_some_iff, induction]
      constructor
      · rintro ⟨first, here, others, later, same⟩
        exact ⟨first, others, here, later, (Option.some.inj same).symm⟩
      · rintro ⟨first, others, here, later, rfl⟩
        exact ⟨first, here, others, later, rfl⟩

theorem exists_mapM_iff {α β : Type} {step : α → Except PyException β}
    {items : List α} :
    (∃ results, items.mapM step = .ok results) ↔
      ∀ item ∈ items, ∃ result, step item = .ok result := by
  simp only [mapM_eq_ok]
  induction items with
  | nil => exact ⟨fun _ => List.forall_mem_nil _, fun _ => ⟨[], .nil⟩⟩
  | cons item rest induction =>
      rw [List.forall_mem_cons, ← induction]
      constructor
      · rintro ⟨_, _ | ⟨first, later⟩⟩
        exact ⟨⟨_, first⟩, ⟨_, later⟩⟩
      · rintro ⟨⟨_, first⟩, ⟨_, later⟩⟩
        exact ⟨_, .cons first later⟩

/-- A loop of two stages succeeds when the loops of both stages do. -/
theorem mapM_bind_eq_ok {α β γ : Type} {first : α → Except PyException β}
    {second : β → Except PyException γ} {items : List α} {results : List γ} :
    items.mapM (fun item => first item >>= second) = .ok results ↔
      ∃ values, items.mapM first = .ok values ∧
        values.mapM second = .ok results := by
  simp only [mapM_eq_ok]
  constructor
  · intro success
    induction success with
    | nil => exact ⟨[], .nil, .nil⟩
    | cons both _ induction =>
        obtain ⟨value, left, right⟩ := bind_eq_ok.mp both
        obtain ⟨values, lefts, rights⟩ := induction
        exact ⟨value :: values, .cons left lefts, .cons right rights⟩
  · rintro ⟨values, lefts, rights⟩
    induction lefts generalizing results with
    | nil =>
        cases rights
        exact .nil
    | cons left _ induction =>
        cases rights with
        | cons right rights =>
            exact .cons (bind_eq_ok.mpr ⟨_, left, right⟩) (induction rights)

/-- A float: its exact value, or one of the special values. -/
inductive PyFloat where
  | finite (value : ℚ)
  | infinity
  | negativeInfinity
  | nan
  deriving DecidableEq

namespace PyFloat

/-- `left < right`; every comparison with NaN is false. -/
def lt : PyFloat → PyFloat → Bool
  | .finite left, .finite right => left < right
  | .finite _, .infinity => true
  | .negativeInfinity, .finite _ => true
  | .negativeInfinity, .infinity => true
  | _, _ => false

/-- `min(left, right)`: the left argument unless the right one is smaller. -/
def min (left right : PyFloat) : PyFloat :=
  if right.lt left then right else left

/-- `max(left, right)`: the left argument unless the right one is larger. -/
def max (left right : PyFloat) : PyFloat :=
  if left.lt right then right else left

/-- `math.isfinite(value)`. -/
def isFinite : PyFloat → Bool
  | .finite _ => true
  | _ => false

/-- `left == right`; NaN equals nothing. -/
def equals : PyFloat → PyFloat → Bool
  | .finite left, .finite right => left = right
  | .infinity, .infinity => true
  | .negativeInfinity, .negativeInfinity => true
  | _, _ => false

end PyFloat

inductive Json where
  | null
  | bool (value : Bool)
  | int (value : ℤ)
  | float (value : PyFloat)
  | str (value : String)
  | array (items : List Json)
  | object (entries : List (String × Json))

namespace Json

/-- `value.get(key)` on the entries of a dictionary. -/
def get? (entries : List (String × Json)) (key : String) : Option Json :=
  Dict.lookup key entries

/-- `value` when `isinstance(value, int)`; booleans are integers. -/
def asInt : Json → Option ℤ
  | .int value => some value
  | .bool value => some (if value then 1 else 0)
  | _ => none

/-- Rounding toward zero. -/
def truncate (value : ℚ) : ℤ :=
  if 0 ≤ value then ⌊value⌋ else ⌈value⌉

/-- `type(value).__name__`. -/
def typeName : Json → String
  | .null => "NoneType"
  | .bool _ => "bool"
  | .int _ => "int"
  | .float _ => "float"
  | .str _ => "str"
  | .array _ => "list"
  | .object _ => "dict"

/-- `bool(value)`. -/
def truthy : Json → Bool
  | .null => false
  | .bool value => value
  | .int value => value ≠ 0
  | .float (.finite value) => value ≠ 0
  | .float _ => true
  | .str value => value ≠ ""
  | .array items => !items.isEmpty
  | .object entries => !entries.isEmpty

/-- `int(value)`.  `parseInt` is the string case, `none` where it raises
`ValueError`. -/
def toInt (parseInt : String → Option ℤ) : Json → Except PyException ℤ
  | .int value => .ok value
  | .bool value => .ok (if value then 1 else 0)
  | .float (.finite value) => .ok (truncate value)
  | .float .nan => .error (.valueError "cannot convert float NaN to integer")
  | .float _ =>
      .error (.overflowError "cannot convert float infinity to integer")
  | .str value =>
      match parseInt value with
      | some result => .ok result
      | none => .error (.valueError "invalid literal for int() with base 10")
  | value =>
      .error (.typeError ("int() argument must be a string, a bytes-like " ++
        "object or a real number, not '" ++ value.typeName ++ "'"))

/-- The exact value of a number; booleans are numbers. -/
def number : Json → Option PyFloat
  | .bool value => some (.finite (if value then 1 else 0))
  | .int value => some (.finite value)
  | .float value => some value
  | _ => none

mutual

/-- `left == right`; the order of dictionary entries does not count. -/
def equals : Json → Json → Bool
  | .null, .null => true
  | .str left, .str right => left = right
  | .array left, .array right => itemsEqual left right
  | .object left, .object right =>
      left.length = right.length && entriesEqual left right
  | left, right =>
      match left.number, right.number with
      | some left, some right => left.equals right
      | _, _ => false

def itemsEqual : List Json → List Json → Bool
  | [], [] => true
  | left :: lefts, right :: rights =>
      equals left right && itemsEqual lefts rights
  | _, _ => false

/-- Every entry is in the other dictionary. -/
def entriesEqual : List (String × Json) → List (String × Json) → Bool
  | [], _ => true
  | (key, value) :: rest, others =>
      (match get? others key with
      | some other => equals value other
      | none => false) && entriesEqual rest others

end

mutual

/-- `json.dumps(value, allow_nan=False)` does not raise. -/
def isCompliant : Json → Bool
  | .float (.finite _) => true
  | .float _ => false
  | .array items => itemsCompliant items
  | .object entries => entriesCompliant entries
  | _ => true

def itemsCompliant : List Json → Bool
  | [] => true
  | item :: rest => isCompliant item && itemsCompliant rest

def entriesCompliant : List (String × Json) → Bool
  | [] => true
  | (_, value) :: rest => isCompliant value && entriesCompliant rest

end

end Json

/-- `f"{number:04d}"`. -/
def fourDigits (number : ℕ) : String :=
  let digits := toString number
  "".pushn '0' (4 - digits.length) ++ digits

/-- `items[index]`: negative indices count from the end. -/
def pyIndex {α : Type} (items : List α) (index : ℤ) : Except PyException α :=
  let position := if index < 0 then index + items.length else index
  match if position < 0 then none else items[position.toNat]? with
  | some item => .ok item
  | none => .error (.indexError "index out of range")

theorem pyIndex_natCast {α : Type} {items : List α} {index : ℕ} {item : α}
    (found : items[index]? = some item) :
    pyIndex items index = .ok item := by
  unfold pyIndex
  have nonnegative : ¬(index : ℤ) < 0 := by omega
  simp only [nonnegative, if_false, Int.toNat_natCast, found]

/-- `bisect_right(items, x)`: the number of items up to the last one that is
not above `x`. -/
def bisectRight (items : List ℕ) (x : ℤ) : ℕ :=
  (items.takeWhile fun (item : ℕ) => (item : ℤ) ≤ x).length

theorem bisectRight_le_length (items : List ℕ) (x : ℤ) :
    bisectRight items x ≤ items.length :=
  (List.takeWhile_sublist _).length_le

theorem lt_bisectRight_iff {items : List ℕ} (ascending : items.Pairwise (· < ·))
    (x : ℤ) {index item : ℕ} (found : items[index]? = some item) :
    index < bisectRight items x ↔ (item : ℤ) ≤ x := by
  unfold bisectRight
  induction items generalizing index with
  | nil => simp at found
  | cons first items induction =>
      obtain ⟨above, ascending⟩ := List.pairwise_cons.mp ascending
      by_cases small : (first : ℤ) ≤ x
      · rw [List.takeWhile_cons_of_pos (by simpa using small)]
        cases index with
        | zero =>
            obtain rfl : first = item := by simpa using found
            simpa using small
        | succ index =>
            rw [List.length_cons, Nat.succ_lt_succ_iff]
            exact induction ascending found
      · rw [List.takeWhile_cons_of_neg (by simpa using small)]
        have large : first ≤ item := by
          cases index with
          | zero => exact le_of_eq (by simpa using found)
          | succ index =>
              exact (above item (List.mem_of_getElem? found)).le
        simp only [List.length_nil, Nat.not_lt_zero, false_iff]
        omega

/-- The item before the insertion point is the greatest one up to `x`. -/
theorem bisectRight_isGreatest {items : List ℕ}
    (ascending : items.Pairwise (· < ·)) {x : ℤ} {item : ℕ}
    (member : item ∈ items) (below : (item : ℤ) ≤ x) :
    ∃ index greatest, bisectRight items x = index + 1 ∧
      items[index]? = some greatest ∧
      IsGreatest {item | item ∈ items ∧ (item : ℤ) ≤ x} greatest := by
  obtain ⟨position, found⟩ := List.getElem?_of_mem member
  have positive := (lt_bisectRight_iff ascending x found).mpr below
  have short := bisectRight_le_length items x
  obtain ⟨index, count⟩ : ∃ index, bisectRight items x = index + 1 :=
    ⟨_, (Nat.succ_pred_eq_of_pos (by omega)).symm⟩
  have inside : index < items.length := by omega
  refine ⟨index, items[index], count, List.getElem?_eq_getElem inside, ?_, ?_⟩
  · refine ⟨List.getElem_mem inside, ?_⟩
    rw [← lt_bisectRight_iff ascending x (List.getElem?_eq_getElem inside)]
    omega
  · rintro other ⟨otherMember, otherBelow⟩
    obtain ⟨place, otherFound⟩ := List.getElem?_of_mem otherMember
    have early := (lt_bisectRight_iff ascending x otherFound).mpr otherBelow
    obtain ⟨placeInside, rfl⟩ := List.getElem?_eq_some_iff.mp otherFound
    rcases Nat.lt_or_ge place index with before | after
    · exact (List.pairwise_iff_getElem.mp ascending _ _ _ inside before).le
    · obtain rfl : place = index := by omega
      exact le_rfl

end RagBench
