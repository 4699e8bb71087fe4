import RagBench.Python

/-!
# Frozen provider parameters

`_freeze_json` turns dictionaries into mapping proxies and lists into tuples,
and `_thaw_json` turns them back.  Tuples may be frozen again; a mapping proxy
is a `Mapping`, which is what thawing asks for, but not a `dict`.
-/

namespace RagBench

inductive ParamKey where
  | str (key : String)
  /-- `repr(key)` of any other key. -/
  | other (text : String)
  deriving DecidableEq

def ParamKey.isStr : ParamKey → Bool
  | .str _ => true
  | .other _ => false

def ParamKey.text : ParamKey → String
  | .str key => key
  | .other text => text

/-- The values that freezing and thawing tell apart.  Mappings have their items
in order. -/
inductive ParamValue where
  | none
  | bool (value : Bool)
  | int (value : ℤ)
  | float (value : PyFloat)
  | str (value : String)
  | list (items : List ParamValue)
  | tuple (items : List ParamValue)
  | dict (entries : List (ParamKey × ParamValue))
  | mappingProxy (entries : List (ParamKey × ParamValue))
  /-- `repr(value)` of any other object. -/
  | other (text : String)

def incompatibleParam : PyException :=
  .typeError "provider parameters must contain only JSON-compatible values"

mutual

/-- `_freeze_json`. -/
def freezeJson : ParamValue → Except PyException ParamValue
  | .dict entries => do
      raiseIf (¬∀ entry ∈ entries, entry.1.isStr)
        (.typeError "provider parameter keys must be strings")
      return .mappingProxy (← freezeEntries entries)
  | .list items => do return .tuple (← freezeItems items)
  | .tuple items => do return .tuple (← freezeItems items)
  | .none => .ok .none
  | .str value => .ok (.str value)
  | .int value => .ok (.int value)
  | .float value => .ok (.float value)
  | .bool value => .ok (.bool value)
  -- a mapping proxy is not a `dict`
  | .mappingProxy _ | .other _ => .error incompatibleParam

def freezeItems : List ParamValue → Except PyException (List ParamValue)
  | [] => .ok []
  | item :: rest => do
      let frozen ← freezeJson item
      return frozen :: (← freezeItems rest)

def freezeEntries : List (ParamKey × ParamValue) →
    Except PyException (List (ParamKey × ParamValue))
  | [] => .ok []
  | (key, item) :: rest => do
      let frozen ← freezeJson item
      return (key, frozen) :: (← freezeEntries rest)

end

mutual

/-- `_thaw_json`. -/
def thawJson : ParamValue → ParamValue
  | .dict entries => .dict (thawEntries entries)
  | .mappingProxy entries => .dict (thawEntries entries)
  | .tuple items => .list (thawItems items)
  | .none => .none
  | .bool value => .bool value
  | .int value => .int value
  | .float value => .float value
  | .str value => .str value
  | .list items => .list items
  | .other text => .other text

def thawItems : List ParamValue → List ParamValue
  | [] => []
  | item :: rest => thawJson item :: thawItems rest

def thawEntries :
    List (ParamKey × ParamValue) → List (ParamKey × ParamValue)
  | [] => []
  | (key, item) :: rest => (key, thawJson item) :: thawEntries rest

end

/-! ## JSON values -/

namespace Json

mutual

/-- A value as it is decoded. -/
def param : Json → ParamValue
  | .null => .none
  | .bool value => .bool value
  | .int value => .int value
  | .float value => .float value
  | .str value => .str value
  | .array items => .list (itemParams items)
  | .object entries => .dict (entryParams entries)

def itemParams : List Json → List ParamValue
  | [] => []
  | item :: rest => param item :: itemParams rest

def entryParams : List (String × Json) → List (ParamKey × ParamValue)
  | [] => []
  | (key, item) :: rest => (.str key, param item) :: entryParams rest

end

mutual

/-- The frozen form of a value. -/
def frozen : Json → ParamValue
  | .null => .none
  | .bool value => .bool value
  | .int value => .int value
  | .float value => .float value
  | .str value => .str value
  | .array items => .tuple (frozenItems items)
  | .object entries => .mappingProxy (frozenEntries entries)

def frozenItems : List Json → List ParamValue
  | [] => []
  | item :: rest => frozen item :: frozenItems rest

def frozenEntries : List (String × Json) → List (ParamKey × ParamValue)
  | [] => []
  | (key, item) :: rest => (.str key, frozen item) :: frozenEntries rest

end

mutual

/-- No object at any depth. -/
def objectFree : Json → Bool
  | .array items => itemsObjectFree items
  | .object _ => false
  | _ => true

def itemsObjectFree : List Json → Bool
  | [] => true
  | item :: rest => objectFree item && itemsObjectFree rest

end

/-- No objects but, at the top, the value itself. -/
def flat : Json → Bool
  | .object entries => entries.all fun entry => objectFree entry.2
  | value => objectFree value

theorem entryParams_isStr (entries : List (String × Json)) :
    ∀ entry ∈ entryParams entries, entry.1.isStr := by
  induction entries with
  | nil => exact List.forall_mem_nil _
  | cons entry rest induction =>
      exact List.forall_mem_cons.mpr ⟨rfl, induction⟩

mutual

theorem freezeJson_param : ∀ value : Json,
    freezeJson value.param = .ok value.frozen
  | .null | .bool _ | .int _ | .float _ | .str _ => rfl
  | .array items => by
      rw [param, freezeJson, freezeItems_params items]
      rfl
  | .object entries => by
      rw [param, freezeJson, raiseIf_bind, freezeEntries_params entries]
      · rfl
      · exact not_not_intro (entryParams_isStr entries)

theorem freezeItems_params : ∀ items : List Json,
    freezeItems (itemParams items) = .ok (frozenItems items)
  | [] => rfl
  | item :: rest => by
      rw [itemParams, freezeItems, freezeJson_param item,
        freezeItems_params rest]
      rfl

theorem freezeEntries_params : ∀ entries : List (String × Json),
    freezeEntries (entryParams entries) = .ok (frozenEntries entries)
  | [] => rfl
  | (key, item) :: rest => by
      rw [entryParams, freezeEntries, freezeJson_param item,
        freezeEntries_params rest]
      rfl

end

mutual

/-- Thawing is the inverse of freezing. -/
theorem thawJson_frozen : ∀ value : Json, thawJson value.frozen = value.param
  | .null | .bool _ | .int _ | .float _ | .str _ => rfl
  | .array items => congrArg ParamValue.list (thawItems_frozen items)
  | .object entries => congrArg ParamValue.dict (thawEntries_frozen entries)

theorem thawItems_frozen : ∀ items : List Json,
    thawItems (frozenItems items) = itemParams items
  | [] => rfl
  | item :: rest => by
      rw [frozenItems, thawItems, thawJson_frozen item, thawItems_frozen rest]
      rfl

theorem thawEntries_frozen : ∀ entries : List (String × Json),
    thawEntries (frozenEntries entries) = entryParams entries
  | [] => rfl
  | (key, item) :: rest => by
      rw [frozenEntries, thawEntries, thawJson_frozen item,
        thawEntries_frozen rest]
      rfl

end

/-! ## What requests get -/

mutual

/-- The JSON value of a thawed value. -/
def ofParam : ParamValue → Json
  | .none => .null
  | .bool value => .bool value
  | .int value => .int value
  | .float value => .float value
  | .str value => .str value
  | .list items | .tuple items => .array (ofItemParams items)
  | .dict entries | .mappingProxy entries => .object (ofEntryParams entries)
  -- there are no other objects in a thawed value
  | .other text => .str text

def ofItemParams : List ParamValue → List Json
  | [] => []
  | item :: rest => ofParam item :: ofItemParams rest

def ofEntryParams : List (ParamKey × ParamValue) → List (String × Json)
  | [] => []
  | (key, item) :: rest => (key.text, ofParam item) :: ofEntryParams rest

end

mutual

/-- What was frozen thaws to a JSON value. -/
theorem param_ofParam_thaw {frozen : ParamValue} : ∀ value : ParamValue,
    freezeJson value = .ok frozen →
      param (ofParam (thawJson frozen)) = thawJson frozen
  | .none, freezes | .bool _, freezes | .int _, freezes | .float _, freezes
  | .str _, freezes => by
      cases freezes
      rfl
  | .mappingProxy _, freezes | .other _, freezes => by cases freezes
  | .list items, freezes | .tuple items, freezes => by
      obtain ⟨frozenItems, inner, same⟩ := bind_eq_ok.mp freezes
      cases same
      exact congrArg ParamValue.list (params_ofItemParams_thaw items inner)
  | .dict entries, freezes => by
      obtain ⟨⟨⟩, keys, freezes⟩ := bind_eq_ok.mp freezes
      obtain ⟨frozenEntries, inner, same⟩ := bind_eq_ok.mp freezes
      cases same
      exact congrArg ParamValue.dict (params_ofEntryParams_thaw entries
        (not_not.mp (raiseIf_eq_ok.mp keys)) inner)

theorem params_ofItemParams_thaw {frozen : List ParamValue} :
    ∀ items : List ParamValue, freezeItems items = .ok frozen →
      itemParams (ofItemParams (thawItems frozen)) = thawItems frozen
  | [], freezes => by
      cases freezes
      rfl
  | item :: rest, freezes => by
      obtain ⟨first, here, freezes⟩ := bind_eq_ok.mp freezes
      obtain ⟨others, later, same⟩ := bind_eq_ok.mp freezes
      cases same
      exact congrArg₂ List.cons (param_ofParam_thaw item here)
        (params_ofItemParams_thaw rest later)

theorem params_ofEntryParams_thaw
    {frozen : List (ParamKey × ParamValue)} :
    ∀ entries : List (ParamKey × ParamValue),
      (∀ entry ∈ entries, entry.1.isStr) →
      freezeEntries entries = .ok frozen →
      entryParams (ofEntryParams (thawEntries frozen)) = thawEntries frozen
  | [], _, freezes => by
      cases freezes
      rfl
  | (key, item) :: rest, keys, freezes => by
      obtain ⟨named, others⟩ := List.forall_mem_cons.mp keys
      obtain ⟨first, here, freezes⟩ := bind_eq_ok.mp freezes
      obtain ⟨frozenRest, later, same⟩ := bind_eq_ok.mp freezes
      cases same
      cases key with
      | other text => cases named
      | str key =>
          have entry := congrArg (Prod.mk (ParamKey.str key))
            (param_ofParam_thaw item here)
          exact congrArg₂ List.cons entry
            (params_ofEntryParams_thaw rest others later)

end

/-! ## Freezing again -/

theorem frozenEntries_isStr (entries : List (String × Json)) :
    ∀ entry ∈ frozenEntries entries, entry.1.isStr := by
  induction entries with
  | nil => exact List.forall_mem_nil _
  | cons entry rest induction =>
      exact List.forall_mem_cons.mpr ⟨rfl, induction⟩

mutual

/-- A frozen value is frozen again unless it has an object in it. -/
theorem freezeJson_frozen : ∀ value : Json, freezeJson value.frozen =
    if value.objectFree then .ok value.frozen else .error incompatibleParam
  | .null | .bool _ | .int _ | .float _ | .str _ | .object _ => rfl
  | .array items => by
      rw [frozen, freezeJson, freezeItems_frozen items, objectFree]
      cases itemsObjectFree items <;> rfl

theorem freezeItems_frozen : ∀ items : List Json,
    freezeItems (frozenItems items) =
      if itemsObjectFree items then .ok (frozenItems items)
      else .error incompatibleParam
  | [] => rfl
  | item :: rest => by
      rw [frozenItems, freezeItems, freezeJson_frozen item,
        freezeItems_frozen rest, itemsObjectFree]
      cases objectFree item
      · rfl
      · cases itemsObjectFree rest <;> rfl

end

/-- The entries of a frozen object are frozen again unless one of them has an
object in it. -/
theorem freezeEntries_frozen (entries : List (String × Json)) :
    freezeEntries (frozenEntries entries) =
      if flat (.object entries) then .ok (frozenEntries entries)
      else .error incompatibleParam := by
  induction entries with
  | nil => rfl
  | cons entry rest induction =>
      obtain ⟨key, item⟩ := entry
      have both : flat (.object ((key, item) :: rest)) =
          (item.objectFree && flat (.object rest)) := rfl
      rw [frozenEntries, freezeEntries, freezeJson_frozen item, induction,
        both]
      cases item.objectFree with
      | false => rfl
      | true => cases flat (.object rest) <;> rfl

theorem freezeJson_frozenEntries (entries : List (String × Json)) :
    freezeJson (.dict (frozenEntries entries)) =
      if flat (.object entries) then .ok (object entries).frozen
      else .error incompatibleParam := by
  rw [freezeJson, raiseIf_bind (not_not_intro (frozenEntries_isStr entries)),
    freezeEntries_frozen]
  split_ifs <;> rfl

end Json

end RagBench
