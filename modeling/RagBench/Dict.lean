import Mathlib.Data.List.Nodup
import Mathlib.Algebra.BigOperators.Group.List.Basic
import Mathlib.Tactic.Abel

/-!
# Insertion-ordered dictionaries

Keys are unique by construction.  Assigning to a present key keeps its
position, assigning to a new key appends it, so iteration follows the order of
first insertion.
-/

namespace RagBench

structure Dict (κ ν : Type) where
  entries : List (κ × ν)
  nodup : (entries.map Prod.fst).Nodup

namespace Dict

variable {κ ν : Type}

@[ext] theorem ext {left right : Dict κ ν}
    (same : left.entries = right.entries) : left = right := by
  cases left
  cases right
  simpa using same

instance [DecidableEq κ] [DecidableEq ν] : DecidableEq (Dict κ ν) :=
  fun left right =>
    decidable_of_iff (left.entries = right.entries)
      ⟨Dict.ext, fun same => same ▸ rfl⟩

def empty : Dict κ ν :=
  { entries := []
    nodup := List.nodup_nil }

def keys (dict : Dict κ ν) : List κ :=
  dict.entries.map Prod.fst

def values (dict : Dict κ ν) : List ν :=
  dict.entries.map Prod.snd

variable [DecidableEq κ]

def lookup (key : κ) : List (κ × ν) → Option ν
  | [] => none
  | entry :: rest => if entry.1 = key then some entry.2 else lookup key rest

def get? (dict : Dict κ ν) (key : κ) : Option ν :=
  lookup key dict.entries

/-- `dict.get(key, default)`. -/
def getD (dict : Dict κ ν) (key : κ) (default : ν) : ν :=
  (dict.get? key).getD default

def assign (key : κ) (value : ν) : List (κ × ν) → List (κ × ν)
  | [] => [(key, value)]
  | entry :: rest =>
      if entry.1 = key then (key, value) :: rest
      else entry :: assign key value rest

private theorem map_fst_assign (key : κ) (value : ν)
    (entries : List (κ × ν)) :
    (assign key value entries).map Prod.fst =
      if key ∈ entries.map Prod.fst then entries.map Prod.fst
      else entries.map Prod.fst ++ [key] := by
  induction entries with
  | nil => simp [assign]
  | cons entry rest induction =>
      by_cases same : entry.1 = key
      · simp [assign, same]
      · have different : key ≠ entry.1 := Ne.symm same
        simp only [assign, if_neg same, List.map_cons, induction,
          List.mem_cons, different, false_or]
        split_ifs <;> simp

/-- `dict[key] = value`. -/
def set (dict : Dict κ ν) (key : κ) (value : ν) : Dict κ ν :=
  { entries := assign key value dict.entries
    nodup := by
      rw [map_fst_assign]
      split_ifs with present
      · exact dict.nodup
      · exact List.nodup_append.mpr
          ⟨dict.nodup, List.nodup_singleton key, by
            intro left leftMember right rightMember same
            obtain rfl : right = key := by simpa using rightMember
            exact present (same ▸ leftMember)⟩ }

/-- Build a dictionary by assigning the pairs in order. -/
def ofList (pairs : List (κ × ν)) : Dict κ ν :=
  pairs.foldl (fun dict pair => dict.set pair.1 pair.2) empty

/-- A new key comes last. -/
theorem keys_set (dict : Dict κ ν) (key : κ) (value : ν) :
    (dict.set key value).keys =
      if key ∈ dict.keys then dict.keys else dict.keys ++ [key] :=
  map_fst_assign key value dict.entries

theorem mem_keys_set (dict : Dict κ ν) (key other : κ) (value : ν) :
    other ∈ (dict.set key value).keys ↔ other = key ∨ other ∈ dict.keys := by
  simp only [keys, set, map_fst_assign]
  split_ifs with present
  · constructor
    · exact .inr
    · rintro (rfl | member)
      · exact present
      · exact member
  · simp [or_comm]

theorem mem_keys_ofList {pairs : List (κ × ν)} {key : κ} :
    key ∈ (ofList pairs).keys ↔ key ∈ pairs.map Prod.fst := by
  have general : ∀ (pairs : List (κ × ν)) (dict : Dict κ ν),
      key ∈ (pairs.foldl (fun dict pair => dict.set pair.1 pair.2) dict).keys ↔
        key ∈ dict.keys ∨ key ∈ pairs.map Prod.fst := by
    intro pairs
    induction pairs with
    | nil => simp
    | cons pair rest induction =>
        intro dict
        simp only [List.foldl_cons, induction, mem_keys_set, List.map_cons,
          List.mem_cons]
        rw [or_comm (a := key = pair.1), or_assoc]
  exact (general pairs empty).trans (by simp [keys, empty])

theorem lookup_assign (key : κ) (value : ν)
    (entries : List (κ × ν)) (other : κ) :
    lookup other (assign key value entries) =
      if key = other then some value else lookup other entries := by
  induction entries with
  | nil => simp [assign, lookup]
  | cons entry rest induction =>
      by_cases same : entry.1 = key
      · subst same
        by_cases hit : entry.1 = other <;> simp [assign, lookup, hit]
      · by_cases hit : entry.1 = other
        · have missed : key ≠ other := fun equal => same (hit.trans equal.symm)
          simp only [assign, if_neg same, lookup, if_pos hit, if_neg missed]
        · simp [assign, lookup, same, hit, induction]

theorem get?_set (dict : Dict κ ν) (key other : κ) (value : ν) :
    (dict.set key value).get? other =
      if key = other then some value else dict.get? other :=
  lookup_assign key value dict.entries other

@[simp] theorem get?_set_self (dict : Dict κ ν) (key : κ) (value : ν) :
    (dict.set key value).get? key = some value := by
  simp [get?_set]

theorem get?_set_of_ne (dict : Dict κ ν) {key other : κ} (value : ν)
    (different : key ≠ other) :
    (dict.set key value).get? other = dict.get? other := by
  simp [get?_set, different]

@[simp] theorem get?_empty (key : κ) :
    (empty : Dict κ ν).get? key = none := rfl

/-- Assigning the value that is there changes nothing. -/
theorem set_of_get? (dict : Dict κ ν) {key : κ} {value : ν}
    (found : dict.get? key = some value) : dict.set key value = dict := by
  have general : ∀ entries : List (κ × ν),
      lookup key entries = some value → assign key value entries = entries := by
    intro entries
    induction entries with
    | nil =>
        intro found
        cases found
    | cons entry rest induction =>
        intro found
        by_cases same : entry.1 = key
        · rw [lookup, if_pos same] at found
          rw [assign, if_pos same, ← same, ← Option.some.inj found]
        · rw [lookup, if_neg same] at found
          rw [assign, if_neg same, induction found]
  obtain ⟨entries, nodup⟩ := dict
  simp only [set, general entries found]

theorem getD_set (dict : Dict κ ν) (key other : κ) (value default : ν) :
    (dict.set key value).getD other default =
      if key = other then value else dict.getD other default := by
  unfold getD
  rw [get?_set]
  split_ifs <;> rfl

theorem lookup_eq_some_iff {entries : List (κ × ν)}
    (nodup : (entries.map Prod.fst).Nodup) {key : κ} {value : ν} :
    lookup key entries = some value ↔ (key, value) ∈ entries := by
  induction entries with
  | nil => simp [lookup]
  | cons entry rest induction =>
      obtain ⟨fresh, tail⟩ := List.nodup_cons.mp nodup
      obtain ⟨entryKey, entryValue⟩ := entry
      by_cases same : entryKey = key
      · subst same
        have absent : (entryKey, value) ∉ rest := fun member =>
          fresh (List.mem_map.mpr ⟨_, member, rfl⟩)
        simp [lookup, absent, eq_comm]
      · have different : key ≠ entryKey := Ne.symm same
        simp [lookup, same, different, induction tail]

theorem lookup_perm {entries entries' : List (κ × ν)}
    (nodup : (entries.map Prod.fst).Nodup) (same : entries.Perm entries')
    (key : κ) : lookup key entries = lookup key entries' := by
  have nodup' := (same.map Prod.fst).nodup_iff.mp nodup
  refine Option.ext fun value => ?_
  rw [lookup_eq_some_iff nodup, lookup_eq_some_iff nodup', same.mem_iff]

theorem mem_of_get?_ofList {pairs : List (κ × ν)} {key : κ} {value : ν}
    (found : (ofList pairs).get? key = some value) : (key, value) ∈ pairs := by
  have general : ∀ (pairs : List (κ × ν)) (dict : Dict κ ν),
      (pairs.foldl (fun dict pair => dict.set pair.1 pair.2) dict).get? key =
        some value → dict.get? key = some value ∨ (key, value) ∈ pairs := by
    intro pairs
    induction pairs with
    | nil => exact fun _ => .inl
    | cons pair rest induction =>
        intro dict found
        rcases induction _ found with set | later
        · rw [get?_set] at set
          split_ifs at set with same
          · obtain rfl := Option.some.inj set
            exact .inr (same ▸ List.mem_cons_self)
          · exact .inl set
        · exact .inr (List.mem_cons_of_mem _ later)
  rcases general pairs empty found with none | member
  · cases none
  · exact member

theorem lookup_eq_none_iff {entries : List (κ × ν)} {key : κ} :
    lookup key entries = none ↔ key ∉ entries.map Prod.fst := by
  induction entries with
  | nil => simp [lookup]
  | cons entry rest induction =>
      by_cases same : entry.1 = key
      · simp [lookup, same]
      · simp [lookup, same, Ne.symm same, induction]

theorem nodup_assign {entries : List (κ × ν)}
    (nodup : (entries.map Prod.fst).Nodup) (key : κ) (value : ν) :
    ((assign key value entries).map Prod.fst).Nodup :=
  (Dict.set ⟨entries, nodup⟩ key value).nodup

theorem get?_eq_some_iff (dict : Dict κ ν) {key : κ} {value : ν} :
    dict.get? key = some value ↔ (key, value) ∈ dict.entries :=
  lookup_eq_some_iff dict.nodup

theorem getD_eq_of_mem (dict : Dict κ ν) {key : κ} {value : ν}
    (member : (key, value) ∈ dict.entries) (default : ν) :
    dict.getD key default = value := by
  rw [getD, dict.get?_eq_some_iff.mpr member]
  rfl

theorem getD_eq_default (dict : Dict κ ν) {key : κ}
    (absent : key ∉ dict.keys) (default : ν) :
    dict.getD key default = default := by
  cases found : dict.get? key with
  | none => simp [getD, found]
  | some value =>
      have member := dict.get?_eq_some_iff.mp found
      exact absurd (List.mem_map.mpr ⟨_, member, rfl⟩) absent

private theorem assign_of_fresh {key : κ} (value : ν)
    {entries : List (κ × ν)} (fresh : key ∉ entries.map Prod.fst) :
    assign key value entries = entries ++ [(key, value)] := by
  induction entries with
  | nil => rfl
  | cons entry rest induction =>
      rw [List.map_cons, List.mem_cons, not_or] at fresh
      rw [assign, if_neg (Ne.symm fresh.1), induction fresh.2,
        List.cons_append]

/-- A new key comes last. -/
theorem entries_set_of_fresh (dict : Dict κ ν) {key : κ} (value : ν)
    (fresh : dict.get? key = none) :
    (dict.set key value).entries = dict.entries ++ [(key, value)] :=
  assign_of_fresh value (lookup_eq_none_iff.mp fresh)

/-- Pairs with distinct keys are the entries, in their order. -/
theorem entries_ofList {pairs : List (κ × ν)}
    (distinct : (pairs.map Prod.fst).Nodup) :
    (ofList pairs).entries = pairs := by
  have general : ∀ (pairs : List (κ × ν)) (dict : Dict κ ν),
      ((dict.entries ++ pairs).map Prod.fst).Nodup →
        (pairs.foldl (fun dict pair => dict.set pair.1 pair.2) dict).entries =
          dict.entries ++ pairs := by
    intro pairs
    induction pairs with
    | nil => simp
    | cons pair rest induction =>
        intro dict together
        have fresh : pair.1 ∉ dict.entries.map Prod.fst := by
          intro member
          rw [List.map_append, List.map_cons] at together
          exact (List.nodup_append.mp together).2.2 _ member _
            List.mem_cons_self rfl
        have entries : (dict.set pair.1 pair.2).entries =
            dict.entries ++ [pair] := assign_of_fresh pair.2 fresh
        rw [List.foldl_cons, induction _ (by
          rw [entries, List.append_assoc]
          exact together), entries, List.append_assoc]
        rfl
  exact general pairs empty distinct

/-- `left == right`: the same keys with the same values. -/
def Agrees (left right : Dict κ ν) : Prop :=
  (∀ entry ∈ left.entries, right.get? entry.1 = some entry.2) ∧
    ∀ entry ∈ right.entries, left.get? entry.1 = some entry.2

instance [DecidableEq ν] (left right : Dict κ ν) :
    Decidable (left.Agrees right) :=
  inferInstanceAs (Decidable (_ ∧ _))

theorem agrees_iff {left right : Dict κ ν} :
    left.Agrees right ↔ ∀ key, left.get? key = right.get? key := by
  constructor
  · rintro ⟨forward, backward⟩ key
    refine Option.ext fun value => ?_
    constructor
    · intro found
      exact forward (key, value) (left.get?_eq_some_iff.mp found)
    · intro found
      exact backward (key, value) (right.get?_eq_some_iff.mp found)
  · intro same
    constructor
    · intro entry member
      rw [← same]
      exact left.get?_eq_some_iff.mpr member
    · intro entry member
      rw [same]
      exact right.get?_eq_some_iff.mpr member

/-- `del dict[key]`, for a present key. -/
def erase (dict : Dict κ ν) (key : κ) : Dict κ ν :=
  { entries := dict.entries.filter fun entry => entry.1 ≠ key
    nodup := dict.nodup.sublist
      (List.Sublist.map Prod.fst List.filter_sublist) }

theorem get?_erase (dict : Dict κ ν) (key other : κ) :
    (dict.erase key).get? other =
      if key = other then none else dict.get? other := by
  refine Option.ext fun value => ?_
  rw [get?_eq_some_iff]
  by_cases same : key = other
  · simp [erase, same]
  · simp [erase, same, get?_eq_some_iff, Ne.symm same]

/-- `dict(sorted(dict.items()))`. -/
def sorted [LE κ] [DecidableLE κ] (dict : Dict κ ν) : Dict κ ν :=
  { entries := dict.entries.mergeSort fun first second => first.1 ≤ second.1
    nodup := ((List.mergeSort_perm _ _).map Prod.fst).nodup_iff.mpr
      dict.nodup }

theorem get?_sorted [LE κ] [DecidableLE κ] (dict : Dict κ ν) (key : κ) :
    dict.sorted.get? key = dict.get? key :=
  lookup_perm dict.sorted.nodup (List.mergeSort_perm _ _) key

theorem mem_values_of_get? (dict : Dict κ ν) {key : κ} {value : ν}
    (found : dict.get? key = some value) : value ∈ dict.values :=
  List.mem_map.mpr ⟨(key, value), dict.get?_eq_some_iff.mp found, rfl⟩

theorem exists_get?_of_mem_values (dict : Dict κ ν) {value : ν}
    (member : value ∈ dict.values) : ∃ key, dict.get? key = some value := by
  obtain ⟨⟨key, found⟩, entry, rfl⟩ := List.mem_map.mp member
  exact ⟨key, dict.get?_eq_some_iff.mpr entry⟩

private theorem sum_assign {M : Type} [AddCommGroup M] (weight : ν → M)
    (key : κ) (value : ν) (entries : List (κ × ν)) :
    ((assign key value entries).map fun entry => weight entry.2).sum =
      (entries.map fun entry => weight entry.2).sum + weight value -
        ((lookup key entries).map weight).getD 0 := by
  induction entries with
  | nil => simp [assign, lookup]
  | cons entry rest induction =>
      by_cases same : entry.1 = key
      · simp only [assign, if_pos same, lookup, List.map_cons,
          List.sum_cons, Option.map_some, Option.getD_some]
        abel
      · simp only [assign, if_neg same, lookup, List.map_cons,
          List.sum_cons, induction]
        abel

/-- Assigning changes a total by the new value minus the replaced one. -/
theorem sum_values_set {M : Type} [AddCommGroup M] (weight : ν → M)
    (dict : Dict κ ν) (key : κ) (value : ν) :
    ((dict.set key value).values.map weight).sum =
      (dict.values.map weight).sum + weight value -
        ((dict.get? key).map weight).getD 0 := by
  simpa [values, set, get?, List.map_map, Function.comp_def] using
    sum_assign weight key value dict.entries

end Dict

/-- `dict.fromkeys(items)`. -/
def distinct {α : Type} [DecidableEq α] (items : List α) : List α :=
  (Dict.ofList (items.map fun item => (item, ()))).keys

theorem mem_distinct {α : Type} [DecidableEq α] {items : List α} {item : α} :
    item ∈ distinct items ↔ item ∈ items := by
  rw [distinct, Dict.mem_keys_ofList]
  simp

theorem distinct_nodup {α : Type} [DecidableEq α] (items : List α) :
    (distinct items).Nodup :=
  Dict.nodup _

theorem distinct_perm_iff {α : Type} [DecidableEq α] {left right : List α} :
    (distinct left).Perm (distinct right) ↔
      ∀ item, item ∈ left ↔ item ∈ right := by
  rw [List.perm_ext_iff_of_nodup (distinct_nodup _) (distinct_nodup _)]
  simp only [mem_distinct]

theorem distinct_perm {α : Type} [DecidableEq α] {left right : List α}
    (permuted : left.Perm right) : (distinct left).Perm (distinct right) :=
  distinct_perm_iff.mpr fun _ => permuted.mem_iff

end RagBench
