import RagBench.Benchmark.SplitComponents
import RagBench.Providers.CacheKeys
import RagBench.Related

/-!
# Splits without leakage

Each component goes into one split.  A smallest split is chosen, so the sizes
stay within one component of each other and no split stays empty while there
are components.
-/

namespace RagBench

namespace Splits

/-! ## Allocation -/

theorem mem_splitOrder (name : SnapshotName) : name ∈ splitOrder := by
  cases name <;> decide

theorem mem_eligible {allocations : Allocations} {name : SnapshotName} :
    name ∈ eligible allocations ↔
      ∀ other, (allocations name).length ≤ (allocations other).length := by
  unfold eligible
  rw [List.mem_filter, decide_eq_true_eq]
  constructor
  · rintro ⟨-, least⟩ other
    cases other <;> omega
  · intro least
    have first := least .devAuto
    have second := least .testGold
    have third := least .stress
    refine ⟨mem_splitOrder name, ?_⟩
    cases name <;> omega

theorem eligible_ne_nil (allocations : Allocations) :
    eligible allocations ≠ [] := by
  obtain ⟨name, least⟩ : ∃ name, ∀ other,
      (allocations name).length ≤ (allocations other).length := by
    have cases_of_least : ∀ a b c : ℕ, (a ≤ b ∧ a ≤ c) ∨
        (b ≤ a ∧ b ≤ c) ∨ (c ≤ a ∧ c ≤ b) := by omega
    rcases cases_of_least (allocations .devAuto).length
      (allocations .testGold).length (allocations .stress).length with
        ⟨low, low'⟩ | ⟨low, low'⟩ | ⟨low, low'⟩
    · exact ⟨.devAuto, fun other => by cases other <;> omega⟩
    · exact ⟨.testGold, fun other => by cases other <;> omega⟩
    · exact ⟨.stress, fun other => by cases other <;> omega⟩
  exact List.ne_nil_of_mem (mem_eligible.mpr least)

/-- What the splits hold after some groups. -/
structure Allocated (groups : List (List String)) (allocations : Allocations)
    (bound : ℕ) : Prop where
  perm : (splitOrder.flatMap allocations).Perm groups.flatten
  whole : ∀ group ∈ groups, ∃ name, ∀ itemId ∈ group,
    itemId ∈ allocations name
  balanced : ∀ name other,
    (allocations name).length ≤ (allocations other).length + bound
  empties : splitOrder.countP (allocations · = []) = 3 - groups.length

theorem allocated_nil (bound : ℕ) : Allocated [] (fun _ => []) bound :=
  { perm := by simp
    whole := List.forall_mem_nil _
    balanced := fun _ _ => Nat.zero_le _
    empties := rfl }

private theorem flatMap_update_perm (allocations : Allocations)
    (chosen : SnapshotName) (group : List String) :
    (splitOrder.flatMap (Function.update allocations chosen
      (allocations chosen ++ group))).Perm
        (splitOrder.flatMap allocations ++ group) := by
  cases chosen with
  | devAuto =>
      simp only [splitOrder, List.flatMap_cons, List.flatMap_nil,
        List.append_nil, Function.update_self, List.append_assoc]
      refine List.Perm.append_left _ ?_
      exact List.perm_append_comm.trans (by simp [Function.update])
  | testGold =>
      simp only [splitOrder, List.flatMap_cons, List.flatMap_nil,
        List.append_nil, Function.update_self, List.append_assoc]
      refine List.Perm.append_left _ (List.Perm.append_left _ ?_)
      exact List.perm_append_comm
  | stress => simp [splitOrder, Function.update]

/-- One more group goes into a smallest split. -/
private theorem Allocated.step {groups : List (List String)}
    {allocations : Allocations} {bound : ℕ} {group : List String}
    {chosen : SnapshotName} (allocated : Allocated groups allocations bound)
    (nonempty : group ≠ []) (small : group.length ≤ bound)
    (least : ∀ other,
      (allocations chosen).length ≤ (allocations other).length) :
    Allocated (groups ++ [group]) (Function.update allocations chosen
      (allocations chosen ++ group)) bound where
  perm := by
    rw [List.flatten_append, List.flatten_singleton]
    exact (flatMap_update_perm allocations chosen group).trans
      (allocated.perm.append_right group)
  whole := by
    refine List.forall_mem_append.mpr ⟨fun other member => ?_,
      List.forall_mem_singleton.mpr ⟨chosen, fun itemId inside => ?_⟩⟩
    · obtain ⟨name, within⟩ := allocated.whole other member
      refine ⟨name, fun itemId inside => ?_⟩
      by_cases same : name = chosen
      · subst same
        rw [Function.update_self]
        exact List.mem_append_left _ (within itemId inside)
      · rw [Function.update_of_ne same]
        exact within itemId inside
    · rw [Function.update_self]
      exact List.mem_append_right _ inside
  balanced := by
    intro name other
    have grown : (allocations chosen ++ group).length =
        (allocations chosen).length + group.length := List.length_append
    have before := allocated.balanced name other
    have low := least other
    by_cases same : name = chosen <;> by_cases same' : other = chosen
    · subst same
      subst same'
      omega
    · subst same
      rw [Function.update_self, Function.update_of_ne same']
      omega
    · subst same'
      rw [Function.update_self, Function.update_of_ne same]
      omega
    · rw [Function.update_of_ne same, Function.update_of_ne same']
      exact before
  empties := by
    have filled : allocations chosen ++ group ≠ [] := by simp [nonempty]
    have before := allocated.empties
    rw [List.length_append, List.length_singleton]
    by_cases empty : allocations chosen = []
    · have fewer : splitOrder.countP (allocations · = []) =
          splitOrder.countP (Function.update allocations chosen
            (allocations chosen ++ group) · = []) + 1 := by
        cases chosen <;>
          simp [splitOrder, List.countP_cons, Function.update, empty,
            nonempty] <;> omega
      omega
    · have others : ∀ other, allocations other ≠ [] := by
        intro other same
        have low := least other
        rw [same, List.length_nil, Nat.le_zero] at low
        exact empty (List.length_eq_zero_iff.mp low)
      have none : splitOrder.countP (allocations · = []) = 0 := by
        simp [others]
      have none' : splitOrder.countP (Function.update allocations chosen
          (allocations chosen ++ group) · = []) = 0 := by
        refine List.countP_eq_zero.mpr fun name _ => ?_
        by_cases same : name = chosen
        · subst same
          simp [nonempty]
        · simp [Function.update_of_ne same, others]
      omega

theorem allocate_allocated {random : SplitRandom} {draw bound : ℕ}
    {groups rest : List (List String)} {allocations : Allocations}
    (allocated : Allocated groups allocations bound)
    (nonempty : ∀ group ∈ rest, group ≠ [])
    (small : ∀ group ∈ rest, group.length ≤ bound) :
    Allocated (groups ++ rest) (allocate random draw rest allocations)
      bound := by
  induction rest generalizing groups draw allocations with
  | nil =>
      rw [List.append_nil, allocate]
      exact allocated
  | cons group rest induction =>
      obtain ⟨here, nonempty⟩ := List.forall_mem_cons.mp nonempty
      obtain ⟨fits, small⟩ := List.forall_mem_cons.mp small
      have chosen := mem_eligible.mp
        (random.choice_mem draw _ (eligible_ne_nil allocations))
      rw [allocate, List.append_cons]
      exact induction (allocated.step here fits chosen) nonempty small

/-- No split is empty when there are as many groups as splits. -/
theorem Allocated.filled_iff {groups : List (List String)}
    {allocations : Allocations} {bound : ℕ}
    (allocated : Allocated groups allocations bound) :
    (∀ name, allocations name ≠ []) ↔ 3 ≤ groups.length := by
  have count : splitOrder.countP (allocations · = []) = 0 ↔
      ∀ name, allocations name ≠ [] := by
    rw [List.countP_eq_zero]
    constructor
    · intro none name
      simpa using none name (mem_splitOrder name)
    · intro filled name _
      simpa using filled name
  rw [← count, allocated.empties]
  omega

end Splits

/-! ## Snapshots -/

/-- The hash of a decoded value without infinite floats. -/
theorem Platform.HashesCanonically.ok {platform : Platform}
    {floats : FloatText} (hashes : platform.HashesCanonically floats)
    {value : Json} (compliant : value.isCompliant = true) :
    ∃ bytes, platform.canonicalJsonHash value =
      .ok (platform.sha256Hex bytes) := by
  have printed := PyValue.canonicalJson_ofJson.mpr
    (⟨compliant, rfl⟩ : value.isCompliant = true ∧
      String.ofList (Json.text floats value) = _)
  rw [hashes, PyValue.canonicalJsonHash, printed]
  exact ⟨_, rfl⟩

theorem hashed_object {platform : Platform} {floats : FloatText}
    (hashes : platform.HashesCanonically floats)
    (hex : ∀ bytes, isHexDigest (platform.sha256Hex bytes) = true)
    (texts : List (String × String)) :
    ∃ digest, platform.canonicalJsonHash
        (.object (texts.map fun entry => (entry.1, .str entry.2))) =
          .ok digest ∧ isHexDigest digest = true := by
  have compliant : (Json.object (texts.map fun entry =>
      (entry.1, Json.str entry.2))).isCompliant = true := by
    rw [Json.isCompliant, Json.entriesCompliant_iff]
    exact List.forall_mem_map.mpr fun _ _ => rfl
  obtain ⟨bytes, hashed⟩ := hashes.ok compliant
  exact ⟨_, hashed, hex bytes⟩

/-- The hashes of these values tell them apart. -/
def Platform.Separates (platform : Platform) (values : Set Json) : Prop :=
  ∀ left ∈ values, ∀ right ∈ values, ∀ digest,
    platform.canonicalJsonHash left = .ok digest →
      platform.canonicalJsonHash right = .ok digest → left.Same right

theorem Platform.HashesCanonically.separates {platform : Platform}
    {floats : FloatText} (hashes : platform.HashesCanonically floats)
    (collisionFree : Function.Injective platform.sha256Hex)
    (values : Set Json) : platform.Separates values := by
  intro left _ right _ digest hashed hashed'
  rw [hashes] at hashed hashed'
  exact PyValue.same_of_hash_eq collisionFree hashed hashed'

namespace Splits

private theorem compliant_modelDump (item : BenchmarkItem) :
    item.modelDump.isCompliant = true := by
  have documents := Json.compliant_texts item.documentIds
  rw [Json.isCompliant] at documents
  simp [BenchmarkItem.modelDump, Json.isCompliant, Json.entriesCompliant,
    documents]

variable {platform : Platform} {floats : FloatText}
  {byId : Dict String BenchmarkItem} {version : String} {seed : ℤ}
  {allocations : Allocations} {name : SnapshotName}

private theorem dumps_ok {itemIds : List String}
    (known : ∀ itemId ∈ itemIds, ∃ item, byId.get? itemId = some item) :
    ∃ items : List BenchmarkItem, itemIds.mapM (dumpOf byId) =
      .ok (items.map BenchmarkItem.modelDump) := by
  induction itemIds with
  | nil => exact ⟨[], rfl⟩
  | cons itemId rest induction =>
      obtain ⟨⟨item, found⟩, known⟩ := List.forall_mem_cons.mp known
      obtain ⟨items, listed⟩ := induction known
      refine ⟨item :: items, ?_⟩
      rw [List.mapM_cons, dumpOf, found, listed]
      rfl

theorem snapshotOf_ok (seed : ℤ) (hashes : platform.HashesCanonically floats)
    (digests : ∀ bytes, isHexDigest (platform.sha256Hex bytes) = true)
    (valid : version ≠ "")
    (known : ∀ itemId ∈ allocations name,
      ∃ item, byId.get? itemId = some item)
    (filled : allocations name ≠ []) :
    ∃ snapshot, snapshotOf platform byId version seed allocations name =
        .ok (name, snapshot) ∧
      snapshot.itemIds = sortedIds (allocations name) := by
  have permuted : (sortedIds (allocations name)).Perm (allocations name) :=
    sortBy_perm id (allocations name)
  have nonempty : sortedIds (allocations name) ≠ [] := by
    intro empty
    exact filled (List.nil_perm.mp (empty ▸ permuted))
  obtain ⟨items, listed⟩ := dumps_ok
    fun itemId member => known itemId (permuted.mem_iff.mp member)
  have identity : (Json.object [
      ("name", .str name.value),
      ("version", .str version),
      ("seed", .int seed),
      ("items", .array (items.map BenchmarkItem.modelDump))]).isCompliant =
        true := by
    have dumps : Json.itemsCompliant (items.map BenchmarkItem.modelDump) =
        true :=
      (Json.itemsCompliant_iff _).mpr
        (List.forall_mem_map.mpr fun item _ => compliant_modelDump item)
    simp only [Json.isCompliant, Json.entriesCompliant, dumps, Bool.and_self]
  obtain ⟨bytes, hashed⟩ := hashes.ok identity
  obtain ⟨bytes', hashed'⟩ :=
    hashes.ok (Json.compliant_texts (sortedIds (allocations name)))
  unfold snapshotOf
  dsimp only
  rw [if_neg nonempty, listed]
  dsimp only [bind, Except.bind]
  rw [hashed]
  dsimp only
  rw [hashed']
  dsimp only
  rw [SplitSnapshot.validate, if_pos ⟨valid, digests bytes,
    List.length_pos_iff.mpr nonempty, digests bytes'⟩]
  exact ⟨_, rfl, rfl⟩

theorem snapshotOf_empty (empty : allocations name = []) :
    snapshotOf platform byId version seed allocations name =
      .error (.valueError
        "leakage components cannot populate every requested split") := by
  have none : sortedIds (allocations name) = [] := by
    rw [empty]
    exact List.mergeSort_nil
  unfold snapshotOf
  dsimp only
  rw [if_pos none]
  rfl

/-- The ids of a split. -/
def memberIds (snapshots : Dict SnapshotName SplitSnapshot)
    (name : SnapshotName) : List String :=
  match snapshots.get? name with
  | some snapshot => snapshot.itemIds
  | none => []

/-- There is a snapshot of each split when no split is empty. -/
theorem snapshots_spec (seed : ℤ) (hashes : platform.HashesCanonically floats)
    (digests : ∀ bytes, isHexDigest (platform.sha256Hex bytes) = true)
    (valid : version ≠ "")
    (known : ∀ name, ∀ itemId ∈ allocations name,
      ∃ item, byId.get? itemId = some item) :
    ((∃ pairs, splitOrder.mapM
        (snapshotOf platform byId version seed allocations) = .ok pairs) ↔
      ∀ name, allocations name ≠ []) ∧
    ∀ pairs, splitOrder.mapM
        (snapshotOf platform byId version seed allocations) = .ok pairs →
      ∀ name, ∃ snapshot, (Dict.ofList pairs).get? name = some snapshot ∧
        snapshot.itemIds = sortedIds (allocations name) := by
  have filled : ∀ pairs, splitOrder.mapM
      (snapshotOf platform byId version seed allocations) = .ok pairs →
      ∀ name, allocations name ≠ [] := by
    intro pairs success name empty
    obtain ⟨pair, -, built⟩ :=
      exists_right_of_forall₂ (mapM_eq_ok.mp success) (mem_splitOrder name)
    cases built.symm.trans (snapshotOf_empty empty)
  refine ⟨⟨fun ⟨pairs, success⟩ => filled pairs success, fun all => ?_⟩, ?_⟩
  · choose snapshot built _ using fun name =>
      snapshotOf_ok seed hashes digests valid (known name) (all name)
    refine ⟨splitOrder.map fun name => (name, snapshot name),
      mapM_eq_ok.mpr (List.forall₂_map_right_iff.mpr ?_)⟩
    exact List.forall₂_same.mpr fun name _ => built name
  · intro pairs success name
    have each := mapM_eq_ok.mp success
    have named : ∀ other pair,
        snapshotOf platform byId version seed allocations other = .ok pair →
        pair.1 = other ∧ pair.2.itemIds = sortedIds (allocations other) := by
      intro other pair built
      obtain ⟨snapshot, again, same⟩ := snapshotOf_ok seed hashes digests valid
        (known other) (filled pairs success other)
      obtain rfl := Except.ok.inj (built.symm.trans again)
      exact ⟨rfl, same⟩
    have keys : pairs.map Prod.fst = splitOrder.map id :=
      map_eq_of_forall₂ _ _ (fun other pair built =>
        (named other pair built).1) each
    have distinct : (pairs.map Prod.fst).Nodup := by
      rw [keys]
      decide
    obtain ⟨pair, member, built⟩ := exists_right_of_forall₂ each (mem_splitOrder name)
    obtain ⟨rfl, same⟩ := named name pair built
    refine ⟨pair.2, ?_, same⟩
    rw [Dict.get?_eq_some_iff, Dict.entries_ofList distinct]
    exact member

end Splits

open Splits

variable {builder : SplitBuilder} {floats : FloatText} {fuel : ℕ}
  {items : List BenchmarkItem} {version : String} {seed : ℤ}

/-- Each item is in one split with all that is connected to it. -/
structure LeakageFree (items : List BenchmarkItem)
    (snapshots : Dict SnapshotName SplitSnapshot) : Prop where
  complete : ∀ name, ∃ snapshot, snapshots.get? name = some snapshot
  known : ∀ name, ∀ itemId ∈ memberIds snapshots name,
    itemId ∈ items.map (·.itemId)
  once : ∀ name, (memberIds snapshots name).Nodup
  exactly_one : ∀ item ∈ items,
    ∃! name, item.itemId ∈ memberIds snapshots name
  together : ∀ left ∈ items, ∀ right ∈ items,
    Connected items left.itemId right.itemId →
      ∀ name, left.itemId ∈ memberIds snapshots name ↔
        right.itemId ∈ memberIds snapshots name
  balanced : ∀ name other, (memberIds snapshots name).length ≤
    (memberIds snapshots other).length + largestComponent items

/-- The ids of items with distinct ids. -/
private theorem byId_spec (unique : (items.map (·.itemId)).Nodup) :
    (Dict.ofList (items.map fun item => (item.itemId, item))).keys =
        items.map (·.itemId) ∧
      ∀ item ∈ items, (Dict.ofList (items.map fun item =>
        (item.itemId, item))).get? item.itemId = some item := by
  have same : (items.map fun item => (item.itemId, item)).map Prod.fst =
      items.map (·.itemId) := by
    rw [List.map_map]
    rfl
  have entries := Dict.entries_ofList (same ▸ unique)
  refine ⟨by rw [Dict.keys, entries, same], fun item member => ?_⟩
  rw [Dict.get?_eq_some_iff, entries]
  exact List.mem_map_of_mem member

/-- The run up to the allocation. -/
private theorem buildSplitSnapshots_eq (builder : SplitBuilder) (seed : ℤ)
    (unique : (items.map (·.itemId)).Nodup)
    (valid : strip version ≠ "") (enough : items.length ≤ fuel)
    (three : 3 ≤ items.length) :
    ∃ groups allocations, Components items groups ∧
      Allocated groups allocations (largestComponent items) ∧
      builder.buildSplitSnapshots fuel items version seed =
        some ((splitOrder.mapM (snapshotOf builder.platform
          (Dict.ofList (items.map fun item => (item.itemId, item))) version
          seed allocations)).map Dict.ofList) := by
  obtain ⟨keys, -⟩ := byId_spec unique
  obtain ⟨indexes, parent, indexed, unites⟩ :=
    indexItems_unites (sortBy_perm (·.itemId) items) enough
  have listed : (sortedIds (Dict.ofList (items.map fun item =>
      (item.itemId, item))).keys).Perm (items.map (·.itemId)) := by
    rw [keys]
    exact sortBy_perm id _
  obtain ⟨found, collected, components⟩ :=
    collect_components unites enough listed
  have permuted := (List.mergeSort_perm
    ((builder.random seed).shuffle found.values)
      fun left right => decide (right.length ≤ left.length)).trans
    ((builder.random seed).shuffle_perm found.values)
  have reordered := components.reorder permuted
  refine ⟨_, Splits.allocate (builder.random seed) 0
    (((builder.random seed).shuffle found.values).mergeSort
      fun left right => right.length ≤ left.length) fun _ => [],
    reordered, ?_, ?_⟩
  · exact allocate_allocated (allocated_nil _) reordered.nonempty
      (reordered.group_le unique)
  · unfold SplitBuilder.buildSplitSnapshots
    rw [if_neg (by
      rw [not_or, not_lt]
      exact ⟨valid, three⟩)]
    dsimp only
    rw [if_neg (by rw [keys, List.length_map]; exact not_not.mpr rfl)]
    rw [indexed]
    dsimp only [bind, Option.bind]
    rw [collected]
    rfl

theorem map_eq_ok {α β : Type} {function : α → β}
    {outcome : Except PyException α} {result : β} :
    outcome.map function = .ok result ↔
      ∃ value, outcome = .ok value ∧ function value = result := by
  cases outcome <;> simp [Except.map]

/-- Three items that are not connected are three items. -/
private theorem three_le_length (three : ThreeComponents items) :
    3 ≤ items.length := by
  obtain ⟨first, member, second, member', third, member'', apart, apart',
    apart''⟩ := three
  have distinct : [first, second, third].Nodup := by
    simp only [List.nodup_cons, List.mem_cons, List.not_mem_nil, or_false,
      not_or, not_false_eq_true, List.nodup_nil, and_true]
    refine ⟨⟨?_, ?_⟩, ?_⟩
    · rintro rfl
      exact apart (.refl _)
    · rintro rfl
      exact apart' (.refl _)
    · rintro rfl
      exact apart'' (.refl _)
  exact (distinct.subperm (by
    intro item among
    simp only [List.mem_cons, List.not_mem_nil, or_false] at among
    rcases among with rfl | rfl | rfl
    · exact member
    · exact member'
    · exact member'')).length_le

/-- Snapshots of an allocation of the components. -/
private theorem leakageFree_of_allocated {groups : List (List String)}
    {allocations : Allocations} {snapshots : Dict SnapshotName SplitSnapshot}
    (unique : (items.map (·.itemId)).Nodup)
    (components : Components items groups)
    (allocated : Allocated groups allocations (largestComponent items))
    (built : ∀ name, ∃ snapshot, snapshots.get? name = some snapshot ∧
      snapshot.itemIds = sortedIds (allocations name)) :
    LeakageFree items snapshots := by
  have members : ∀ name, (memberIds snapshots name).Perm
      (allocations name) := by
    intro name
    obtain ⟨snapshot, found, same⟩ := built name
    rw [memberIds, found]
    dsimp only
    rw [same]
    exact sortBy_perm id _
  have all : (splitOrder.flatMap allocations).Perm (items.map (·.itemId)) :=
    allocated.perm.trans components.perm
  obtain ⟨nodup, disjoint⟩ :=
    List.nodup_flatMap.mp (all.nodup_iff.mpr unique)
  have symmetric : Std.Symm (Function.onFun List.Disjoint allocations) :=
    ⟨fun _ _ apart => apart.symm⟩
  have apart : ∀ name other, name ≠ other →
      List.Disjoint (allocations name) (allocations other) :=
    fun name other => disjoint.forall (mem_splitOrder name)
      (mem_splitOrder other)
  have only : ∀ {itemId : String} {name other : SnapshotName},
      itemId ∈ allocations name → itemId ∈ allocations other →
        name = other := by
    intro itemId name other inside inside'
    by_contra different
    exact apart name other different inside inside'
  refine ⟨fun name => ?_, fun name itemId inside => ?_, fun name => ?_,
    fun item member => ?_, fun left member right member' linked name => ?_,
    fun name other => ?_⟩
  · obtain ⟨snapshot, found, -⟩ := built name
    exact ⟨snapshot, found⟩
  · exact all.mem_iff.mp (List.mem_flatMap.mpr
      ⟨name, mem_splitOrder name, (members name).mem_iff.mp inside⟩)
  · exact (members name).nodup_iff.mpr (nodup name (mem_splitOrder name))
  · obtain ⟨name, -, inside⟩ := List.mem_flatMap.mp
      (all.mem_iff.mpr (List.mem_map_of_mem member))
    refine ⟨name, (members name).mem_iff.mpr inside, fun other inside' => ?_⟩
    exact only ((members other).mem_iff.mp inside') inside
  · have listed : left.itemId ∈ items.map (·.itemId) :=
      List.mem_map_of_mem member
    obtain ⟨group, among, inside⟩ :=
      List.mem_flatten.mp (components.perm.mem_iff.mpr listed)
    have inside' := components.whole group among _ inside _
      (List.mem_map_of_mem member') linked
    obtain ⟨home, within⟩ := allocated.whole group among
    rw [(members name).mem_iff, (members name).mem_iff]
    constructor
    · intro here
      exact only here (within _ inside) ▸ within _ inside'
    · intro here
      exact only here (within _ inside') ▸ within _ inside
  · rw [(members name).length_eq, (members other).length_eq]
    exact allocated.balanced name other

/-- The order of the items does not matter. -/
private theorem buildSplitSnapshots_perm {permuted : List BenchmarkItem}
    (unique : (items.map (·.itemId)).Nodup) (same : permuted.Perm items) :
    builder.buildSplitSnapshots fuel permuted version seed =
      builder.buildSplitSnapshots fuel items version seed := by
  have unique' : (permuted.map (·.itemId)).Nodup :=
    (same.map _).nodup_iff.mpr unique
  obtain ⟨keys, found⟩ := byId_spec unique
  obtain ⟨keys', found'⟩ := byId_spec unique'
  have lookups : ∀ itemId,
      (Dict.ofList (permuted.map fun item => (item.itemId, item))).get?
        itemId =
      (Dict.ofList (items.map fun item => (item.itemId, item))).get?
        itemId := by
    intro itemId
    have pairs : ∀ list : List BenchmarkItem,
        (list.map fun item => (item.itemId, item)).map Prod.fst =
          list.map (·.itemId) := by
      intro list
      rw [List.map_map]
      rfl
    unfold Dict.get?
    rw [Dict.entries_ofList (pairs permuted ▸ unique'),
      Dict.entries_ofList (pairs items ▸ unique)]
    exact Dict.lookup_perm (pairs permuted ▸ unique') (same.map _) itemId
  have snapshots : snapshotOf builder.platform
      (Dict.ofList (permuted.map fun item => (item.itemId, item))) =
      snapshotOf builder.platform
        (Dict.ofList (items.map fun item => (item.itemId, item))) := by
    funext version seed allocations name
    unfold snapshotOf
    rw [show dumpOf (Dict.ofList (permuted.map fun item =>
        (item.itemId, item))) = dumpOf (Dict.ofList (items.map fun item =>
          (item.itemId, item))) from funext fun itemId => by
      rw [dumpOf, dumpOf, lookups]]
  unfold SplitBuilder.buildSplitSnapshots
  dsimp only
  rw [same.length_eq, keys, keys', List.length_map, List.length_map,
    same.length_eq, sortBy_eq_of_perm unique' same, snapshots]
  have ids : sortedIds (permuted.map (·.itemId)) =
      sortedIds (items.map (·.itemId)) :=
    sortBy_eq_of_perm (by simpa using unique') (same.map _)
  rw [ids]

/-- Splits are leakage free: a result whatever the draws, for three components
or more, in which connected items stay together. -/
theorem splits_leakage_free (seed : ℤ)
    (hashes : builder.platform.HashesCanonically floats)
    (digests : ∀ bytes, isHexDigest (builder.platform.sha256Hex bytes) = true)
    (unique : (items.map (·.itemId)).Nodup) (valid : strip version ≠ "")
    (enough : items.length ≤ fuel) :
    ∃ result,
      builder.buildSplitSnapshots fuel items version seed = some result ∧
      ((∃ snapshots, result = .ok snapshots) ↔ ThreeComponents items) ∧
      (∀ snapshots, result = .ok snapshots → LeakageFree items snapshots) ∧
      ∀ permuted, permuted.Perm items →
        builder.buildSplitSnapshots fuel permuted version seed =
          some result := by
  by_cases three : 3 ≤ items.length
  · obtain ⟨groups, allocations, components, allocated, computed⟩ :=
      buildSplitSnapshots_eq builder seed unique valid enough three
    have named : version ≠ "" := by
      rintro rfl
      exact valid rfl
    have known : ∀ name, ∀ itemId ∈ allocations name, ∃ item,
        (Dict.ofList (items.map fun item => (item.itemId, item))).get?
          itemId = some item := by
      intro name itemId inside
      have listed := (allocated.perm.trans components.perm).mem_iff.mp
        (List.mem_flatMap.mpr ⟨name, mem_splitOrder name, inside⟩)
      obtain ⟨item, member, rfl⟩ := List.mem_map.mp listed
      exact ⟨item, (byId_spec unique).2 item member⟩
    obtain ⟨success, built⟩ := snapshots_spec seed hashes digests named
      known
    refine ⟨_, computed, ?_, ?_, fun permuted same => ?_⟩
    · rw [← components.three_iff unique, ← allocated.filled_iff, ← success]
      constructor
      · rintro ⟨snapshots, done⟩
        obtain ⟨pairs, listed, -⟩ := map_eq_ok.mp done
        exact ⟨pairs, listed⟩
      · rintro ⟨pairs, listed⟩
        exact ⟨_, map_eq_ok.mpr ⟨pairs, listed, rfl⟩⟩
    · intro snapshots done
      obtain ⟨pairs, listed, rfl⟩ := map_eq_ok.mp done
      exact leakageFree_of_allocated unique components allocated
        (built pairs listed)
    · rw [buildSplitSnapshots_perm unique same, computed]
  · have computed : builder.buildSplitSnapshots fuel items version seed =
        some (.error (.valueError
          "version and at least three benchmark items are required")) := by
      unfold SplitBuilder.buildSplitSnapshots
      rw [if_pos (.inr (not_le.mp three))]
      rfl
    refine ⟨_, computed, ?_, nofun, fun permuted same => ?_⟩
    · exact ⟨nofun, fun apart => absurd (three_le_length apart) three⟩
    · rw [buildSplitSnapshots_perm unique same, computed]

/-! ## Four items with three components -/

def hexDigit (digit : ℕ) : Char :=
  if digit < 10 then Char.ofNat (48 + digit) else Char.ofNat (87 + digit)

/-- A number for the bytes, as 64 digits. -/
def sampleHexSha256 (bytes : Bytes) : String :=
  let code := bytes.foldl (fun code byte => code * 257 + byte.toNat + 1) 0
  String.ofList ((List.range 64).map fun position =>
    hexDigit (code / 16 ^ position % 16))

theorem sampleHexSha256_isHexDigest (bytes : Bytes) :
    isHexDigest (sampleHexSha256 bytes) = true := by
  have digits : ∀ digit < 16, ('0' ≤ hexDigit digit ∧ hexDigit digit ≤ '9') ∨
      ('a' ≤ hexDigit digit ∧ hexDigit digit ≤ 'f') := by
    decide
  unfold isHexDigest sampleHexSha256
  simp only [String.toList_ofList, List.length_map, List.length_range,
    true_and, decide_eq_true_eq, List.all_eq_true]
  intro character member
  obtain ⟨position, -, rfl⟩ := List.mem_map.mp member
  exact digits _ (Nat.mod_lt _ (by decide))

def hexPlatform : Platform :=
  { samplePlatform with
    sha256Hex := sampleHexSha256
    canonicalJsonHash := fun value =>
      (PyValue.ofJson value).canonicalJsonHash sampleFloats sampleHexSha256 }

/-- The groups keep their order, and the first choice is taken. -/
def firstChoices : SplitRandom where
  shuffle := id
  choice := fun _ names => names.headD .devAuto
  shuffle_perm := fun groups => .refl groups
  choice_mem := fun _ names nonempty => by
    cases names with
    | nil => exact absurd rfl nonempty
    | cons name names => exact List.mem_cons_self

def sampleBuilder : SplitBuilder :=
  { platform := hexPlatform
    random := fun _ => firstChoices }

/-- The first two share a document. -/
def fourItems : List BenchmarkItem :=
  [⟨"a", "first?", ["shared", "north"], "f1", "p1", by decide, by decide⟩,
    ⟨"b", "second?", ["shared"], "f2", "p2", by decide, by decide⟩,
    ⟨"c", "third?", ["south"], "f3", "p3", by decide, by decide⟩,
    ⟨"d", "fourth?", ["west"], "f4", "p4", by decide, by decide⟩]

/-- Connected ids have the same color. -/
private theorem same_color {items : List BenchmarkItem} (color : String → ℕ)
    (agrees : ∀ left ∈ items, ∀ right ∈ items,
      (∃ token ∈ left.tokens, token ∈ right.tokens) →
        color left.itemId = color right.itemId)
    {first second : String} (connected : Connected items first second) :
    color first = color second := by
  induction connected with
  | rel first second shares =>
      obtain ⟨left, member, right, member', rfl, rfl, shares⟩ := shares
      exact agrees left member right member'
        (BenchmarkItem.shares_iff.mp shares)
  | refl => rfl
  | symm _ _ _ induction => exact induction.symm
  | trans _ _ _ _ _ early late => exact early.trans late

private def sampleColor (itemId : String) : ℕ :=
  if itemId = "c" then 1 else if itemId = "d" then 2 else 0

theorem four_items_split :
    ∃ snapshots, sampleBuilder.buildSplitSnapshots 4 fourItems "v1" 7 =
        some (.ok snapshots) ∧ LeakageFree fourItems snapshots := by
  have hashes : sampleBuilder.platform.HashesCanonically sampleFloats :=
    fun _ => rfl
  have unique : (fourItems.map (·.itemId)).Nodup := by decide
  have valid : strip "v1" ≠ "" := by decide
  have enough : fourItems.length ≤ 4 := le_rfl
  obtain ⟨result, computed, success, free, -⟩ := splits_leakage_free 7 hashes
    sampleHexSha256_isHexDigest unique valid enough
  have colors : ∀ left ∈ fourItems, ∀ right ∈ fourItems,
      (∃ token ∈ left.tokens, token ∈ right.tokens) →
        sampleColor left.itemId = sampleColor right.itemId := by
    decide
  have three : ThreeComponents fourItems := by
    refine ⟨_, List.mem_cons_self, _,
      List.mem_cons_of_mem _ (List.mem_cons_of_mem _ List.mem_cons_self), _,
      List.mem_cons_of_mem _ (List.mem_cons_of_mem _ (List.mem_cons_of_mem _
        List.mem_cons_self)), ?_, ?_, ?_⟩
    all_goals
      intro connected
      have same := same_color sampleColor colors connected
      revert same
      decide
  obtain ⟨snapshots, rfl⟩ := success.mpr three
  exact ⟨snapshots, computed, free snapshots rfl⟩

end RagBench
