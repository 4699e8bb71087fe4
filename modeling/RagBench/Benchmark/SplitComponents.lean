import RagBench.Benchmark.Splits
import RagBench.Grouping
import RagBench.UnionFind

/-!
# Components of shared documents, families and paraphrases

The lookups end, the united ids are the classes of the closure of sharing, and
each class becomes one group.
-/

namespace RagBench

open Relation (EqvGen)

/-- The items share a document, a family or a paraphrase group. -/
def BenchmarkItem.Shares (left right : BenchmarkItem) : Prop :=
  (∃ document ∈ left.documentIds, document ∈ right.documentIds) ∨
    left.questionFamilyId = right.questionFamilyId ∨
    left.paraphraseGroupId = right.paraphraseGroupId

/-- Items with these ids share something. -/
def SharesById (items : List BenchmarkItem) (first second : String) : Prop :=
  ∃ left ∈ items, ∃ right ∈ items,
    left.itemId = first ∧ right.itemId = second ∧ left.Shares right

/-- A chain of items that share something leads from one id to the other. -/
def Connected (items : List BenchmarkItem) : String → String → Prop :=
  EqvGen (SharesById items)

theorem BenchmarkItem.shares_iff {left right : BenchmarkItem} :
    left.Shares right ↔ ∃ token ∈ left.tokens, token ∈ right.tokens := by
  unfold Shares tokens
  constructor
  · rintro (⟨document, member, member'⟩ | same | same)
    · exact ⟨.document document, by simp [member], by simp [member']⟩
    · exact ⟨.family left.questionFamilyId, by simp, by simp [same]⟩
    · exact ⟨.paraphrase left.paraphraseGroupId, by simp, by simp [same]⟩
  · rintro ⟨token, member, member'⟩
    cases token with
    | document id => exact .inl ⟨id, by simpa using member, by
        simpa using member'⟩
    | family id =>
        have first : id = left.questionFamilyId := by simpa using member
        have second : id = right.questionFamilyId := by simpa using member'
        exact .inr (.inl (first.symm.trans second))
    | paraphrase id =>
        have first : id = left.paraphraseGroupId := by simpa using member
        have second : id = right.paraphraseGroupId := by simpa using member'
        exact .inr (.inr (first.symm.trans second))

namespace Splits

/-! ## Lookup and union -/

/-- Only the ids have parents, and the classes are the united pairs. -/
structure Unites (ids : List String) (parent : String → String)
    (related : String → String → Prop) : Prop where
  inner : ∀ itemId, parent itemId ≠ itemId → itemId ∈ ids
  tops : ∀ itemId ∈ ids, ∀ steps top,
    Forest.Climbs parent itemId steps top → top ∈ ids
  represents : Forest.Represents parent related

variable {ids : List String} {fuel : ℕ} {parent : String → String}
  {related : String → String → Prop}

theorem unites_id (ids : List String) :
    Unites ids id fun _ _ => False :=
  { inner := fun _ moved => absurd rfl moved
    tops := fun itemId member steps top climbs => by
      cases climbs with
      | root => exact member
      | up below => exact absurd rfl below
    represents := Forest.represents_id }

theorem Unites.flattens {after : String → String}
    (unites : Unites ids parent related)
    (flattens : Forest.Flattens parent after) : Unites ids after related where
  inner := fun itemId moved => by
    refine unites.inner itemId fun isRoot => moved ?_
    obtain ⟨fewer, short, climbs⟩ := flattens itemId 0 itemId (.root isRoot)
    obtain rfl := Nat.le_zero.mp short
    cases climbs with
    | root still => exact still
  tops := fun itemId member steps top climbs => by
    obtain ⟨others, top', before⟩ := unites.represents.grounded itemId
    obtain ⟨fewer, -, climbs'⟩ := flattens _ _ _ before
    rw [(climbs.unique climbs').2]
    exact unites.tops itemId member others top' before
  represents := unites.represents.flattens flattens

/-- The lookup ends while there is fuel for the way to the root. -/
private theorem findRoot_eq {itemId top : String} {steps : ℕ}
    (grounded : Forest.Grounded parent)
    (climbs : Forest.Climbs parent itemId steps top) (enough : steps ≤ fuel) :
    findRoot fuel parent itemId = some (Forest.find fuel parent itemId) := by
  induction fuel generalizing parent itemId steps with
  | zero =>
      obtain rfl := Nat.le_zero.mp enough
      cases climbs with
      | root isRoot =>
          unfold findRoot Forest.find
          rw [if_pos isRoot]
  | succ fuel induction =>
      unfold findRoot Forest.find
      cases climbs with
      | root isRoot => rw [if_pos isRoot, if_pos isRoot]
      | @up _ _ steps below above =>
          rw [if_neg below, if_neg below]
          have halved := Forest.flattens_halve parent itemId
          have nearer : ∃ fewer ≤ steps,
              Forest.Climbs parent (parent (parent itemId)) fewer top := by
            cases above with
            | root isRoot =>
                rw [isRoot]
                exact ⟨0, le_rfl, .root isRoot⟩
            | @up _ _ steps _ above => exact ⟨steps, by omega, above⟩
          obtain ⟨fewer, short, climbs⟩ := nearer
          obtain ⟨fewest, shorter, climbs⟩ := halved _ _ _ climbs
          exact induction (halved.grounded grounded) climbs (by omega)

theorem Unites.findRoot (unites : Unites ids parent related)
    (enough : ids.length ≤ fuel) (itemId : String) :
    ∃ after top steps, Splits.findRoot fuel parent itemId = some (after, top) ∧
      Unites ids after related ∧ Forest.Flattens parent after ∧
      Forest.Climbs parent itemId steps top := by
  obtain ⟨steps, top, climbs⟩ := unites.represents.grounded itemId
  have short : steps ≤ fuel := by
    have bound : steps ≤ ids.toFinset.card := climbs.steps_le_card
      fun other below => List.mem_toFinset.mpr (unites.inner other below)
    exact bound.trans (ids.toFinset_card_le.trans enough)
  obtain ⟨found, flat⟩ :=
    Forest.find_spec unites.represents.grounded climbs short
  refine ⟨_, top, steps, ?_, unites.flattens flat, flat, climbs⟩
  rw [findRoot_eq unites.represents.grounded climbs short, ← found]

/-- Linking two roots unites what is below them. -/
private theorem Unites.link {child root left right : String}
    (unites : Unites ids parent related) (inside : child ∈ ids)
    (inside' : root ∈ ids) (childRoot : parent child = child)
    (isRoot : parent root = root) (different : root ≠ child)
    (ends : (Forest.Joined parent left root ∧
        Forest.Joined parent right child) ∨
      (Forest.Joined parent left child ∧ Forest.Joined parent right root)) :
    Unites ids (Function.update parent child root) fun first second =>
      related first second ∨ (first = left ∧ second = right) where
  inner := fun itemId moved => by
    by_cases same : itemId = child
    · exact same ▸ inside
    · rw [Function.update_of_ne same] at moved
      exact unites.inner itemId moved
  tops := fun itemId member steps top climbs => by
    obtain ⟨others, top', before⟩ := unites.represents.grounded itemId
    obtain ⟨_, -, linked⟩ :=
      Forest.climbs_link childRoot isRoot different before
    rw [(climbs.unique linked).2]
    split_ifs
    · exact inside'
    · exact unites.tops itemId member others top' before
  represents := unites.represents.link childRoot isRoot different ends

theorem Unites.unite (unites : Unites ids parent related)
    (enough : ids.length ≤ fuel) {left right : String}
    (inside : left ∈ ids) (inside' : right ∈ ids) :
    ∃ after, Splits.unite fuel parent left right = some after ∧
      Unites ids after fun first second => related first second ∨
        (first = left ∧ second = right) := by
  obtain ⟨middle, leftRoot, steps, found, unites₁, flat₁, climbs₁⟩ :=
    unites.findRoot enough left
  obtain ⟨last, rightRoot, steps', found', unites₂, flat₂, climbs₂⟩ :=
    unites₁.findRoot enough right
  obtain ⟨_, -, left₁⟩ := flat₁ _ _ _ climbs₁
  obtain ⟨leftSteps, -, left₂⟩ := flat₂ _ _ _ left₁
  obtain ⟨rightSteps, -, right₂⟩ := flat₂ _ _ _ climbs₂
  have leftTop : Forest.Climbs last leftRoot 0 leftRoot := .root left₂.isRoot
  have rightTop : Forest.Climbs last rightRoot 0 rightRoot :=
    .root right₂.isRoot
  have computed : Splits.unite fuel parent left right =
      some (if leftRoot = rightRoot then last
        else Function.update last (max leftRoot rightRoot)
          (min leftRoot rightRoot)) := by
    unfold Splits.unite
    rw [found]
    dsimp only [bind, Option.bind]
    rw [found']
    dsimp only
    split_ifs <;> rfl
  refine ⟨_, computed, ?_⟩
  split_ifs with same
  · subst same
    refine ⟨unites₂.inner, unites₂.tops,
      unites₂.represents.insert_joined ?_⟩
    exact (Forest.joined_iff left₂ right₂).mpr rfl
  · have leftInside := unites₂.tops left inside _ _ left₂
    have rightInside := unites₂.tops right inside' _ _ right₂
    have leftJoined : Forest.Joined last left leftRoot :=
      ⟨leftRoot, _, _, left₂, leftTop⟩
    have rightJoined : Forest.Joined last right rightRoot :=
      ⟨rightRoot, _, _, right₂, rightTop⟩
    rcases le_total leftRoot rightRoot with order | order
    · rw [max_eq_right order, min_eq_left order]
      exact unites₂.link rightInside leftInside right₂.isRoot left₂.isRoot
        same (.inl ⟨leftJoined, rightJoined⟩)
    · rw [max_eq_left order, min_eq_right order]
      exact unites₂.link leftInside rightInside left₂.isRoot right₂.isRoot
        (Ne.symm same) (.inr ⟨leftJoined, rightJoined⟩)

/-! ## Uniting what shares a token -/

/-- The first id of each token, and the united pairs, for the occurrences of
tokens so far. -/
structure Indexed (ids : List String)
    (occurrences : List (LeakageToken × String))
    (state : Indexes × (String → String)) : Prop where
  first : ∀ token itemId, state.1.get? token = some itemId →
    (token, itemId) ∈ occurrences
  known : ∀ token itemId, (token, itemId) ∈ occurrences →
    ∃ first, state.1.get? token = some first
  within : ∀ occurrence ∈ occurrences, occurrence.2 ∈ ids
  unites : Unites ids state.2 fun left right =>
    ∃ token, state.1.get? token = some left ∧ (token, right) ∈ occurrences

theorem Unites.congr {related' : String → String → Prop}
    (unites : Unites ids parent related)
    (same : ∀ left right, related left right ↔ related' left right) :
    Unites ids parent related' := by
  have equal : related = related' := by
    funext left right
    exact propext (same left right)
  exact equal ▸ unites

/-- One more occurrence. -/
private theorem Indexed.step {occurrences : List (LeakageToken × String)}
    {state : Indexes × (String → String)} {itemId : String}
    (indexed : Indexed ids occurrences state) (token : LeakageToken)
    (enough : ids.length ≤ fuel) (inside : itemId ∈ ids)
    (rest : List LeakageToken) :
    ∃ after, indexTokens fuel itemId (token :: rest) state =
        indexTokens fuel itemId rest after ∧
      Indexed ids (occurrences ++ [(token, itemId)]) after := by
  obtain ⟨indexes, parent⟩ := state
  have within : ∀ occurrence ∈ occurrences ++ [(token, itemId)],
      occurrence.2 ∈ ids := by
    intro occurrence member
    rcases List.mem_append.mp member with member | member
    · exact indexed.within occurrence member
    · exact List.mem_singleton.mp member ▸ inside
  cases found : indexes.get? token with
  | some previous =>
      obtain ⟨after, united, unites⟩ := indexed.unites.unite enough
        (indexed.within _ (indexed.first token previous found)) inside
      refine ⟨(indexes, after), ?_, ?_, ?_, within, ?_⟩
      · rw [indexTokens, found]
        dsimp only
        rw [united]
        rfl
      · intro other first same
        exact List.mem_append_left _ (indexed.first other first same)
      · intro other first member
        rcases List.mem_append.mp member with member | member
        · exact indexed.known other first member
        · obtain ⟨rfl, -⟩ := Prod.mk.inj (List.mem_singleton.mp member)
          exact ⟨previous, found⟩
      · refine unites.congr fun left right => ?_
        constructor
        · rintro (⟨other, same, member⟩ | ⟨rfl, rfl⟩)
          · exact ⟨other, same, List.mem_append_left _ member⟩
          · exact ⟨token, found, by simp⟩
        · rintro ⟨other, same, member⟩
          rcases List.mem_append.mp member with member | member
          · exact .inl ⟨other, same, member⟩
          · obtain ⟨rfl, rfl⟩ := Prod.mk.inj (List.mem_singleton.mp member)
            exact .inr ⟨Option.some.inj (same.symm.trans found), rfl⟩
  | none =>
      obtain ⟨after, united, unites⟩ :=
        indexed.unites.unite enough inside inside
      have fresh : ∀ itemId, (token, itemId) ∉ occurrences := by
        intro itemId member
        obtain ⟨first, same⟩ := indexed.known token itemId member
        cases same.symm.trans found
      refine ⟨(indexes.set token itemId, after), ?_, ?_, ?_, within, ?_⟩
      · rw [indexTokens, found]
        dsimp only
        rw [united]
        rfl
      · intro other first same
        rw [Dict.get?_set] at same
        split_ifs at same with equal
        · obtain rfl := Option.some.inj same
          simp [equal]
        · exact List.mem_append_left _ (indexed.first other first same)
      · intro other first member
        rw [Dict.get?_set]
        split_ifs with equal
        · exact ⟨itemId, rfl⟩
        · rcases List.mem_append.mp member with member | member
          · exact indexed.known other first member
          · obtain ⟨rfl, -⟩ := Prod.mk.inj (List.mem_singleton.mp member)
            exact absurd rfl equal
      · refine unites.congr fun left right => ?_
        constructor
        · rintro (⟨other, same, member⟩ | ⟨rfl, rfl⟩)
          · have different : token ≠ other := by
              rintro rfl
              exact fresh right member
            exact ⟨other, by rwa [Dict.get?_set_of_ne _ _ different],
              List.mem_append_left _ member⟩
          · exact ⟨token, Dict.get?_set_self _ _ _, by simp⟩
        · rintro ⟨other, same, member⟩
          rw [Dict.get?_set] at same
          split_ifs at same with equal
          · subst equal
            obtain rfl := Option.some.inj same
            rcases List.mem_append.mp member with member | member
            · exact absurd member (fresh right)
            · obtain ⟨-, rfl⟩ := Prod.mk.inj (List.mem_singleton.mp member)
              exact .inr ⟨rfl, rfl⟩
          · rcases List.mem_append.mp member with member | member
            · exact .inl ⟨other, same, member⟩
            · obtain ⟨rfl, -⟩ := Prod.mk.inj (List.mem_singleton.mp member)
              exact absurd rfl equal

private theorem Indexed.tokens {occurrences : List (LeakageToken × String)}
    {state : Indexes × (String → String)} {itemId : String}
    (indexed : Indexed ids occurrences state) (enough : ids.length ≤ fuel)
    (inside : itemId ∈ ids) (tokens : List LeakageToken) :
    ∃ after, indexTokens fuel itemId tokens state = some after ∧
      Indexed ids (occurrences ++ tokens.map (·, itemId)) after := by
  induction tokens generalizing occurrences state with
  | nil => exact ⟨state, rfl, by simpa using indexed⟩
  | cons token rest induction =>
      obtain ⟨middle, stepped, indexed⟩ :=
        indexed.step token enough inside rest
      obtain ⟨after, done, indexed⟩ := induction indexed
      refine ⟨after, stepped.trans done, ?_⟩
      rwa [List.append_assoc] at indexed

/-- The tokens of items, each with the id of its item. -/
def occurrencesOf (items : List BenchmarkItem) :
    List (LeakageToken × String) :=
  items.flatMap fun item => item.tokens.map (·, item.itemId)

private theorem Indexed.items {occurrences : List (LeakageToken × String)}
    {state : Indexes × (String → String)} {items : List BenchmarkItem}
    (indexed : Indexed ids occurrences state) (enough : ids.length ≤ fuel)
    (inside : ∀ item ∈ items, item.itemId ∈ ids) :
    ∃ after, indexItems fuel items state = some after ∧
      Indexed ids (occurrences ++ occurrencesOf items) after := by
  induction items generalizing occurrences state with
  | nil => exact ⟨state, rfl, by simpa [occurrencesOf] using indexed⟩
  | cons item rest induction =>
      obtain ⟨here, later⟩ := List.forall_mem_cons.mp inside
      obtain ⟨middle, stepped, indexed⟩ :=
        indexed.tokens enough here item.tokens
      obtain ⟨after, done, indexed⟩ := induction indexed later
      refine ⟨after, ?_, ?_⟩
      · rw [indexItems, stepped]
        exact done
      · rwa [List.append_assoc] at indexed

theorem mem_occurrencesOf {items : List BenchmarkItem} {token : LeakageToken}
    {itemId : String} : (token, itemId) ∈ occurrencesOf items ↔
      ∃ item ∈ items, token ∈ item.tokens ∧ item.itemId = itemId := by
  simp [occurrencesOf]

/-- What is united is what is connected. -/
theorem indexItems_unites {items ordered : List BenchmarkItem}
    (sorted : ordered.Perm items) (enough : items.length ≤ fuel) :
    ∃ indexes parent,
      indexItems fuel ordered (.empty, id) = some (indexes, parent) ∧
      Unites (items.map (·.itemId)) parent (SharesById items) := by
  have start : Indexed (items.map (·.itemId)) [] (.empty, id) :=
    { first := fun _ _ same => by cases same
      known := fun _ _ member => by cases member
      within := List.forall_mem_nil _
      unites := (unites_id _).congr fun left right => by simp }
  have inside : ∀ item ∈ ordered, item.itemId ∈ items.map (·.itemId) :=
    fun item member => List.mem_map_of_mem (sorted.mem_iff.mp member)
  have bound : (items.map (·.itemId)).length ≤ fuel := by
    rwa [List.length_map]
  obtain ⟨⟨indexes, parent⟩, computed, indexed⟩ := start.items bound inside
  rw [List.nil_append] at indexed
  refine ⟨indexes, parent, computed, indexed.unites.inner,
    indexed.unites.tops, indexed.unites.represents.grounded,
    fun left right => ?_⟩
  have occurs : ∀ {token itemId}, (token, itemId) ∈ occurrencesOf ordered ↔
      ∃ item ∈ items, token ∈ item.tokens ∧ item.itemId = itemId := by
    intro token itemId
    rw [mem_occurrencesOf]
    exact exists_congr fun item => and_congr_left' sorted.mem_iff
  rw [indexed.unites.represents.joined_iff]
  constructor
  · refine EqvGen.mono ?_ _ _
    rintro first second ⟨token, same, member⟩
    obtain ⟨item, listed, has, rfl⟩ :=
      occurs.mp (indexed.first token first same)
    obtain ⟨other, listed', has', rfl⟩ := occurs.mp member
    exact ⟨item, listed, other, listed', rfl, rfl,
      BenchmarkItem.shares_iff.mpr ⟨token, has, has'⟩⟩
  · intro connected
    refine (EqvGen.is_equivalence _).eqvGen_iff.mp
      (EqvGen.mono ?_ _ _ connected)
    rintro first second ⟨item, listed, other, listed', rfl, rfl, shares⟩
    obtain ⟨token, has, has'⟩ := BenchmarkItem.shares_iff.mp shares
    have here := occurs.mpr ⟨item, listed, has, rfl⟩
    have there := occurs.mpr ⟨other, listed', has', rfl⟩
    obtain ⟨earliest, same⟩ := indexed.known token _ here
    exact .trans _ _ _ (.symm _ _ (.rel _ _ ⟨token, same, here⟩))
      (.rel _ _ ⟨token, same, there⟩)

/-! ## Groups -/

/-- The groups are the classes of the connected ids. -/
structure Components (items : List BenchmarkItem)
    (groups : List (List String)) : Prop where
  perm : groups.flatten.Perm (items.map (·.itemId))
  nonempty : ∀ group ∈ groups, group ≠ []
  connected : ∀ group ∈ groups, ∀ first ∈ group, ∀ second ∈ group,
    Connected items first second
  whole : ∀ group ∈ groups, ∀ first ∈ group,
    ∀ second ∈ items.map (·.itemId), Connected items first second →
      second ∈ group

theorem Components.reorder {items : List BenchmarkItem}
    {groups others : List (List String)} (components : Components items groups)
    (permuted : others.Perm groups) : Components items others where
  perm := permuted.flatten.trans components.perm
  nonempty := fun group member =>
    components.nonempty group (permuted.mem_iff.mp member)
  connected := fun group member =>
    components.connected group (permuted.mem_iff.mp member)
  whole := fun group member =>
    components.whole group (permuted.mem_iff.mp member)

private theorem collect_eq {root : String → String}
    (enough : ids.length ≤ fuel) (unites : Unites ids parent related)
    (rooted : ∀ itemId, ∃ steps,
      Forest.Climbs parent itemId steps (root itemId))
    (components : Dict String (List String)) (rest : List String) :
    collect fuel rest components parent =
      some (groupInto root components rest) := by
  induction rest generalizing components parent with
  | nil => rfl
  | cons itemId rest induction =>
      obtain ⟨after, top, steps, found, unites', flat, climbs⟩ :=
        unites.findRoot enough itemId
      obtain ⟨others, climbs'⟩ := rooted itemId
      obtain rfl := (climbs.unique climbs').2
      rw [collect, found]
      refine induction unites' (fun other => ?_) _
      obtain ⟨steps, above⟩ := rooted other
      obtain ⟨fewer, -, above⟩ := flat _ _ _ above
      exact ⟨fewer, above⟩

/-- The groups are the classes of the closure of sharing. -/
theorem collect_components {items : List BenchmarkItem} {listed : List String}
    (unites : Unites (items.map (·.itemId)) parent (SharesById items))
    (enough : items.length ≤ fuel)
    (permuted : listed.Perm (items.map (·.itemId))) :
    ∃ components, collect fuel listed .empty parent = some components ∧
      Components items components.values := by
  choose steps root climbs using unites.represents.grounded
  have bound : (items.map (·.itemId)).length ≤ fuel := by
    rwa [List.length_map]
  refine ⟨_, collect_eq bound unites (fun itemId =>
    ⟨steps itemId, climbs itemId⟩) _ _, ?_⟩
  rw [values_groupInto]
  have same : ∀ first second, root first = root second ↔
      Connected items first second := by
    intro first second
    exact (Forest.joined_iff (climbs first) (climbs second)).symm.trans
      (unites.represents.joined_iff first second)
  have keys : ∀ key, key ∈ (groupInto root .empty listed).keys ↔
      ∃ itemId ∈ listed, root itemId = key := by
    intro key
    rw [mem_keys_groupInto]
    exact or_iff_right nofun
  refine ⟨?_, ?_, ?_, ?_⟩
  · rw [← List.flatMap_def]
    refine (flatMap_filter_perm root (groupInto root .empty listed).nodup
      fun itemId member => ?_).trans permuted
    exact (keys _).mpr ⟨itemId, member, rfl⟩
  · intro group member empty
    obtain ⟨key, listedKey, rfl⟩ := List.mem_map.mp member
    obtain ⟨itemId, inside, found⟩ := (keys key).mp listedKey
    exact List.filter_eq_nil_iff.mp empty itemId inside (by simpa using found)
  · intro group member first inside second inside'
    obtain ⟨key, -, rfl⟩ := List.mem_map.mp member
    have atFirst : root first = key := by
      simpa using (List.mem_filter.mp inside).2
    have atSecond : root second = key := by
      simpa using (List.mem_filter.mp inside').2
    exact (same first second).mp (atFirst.trans atSecond.symm)
  · intro group member first inside second inside' connected
    obtain ⟨key, -, rfl⟩ := List.mem_map.mp member
    have atFirst : root first = key := by
      simpa using (List.mem_filter.mp inside).2
    refine List.mem_filter.mpr ⟨permuted.mem_iff.mpr inside', ?_⟩
    simpa using ((same first second).mpr connected).symm.trans atFirst

/-- Three items, no two of them connected. -/
def ThreeComponents (items : List BenchmarkItem) : Prop :=
  ∃ first ∈ items, ∃ second ∈ items, ∃ third ∈ items,
    ¬Connected items first.itemId second.itemId ∧
    ¬Connected items first.itemId third.itemId ∧
    ¬Connected items second.itemId third.itemId

open Classical in
/-- The number of items connected with an item. -/
noncomputable def componentSize (items : List BenchmarkItem)
    (item : BenchmarkItem) : ℕ :=
  items.countP fun other => Connected items item.itemId other.itemId

noncomputable def largestComponent (items : List BenchmarkItem) : ℕ :=
  (items.map (componentSize items)).foldr max 0

private theorem le_foldr_max {sizes : List ℕ} {size : ℕ}
    (member : size ∈ sizes) : size ≤ sizes.foldr max 0 := by
  induction sizes with
  | nil => cases member
  | cons first rest induction =>
      rw [List.foldr_cons]
      rcases List.mem_cons.mp member with rfl | later
      · exact le_max_left _ _
      · exact (induction later).trans (le_max_right _ _)

section Sizes

variable {items : List BenchmarkItem} {groups : List (List String)}

theorem Components.nodup (components : Components items groups)
    (unique : (items.map (·.itemId)).Nodup) : groups.flatten.Nodup :=
  components.perm.nodup_iff.mpr unique

theorem Components.group_le (components : Components items groups)
    (unique : (items.map (·.itemId)).Nodup) :
    ∀ group ∈ groups, group.length ≤ largestComponent items := by
  classical
  intro group member
  obtain ⟨first, inside⟩ :=
    List.exists_mem_of_ne_nil _ (components.nonempty group member)
  have listed : first ∈ items.map (·.itemId) :=
    components.perm.mem_iff.mp (List.mem_flatten.mpr ⟨group, member, inside⟩)
  obtain ⟨item, listedItem, rfl⟩ := List.mem_map.mp listed
  refine le_trans ?_ (le_foldr_max (List.mem_map_of_mem listedItem))
  have groupNodup : group.Nodup :=
    (List.nodup_flatten.mp (components.nodup unique)).1 group member
  have size : componentSize items item = ((items.map (·.itemId)).filter
      fun other => Connected items item.itemId other).length := by
    rw [componentSize, List.filter_map, List.length_map,
      List.countP_eq_length_filter]
    rfl
  rw [size]
  refine (groupNodup.subperm fun second inside' => ?_).length_le
  refine List.mem_filter.mpr ⟨?_, ?_⟩
  · exact components.perm.mem_iff.mp
      (List.mem_flatten.mpr ⟨group, member, inside'⟩)
  · simpa using components.connected group member _ inside second inside'

theorem Components.three_iff (components : Components items groups)
    (unique : (items.map (·.itemId)).Nodup) :
    3 ≤ groups.length ↔ ThreeComponents items := by
  have disjoint := (List.nodup_flatten.mp (components.nodup unique)).2
  constructor
  · intro three
    match groups, three with
    | one :: two :: three :: rest, _ =>
      obtain ⟨oneApart, later⟩ := List.pairwise_cons.mp disjoint
      obtain ⟨twoApart, -⟩ := List.pairwise_cons.mp later
      have picks : ∀ group ∈ one :: two :: three :: rest,
          ∃ item ∈ items, item.itemId ∈ group := by
        intro group member
        obtain ⟨itemId, inside⟩ :=
          List.exists_mem_of_ne_nil _ (components.nonempty group member)
        obtain ⟨item, listed, rfl⟩ := List.mem_map.mp
          (components.perm.mem_iff.mp
            (List.mem_flatten.mpr ⟨group, member, inside⟩))
        exact ⟨item, listed, inside⟩
      have separate : ∀ group ∈ one :: two :: three :: rest,
          ∀ {left right : BenchmarkItem} {other : List String},
            left.itemId ∈ group → right ∈ items → right.itemId ∈ other →
            List.Disjoint group other →
            ¬Connected items left.itemId right.itemId := by
        intro group member left right other inside listed inside' apart linked
        exact apart (components.whole group member _ inside _
          (List.mem_map_of_mem listed) linked) inside'
      obtain ⟨first, listed, inside⟩ := picks one (by simp)
      obtain ⟨second, listed', inside'⟩ := picks two (by simp)
      obtain ⟨third, listed'', inside''⟩ := picks three (by simp)
      exact ⟨first, listed, second, listed', third, listed'',
        separate one (by simp) inside listed' inside'
          (oneApart two (by simp)),
        separate one (by simp) inside listed'' inside''
          (oneApart three (by simp)),
        separate two (by simp) inside' listed'' inside''
          (twoApart three (by simp))⟩
  · rintro ⟨first, listed, second, listed', third, listed'', apart, apart',
      apart''⟩
    have placed : ∀ item ∈ items, ∃ group ∈ groups, item.itemId ∈ group :=
      fun item member => List.mem_flatten.mp
        (components.perm.mem_iff.mpr (List.mem_map_of_mem member))
    obtain ⟨one, member, inside⟩ := placed first listed
    obtain ⟨two, member', inside'⟩ := placed second listed'
    obtain ⟨three, member'', inside''⟩ := placed third listed''
    have distinct : [one, two, three].Nodup := by
      have linked := components.connected
      simp only [List.nodup_cons, List.mem_cons, List.not_mem_nil, or_false,
        not_or, not_false_eq_true, List.nodup_nil, and_true]
      refine ⟨⟨?_, ?_⟩, ?_⟩
      · rintro rfl
        exact apart (linked one member _ inside _ inside')
      · rintro rfl
        exact apart' (linked one member _ inside _ inside'')
      · rintro rfl
        exact apart'' (linked two member' _ inside' _ inside'')
    exact (distinct.subperm (by
      intro group among
      simp only [List.mem_cons, List.not_mem_nil, or_false] at among
      rcases among with rfl | rfl | rfl
      · exact member
      · exact member'
      · exact member'')).length_le

end Sizes

end Splits

end RagBench
