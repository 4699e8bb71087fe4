import RagBench.Benchmark.Validation
import RagBench.UnionFind

/-!
# Duplicate groups

Two candidates are in one group when a chain of similar questions leads from
one to the other.  The identifiers of all but the first of each group are
rejected.
-/

namespace RagBench

open Relation (EqvGen)

/-! ## Lists of parents -/

/-- A list of parents; what lies outside is its own parent. -/
def parentOf (parents : List ℕ) (index : ℕ) : ℕ :=
  parents.getD index index

/-- All parents are in the list. -/
def ParentsWithin (parents : List ℕ) : Prop :=
  ∀ index < parents.length, parentOf parents index < parents.length

private theorem parentOf_set {parents : List ℕ} {index : ℕ}
    (inside : index < parents.length) (above : ℕ) :
    parentOf (parents.set index above) =
      Function.update (parentOf parents) index above := by
  funext other
  unfold parentOf
  by_cases same : other = index
  · subst same
    simp [List.getD_eq_getElem?_getD, inside]
  · rw [Function.update_of_ne same]
    simp [List.getD_eq_getElem?_getD, Ne.symm same]

private theorem within_set {parents : List ℕ} {index above : ℕ}
    (within : ParentsWithin parents) (inside : index < parents.length)
    (bounded : above < parents.length) :
    ParentsWithin (parents.set index above) := by
  intro other small
  rw [List.length_set] at small ⊢
  rw [parentOf_set inside]
  by_cases same : other = index
  · subst same
    rwa [Function.update_self]
  · rw [Function.update_of_ne same]
    exact within other small

/-- The lookup on lists is the lookup on forests. -/
private theorem findRoot_eq (fuel : ℕ) {parents : List ℕ} {index : ℕ}
    (within : ParentsWithin parents) (inside : index < parents.length) :
    let found := findRoot fuel parents index
    (parentOf found.1, found.2) = Forest.find fuel (parentOf parents) index ∧
      found.1.length = parents.length ∧ ParentsWithin found.1 ∧
      found.2 < parents.length := by
  induction fuel generalizing parents index with
  | zero => exact ⟨rfl, rfl, within, inside⟩
  | succ fuel induction =>
      unfold findRoot Forest.find
      by_cases isRoot : parentOf parents index = index
      · rw [if_pos isRoot, if_pos (show parents.getD index index = index
          from isRoot)]
        exact ⟨rfl, rfl, within, inside⟩
      · have nearer := within _ (within index inside)
        obtain ⟨same, length, still, bounded⟩ := induction
          (within_set within inside nearer) (by rwa [List.length_set])
        rw [List.length_set] at length bounded
        rw [parentOf_set inside] at same
        rw [if_neg isRoot, if_neg (show ¬parents.getD index index = index
          from isRoot)]
        exact ⟨same, length, still, bounded⟩

/-- What a list of parents is worth. -/
structure ListForest (parents : List ℕ) (related : ℕ → ℕ → Prop) : Prop where
  within : ParentsWithin parents
  represents : Forest.Represents (parentOf parents) related

namespace ListForest

variable {parents : List ℕ} {related : ℕ → ℕ → Prop}

theorem congr {related' : ℕ → ℕ → Prop} (forest : ListForest parents related)
    (same : ∀ left right, related left right ↔ related' left right) :
    ListForest parents related' := by
  have equal : related = related' := by
    funext left right
    exact propext (same left right)
  exact equal ▸ forest

/-- The lookup with the fuel of the program. -/
theorem findRoot_spec (forest : ListForest parents related) {index : ℕ}
    (inside : index < parents.length) :
    let found := findRoot parents.length parents index
    ListForest found.1 related ∧ found.1.length = parents.length ∧
      found.2 < parents.length ∧
      Forest.Flattens (parentOf parents) (parentOf found.1) ∧
      ∃ steps, Forest.Climbs (parentOf parents) index steps found.2 := by
  intro found
  obtain ⟨same, length, within, bounded⟩ :=
    findRoot_eq parents.length forest.within inside
  obtain ⟨steps, top, climbs⟩ := forest.represents.grounded index
  have enough : steps ≤ parents.length := by
    rw [← Finset.card_range parents.length]
    refine climbs.steps_le_card fun other below => ?_
    by_contra outside
    rw [Finset.mem_range, not_lt] at outside
    refine below ?_
    simp [parentOf, List.getD_eq_getElem?_getD, outside]
  obtain ⟨top', flat⟩ :=
    Forest.find_spec forest.represents.grounded climbs enough
  rw [← same] at top' flat
  exact ⟨⟨within, forest.represents.flattens flat⟩, length, bounded, flat,
    steps, top'.symm ▸ climbs⟩

theorem unite (forest : ListForest parents related) {left right : ℕ}
    (inside : left < parents.length) (inside' : right < parents.length) :
    ListForest (RagBench.unite parents left right)
        (fun first second => related first second ∨
          (first = left ∧ second = right)) ∧
      (RagBench.unite parents left right).length = parents.length := by
  obtain ⟨forest₁, length₁, bounded₁, flat₁, steps₁, climbs₁⟩ :=
    forest.findRoot_spec inside
  obtain ⟨forest₂, length₂, bounded₂, flat₂, steps₂, climbs₂⟩ :=
    forest₁.findRoot_spec (length₁.symm ▸ inside')
  unfold RagBench.unite
  generalize findRoot parents.length parents left = first at *
  obtain ⟨middle, leftRoot⟩ := first
  dsimp only at *
  generalize findRoot middle.length middle right = second at *
  obtain ⟨last, rightRoot⟩ := second
  dsimp only at *
  obtain ⟨_, -, left₁⟩ := flat₁ _ _ _ climbs₁
  obtain ⟨leftSteps, -, left₂⟩ := flat₂ _ _ _ left₁
  obtain ⟨rightSteps, -, right₂⟩ := flat₂ _ _ _ climbs₂
  have leftTop : Forest.Climbs (parentOf last) leftRoot 0 leftRoot :=
    .root left₂.isRoot
  have rightTop : Forest.Climbs (parentOf last) rightRoot 0 rightRoot :=
    .root right₂.isRoot
  by_cases same : leftRoot = rightRoot
  · subst same
    rw [if_neg (not_not.mpr rfl)]
    have joined := (Forest.joined_iff left₂ right₂).mpr rfl
    exact ⟨⟨forest₂.within, forest₂.represents.insert_joined joined⟩,
      length₂.trans length₁⟩
  · rw [if_pos same]
    have small : rightRoot < last.length := by omega
    refine ⟨⟨within_set forest₂.within small (by omega), ?_⟩, ?_⟩
    · rw [parentOf_set small]
      refine forest₂.represents.link right₂.isRoot left₂.isRoot same
        (.inl ⟨?_, ?_⟩)
      · exact (Forest.joined_iff left₂ leftTop).mpr rfl
      · exact (Forest.joined_iff right₂ rightTop).mpr rfl
    · rw [List.length_set, length₂, length₁]

/-- The found roots tell the classes apart. -/
theorem findRoot_eq_iff (forest : ListForest parents related) {left right : ℕ}
    (inside : left < parents.length) (inside' : right < parents.length) :
    (findRoot parents.length parents left).2 =
        (findRoot parents.length parents right).2 ↔
      EqvGen related left right := by
  obtain ⟨-, -, -, -, steps, climbs⟩ := forest.findRoot_spec inside
  obtain ⟨-, -, -, -, others, climbs'⟩ := forest.findRoot_spec inside'
  rw [← forest.represents.joined_iff, Forest.joined_iff climbs climbs']

theorem range (count : ℕ) : ListForest (List.range count) fun _ _ => False := by
  have alone : parentOf (List.range count) = id := by
    funext index
    unfold parentOf
    by_cases inside : index < count
    · simp [List.getD_eq_getElem?_getD, inside]
    · simp [List.getD_eq_getElem?_getD, inside]
  refine ⟨fun index inside => ?_, ?_⟩
  · rw [alone]
    exact inside
  · rw [alone]
    exact Forest.represents_id

end ListForest

/-! ## Similar questions -/

section Groups

variable (platform : Platform) (threshold : ℚ)

/-- The later question is similar to the earlier one. -/
def Resembles (questions : List String) (earlier later : ℕ) : Prop :=
  earlier < later ∧ later < questions.length ∧
    threshold ≤ platform.similarity
      (questionFingerprint platform (questions.getD earlier ""))
      (questionFingerprint platform (questions.getD later ""))

/-- A chain of similar questions. -/
def Linked (questions : List String) : ℕ → ℕ → Prop :=
  EqvGen (Resembles platform threshold questions)

/-- A chain leads to an earlier question. -/
def Repeats (questions : List String) (index : ℕ) : Prop :=
  index < questions.length ∧
    ∃ earlier < index, Linked platform threshold questions earlier index

variable {platform threshold}

private theorem mem_pairs {count : ℕ} {pair : ℕ × ℕ} :
    pair ∈ ((List.range count).flatMap fun left =>
      ((List.range count).filter fun right => left < right).map fun right =>
        (left, right)) ↔ pair.1 < pair.2 ∧ pair.2 < count := by
  obtain ⟨left, right⟩ := pair
  simp only [List.mem_flatMap, List.mem_map, List.mem_filter, List.mem_range,
    decide_eq_true_eq, Prod.mk.injEq]
  constructor
  · rintro ⟨_, _, _, ⟨small, before⟩, rfl, rfl⟩
    exact ⟨before, small⟩
  · rintro ⟨before, small⟩
    exact ⟨left, by omega, right, ⟨small, before⟩, rfl, rfl⟩

/-- The loop over the pairs represents the similarity. -/
theorem duplicateParents_spec (fingerprints : List String) :
    ListForest (duplicateParents platform fingerprints threshold)
        (fun left right => (left < right ∧ right < fingerprints.length) ∧
          threshold ≤ platform.similarity (fingerprints.getD left "")
            (fingerprints.getD right "")) ∧
      (duplicateParents platform fingerprints threshold).length =
        fingerprints.length := by
  let similar := fun left right =>
    threshold ≤ platform.similarity (fingerprints.getD left "")
      (fingerprints.getD right "")
  -- One pair after the other.
  have loop : ∀ (pairs : List (ℕ × ℕ)) (parents : List ℕ)
      (related : ℕ → ℕ → Prop), ListForest parents related →
      parents.length = fingerprints.length →
      (∀ pair ∈ pairs, pair.1 < pair.2 ∧ pair.2 < fingerprints.length) →
      let last := pairs.foldl (fun parent pair =>
        if threshold ≤ platform.similarity (fingerprints.getD pair.1 "")
            (fingerprints.getD pair.2 "") then
          unite parent pair.1 pair.2
        else parent) parents
      ListForest last (fun left right => related left right ∨
          ((left, right) ∈ pairs ∧ similar left right)) ∧
        last.length = fingerprints.length := by
    intro pairs
    induction pairs with
    | nil =>
        intro parents related forest length _
        simpa using ⟨forest, length⟩
    | cons pair pairs induction =>
        intro parents related forest length inside
        obtain ⟨⟨before, small⟩, inside⟩ := List.forall_mem_cons.mp inside
        rw [List.foldl_cons]
        by_cases alike : similar pair.1 pair.2
        · rw [if_pos alike]
          have small' : pair.2 < parents.length := length.symm ▸ small
          obtain ⟨united, same⟩ := forest.unite (before.trans small') small'
          obtain ⟨forest, length⟩ :=
            induction _ _ united (same.trans length) inside
          refine ⟨forest.congr fun left right => ?_, length⟩
          simp only [List.mem_cons, Prod.ext_iff]
          grind
        · rw [if_neg alike]
          obtain ⟨forest, length⟩ := induction _ _ forest length inside
          refine ⟨forest.congr fun left right => ?_, length⟩
          simp only [List.mem_cons, Prod.ext_iff]
          grind
  obtain ⟨forest, length⟩ := loop _ _ _ (ListForest.range fingerprints.length)
    List.length_range fun pair member => mem_pairs.mp member
  refine ⟨forest.congr fun left right => ?_, length⟩
  rw [false_or, mem_pairs]

private theorem mem_tail_iff {items : List ℕ}
    (ascending : items.Pairwise (· < ·)) {item : ℕ} :
    item ∈ items.tail ↔ item ∈ items ∧ ∃ other ∈ items, other < item := by
  cases items with
  | nil => simp
  | cons first rest =>
      obtain ⟨above, -⟩ := List.pairwise_cons.mp ascending
      rw [List.tail_cons]
      constructor
      · intro member
        exact ⟨List.mem_cons_of_mem _ member, first, List.mem_cons_self,
          above item member⟩
      · rintro ⟨member, other, member', smaller⟩
        rcases List.mem_cons.mp member with rfl | member
        · rcases List.mem_cons.mp member' with rfl | member'
          · exact absurd smaller (lt_irrefl _)
          · exact absurd (above other member') smaller.asymm
        · exact member

/-- The candidates of one class, by their positions. -/
private theorem mem_duplicateGroups {candidates : List QuestionCandidate}
    {group : List String} :
    group ∈ (duplicateGroups platform candidates threshold).1 ↔
      1 < group.length ∧ ∃ root < candidates.length,
        ∃ members : List ℕ, members.Pairwise (· < ·) ∧
          (∀ index, index ∈ members ↔ index < candidates.length ∧
            Linked platform threshold (candidates.map (·.question)) root
              index) ∧
          group = members.map fun index =>
            (candidates.map (·.candidateId)).getD index "" := by
  obtain ⟨forest, length⟩ := @duplicateParents_spec platform threshold
    (candidates.map fun candidate =>
      questionFingerprint platform candidate.question)
  rw [List.length_map] at length
  have related : ListForest _ (Resembles platform threshold
      (candidates.map (·.question))) := forest.congr fun left right => by
    unfold Resembles
    rw [List.length_map, List.length_map, and_assoc]
    refine and_congr_right fun before => and_congr_right fun small => ?_
    have small' : left < candidates.length := before.trans small
    simp [List.getD_eq_getElem?_getD, small, small']
  unfold duplicateGroups
  dsimp only
  generalize duplicateParents platform (candidates.map fun candidate =>
    questionFingerprint platform candidate.question) threshold = parents at *
  have rootAt : ∀ index < candidates.length,
      ((List.range candidates.length).map fun index =>
        (findRoot parents.length parents index).2).getD index index =
          (findRoot parents.length parents index).2 := by
    intro index small
    simp [List.getD_eq_getElem?_getD, small]
  let classOf := fun top => (List.range candidates.length).filter fun index =>
    ((List.range candidates.length).map fun index =>
      (findRoot parents.length parents index).2).getD index index = top
  have members : ∀ top index, index ∈ classOf top ↔
      index < candidates.length ∧
        (findRoot parents.length parents index).2 = top := by
    intro top index
    rw [List.mem_filter, List.mem_range, decide_eq_true_eq]
    exact and_congr_right fun small => by rw [rootAt index small]
  have linked : ∀ root < candidates.length, ∀ index,
      index ∈ classOf (findRoot parents.length parents root).2 ↔
        index < candidates.length ∧
          Linked platform threshold (candidates.map (·.question)) root
            index := by
    intro root inside index
    rw [members, eq_comm]
    exact and_congr_right fun small => related.findRoot_eq_iff
      (by omega) (by omega)
  have sorted : ∀ top, (classOf top).Pairwise (· < ·) := fun top =>
    List.pairwise_lt_range.filter _
  rw [List.mem_filter, decide_eq_true_eq, List.mem_map, and_comm]
  refine and_congr_right fun long => ?_
  constructor
  · rintro ⟨top, -, rfl⟩
    rw [List.length_map] at long
    obtain ⟨root, member⟩ : ∃ root, root ∈ classOf top :=
      List.exists_mem_of_length_pos (zero_lt_one.trans long)
    obtain ⟨inside, rfl⟩ := (members top root).mp member
    exact ⟨root, inside, classOf _, sorted _, linked root inside, rfl⟩
  · rintro ⟨root, inside, chosen, ascending, chosen_iff, rfl⟩
    obtain ⟨-, -, bounded, -⟩ := related.findRoot_spec
      (show root < parents.length by omega)
    have same : classOf (findRoot parents.length parents root).2 = chosen := by
      refine List.Perm.eq_of_pairwise (fun _ _ _ _ below above =>
        absurd below above.asymm) (sorted _) ascending ?_
      rw [List.perm_ext_iff_of_nodup]
      · intro index
        rw [linked root inside, chosen_iff]
      · exact (sorted _).imp fun below => below.ne
      · exact ascending.imp fun below => below.ne
    refine ⟨(findRoot parents.length parents root).2,
      List.mem_range.mpr (bounded.trans_eq length), congrArg _ same⟩

/-- The rejected identifiers are those of the candidates that repeat an
earlier question. -/
theorem mem_duplicateIds {candidates : List QuestionCandidate} {id : String} :
    id ∈ (duplicateGroups platform candidates threshold).2 ↔
      ∃ index candidate, candidates[index]? = some candidate ∧
        id = candidate.candidateId ∧
          Repeats platform threshold (candidates.map (·.question)) index := by
  have flat : (duplicateGroups platform candidates threshold).2 =
      (duplicateGroups platform candidates threshold).1.flatMap List.tail := rfl
  have idAt : ∀ index candidate, candidates[index]? = some candidate →
      (candidates.map (·.candidateId)).getD index "" =
        candidate.candidateId := by
    intro index candidate found
    simp [List.getD_eq_getElem?_getD, found]
  rw [flat, List.mem_flatMap]
  constructor
  · rintro ⟨group, reported, member⟩
    obtain ⟨-, root, inside, members, ascending, members_iff, rfl⟩ :=
      mem_duplicateGroups.mp reported
    rw [← List.map_tail] at member
    obtain ⟨index, later, rfl⟩ := List.mem_map.mp member
    obtain ⟨member, earlier, member', before⟩ :=
      (mem_tail_iff ascending).mp later
    obtain ⟨small, chain⟩ := (members_iff index).mp member
    obtain ⟨-, chain'⟩ := (members_iff earlier).mp member'
    have found : candidates[index]? = some candidates[index] :=
      List.getElem?_eq_getElem small
    refine ⟨index, candidates[index], found, idAt index _ found,
      (List.length_map _).symm ▸ small, earlier, before, ?_⟩
    exact .trans _ _ _ chain'.symm chain
  · rintro ⟨index, candidate, found, rfl, small, earlier, before, chain⟩
    rw [List.length_map] at small
    classical
    let members := (List.range candidates.length).filter fun other =>
      Linked platform threshold (candidates.map (·.question)) index other
    have members_iff : ∀ other, other ∈ members ↔
        other < candidates.length ∧ Linked platform threshold
          (candidates.map (·.question)) index other := by
      intro other
      rw [List.mem_filter, List.mem_range, decide_eq_true_eq]
    have ascending : members.Pairwise (· < ·) := List.pairwise_lt_range.filter _
    have later : index ∈ members.tail := (mem_tail_iff ascending).mpr
      ⟨(members_iff index).mpr ⟨small, .refl _⟩, earlier,
        (members_iff earlier).mpr ⟨before.trans small, chain.symm⟩, before⟩
    have long : 1 < members.length := by
      have positive := List.length_pos_of_mem later
      rw [List.length_tail] at positive
      omega
    refine ⟨members.map fun index =>
      (candidates.map (·.candidateId)).getD index "",
      mem_duplicateGroups.mpr ⟨?_, index, small, members, ascending,
        members_iff, rfl⟩, ?_⟩
    · rwa [List.length_map]
    · rw [← List.map_tail, ← idAt index candidate found]
      exact List.mem_map_of_mem later

end Groups

end RagBench
