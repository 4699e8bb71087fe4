import RagBench.Evaluation.GoldHistory

/-!
# Complete gold runs

In a complete store every configuration has one result for each item of the
cohort, with the item's type and cluster.
-/

namespace RagBench

open GoldResultRepository GoldReport

variable {arithmetic : FloatArithmetic} {random : Random}
  {platform : Platform} {floats : FloatText}
  {prereg : GoldPreregistration} {envelope : PreregistrationEnvelope}
  {items : List GoldItem} {rows : List GoldEvaluationResult}
  {repository : GoldResultRepository} {configHash salt : String}

/-! ## Results that echo a cohort -/

/-- The items of a question type, or all items. -/
def itemSlice (items : List GoldItem) (questionType : Option String) :
    List GoldItem :=
  items.filter fun item =>
    questionType = none ∨ some item.questionType = questionType

def itemClusters (items : List GoldItem) (questionType : Option String) :
    Finset String :=
  ((itemSlice items questionType).map fun item =>
    item.documentClusterId).toFinset

/-- Every configuration has a result for every item, and nothing else. -/
structure EchoesCohort (prereg : GoldPreregistration) (items : List GoldItem)
    (rows : List GoldEvaluationResult) : Prop where
  registered : ∀ row ∈ rows, row.configHash ∈ prereg.configHashes
  echoes : ∀ row ∈ rows, ∃ item ∈ items, Echoes row.configHash item row
  complete : ∀ configHash ∈ prereg.configHashes, ∀ item ∈ items,
    ∃ row ∈ rows, Echoes configHash item row
  distinct : (rows.map fun row => (row.configHash, row.itemId)).Nodup

/-- The cohort has the preregistered number of different items. -/
structure IsCohort (prereg : GoldPreregistration) (items : List GoldItem) :
    Prop where
  itemCount : items.length = prereg.cohort.itemCount
  unique : (items.map fun item => item.itemId).Nodup

namespace IsCohort

variable (cohort : IsCohort prereg items)

include cohort

theorem item_eq {first second : GoldItem} (member : first ∈ items)
    (member' : second ∈ items) (same : first.itemId = second.itemId) :
    first = second :=
  List.inj_on_of_nodup_map cohort.unique member member' same

theorem exists_mem : ∃ item, item ∈ items := by
  refine List.exists_mem_of_length_pos ?_
  rw [cohort.itemCount]
  rcases prereg.cohort.itemCount_literal with count | count <;> omega

end IsCohort

theorem mem_rowsOf {row : GoldEvaluationResult} :
    row ∈ rowsOf rows configHash ↔ row ∈ rows ∧ row.configHash = configHash := by
  rw [rowsOf, List.mem_filter, decide_eq_true_eq]

theorem mem_slice {row : GoldEvaluationResult}
    {questionType : Option String} :
    row ∈ sliceOf rows questionType ↔ row ∈ rows ∧
      (questionType = none ∨ some row.questionType = questionType) := by
  rw [sliceOf, List.mem_filter, decide_eq_true_eq]

theorem mem_itemSlice {item : GoldItem} {questionType : Option String} :
    item ∈ itemSlice items questionType ↔ item ∈ items ∧
      (questionType = none ∨ some item.questionType = questionType) := by
  rw [itemSlice, List.mem_filter, decide_eq_true_eq]

namespace EchoesCohort

variable (echoing : EchoesCohort prereg items rows)

include echoing

/-- A sliceOf of a configuration is a sliceOf of the items. -/
theorem slice_map {α : Type} [DecidableEq α]
    (read : GoldEvaluationResult → α) (readItem : GoldItem → α)
    (same : ∀ configHash item row, Echoes configHash item row →
      read row = readItem item)
    (listed : configHash ∈ prereg.configHashes)
    (questionType : Option String) :
    ((sliceOf (rowsOf rows configHash) questionType).map read).toFinset =
      ((itemSlice items questionType).map readItem).toFinset := by
  ext value
  simp only [List.mem_toFinset, List.mem_map, mem_slice, mem_rowsOf,
    mem_itemSlice]
  constructor
  · rintro ⟨row, ⟨⟨member, rfl⟩, typed⟩, rfl⟩
    obtain ⟨item, inItems, echo⟩ := echoing.echoes row member
    exact ⟨item, ⟨inItems, echo.questionType_eq ▸ typed⟩,
      (same _ item row echo).symm⟩
  · rintro ⟨item, ⟨inItems, typed⟩, rfl⟩
    obtain ⟨row, member, echo⟩ := echoing.complete configHash listed item
      inItems
    exact ⟨row, ⟨⟨member, echo.configHash_eq⟩,
      echo.questionType_eq.symm ▸ typed⟩, same _ item row echo⟩

theorem slice_items (listed : configHash ∈ prereg.configHashes)
    (questionType : Option String) :
    itemSet (sliceOf (rowsOf rows configHash) questionType) =
      ((itemSlice items questionType).map fun item =>
        item.itemId).toFinset :=
  echoing.slice_map (fun row => row.itemId) (fun item => item.itemId)
    (fun _ _ _ echo => echo.itemId_eq) listed questionType

theorem slice_clusters (listed : configHash ∈ prereg.configHashes)
    (questionType : Option String) :
    clusterSet (sliceOf (rowsOf rows configHash) questionType) =
      itemClusters items questionType :=
  echoing.slice_map (fun row => row.documentClusterId)
    (fun item => item.documentClusterId)
    (fun _ _ _ echo => echo.documentClusterId_eq) listed questionType

variable (cohort : IsCohort prereg items)

include cohort

theorem strata_eq {first second : GoldEvaluationResult}
    (member : first ∈ rows) (member' : second ∈ rows)
    (same : first.itemId = second.itemId) :
    first.questionType = second.questionType ∧
      first.documentClusterId = second.documentClusterId := by
  obtain ⟨item, inItems, echo⟩ := echoing.echoes first member
  obtain ⟨item', inItems', echo'⟩ := echoing.echoes second member'
  obtain rfl : item = item' := cohort.item_eq inItems inItems'
    (echo.itemId_eq.symm.trans (same.trans echo'.itemId_eq))
  exact ⟨echo.questionType_eq.trans echo'.questionType_eq.symm,
    echo.documentClusterId_eq.trans echo'.documentClusterId_eq.symm⟩

/-- Two configurations are comparable on a sliceOf with two clusters. -/
theorem isComparable_iff {first second : String}
    (listed : first ∈ prereg.configHashes)
    (listed' : second ∈ prereg.configHashes)
    (questionType : Option String) :
    IsComparable (sliceOf (rowsOf rows first) questionType)
        (sliceOf (rowsOf rows second) questionType) ↔
      2 ≤ (itemClusters items questionType).card := by
  constructor
  · rintro ⟨-, -, several⟩
    rwa [echoing.slice_clusters listed] at several
  · intro several
    refine ⟨?_, fun row member row' member' same => ?_, ?_⟩
    · rw [echoing.slice_items listed, echoing.slice_items listed']
    · exact (echoing.strata_eq cohort
        (mem_rowsOf.mp (mem_slice.mp member).1).1
        (mem_rowsOf.mp (mem_slice.mp member').1).1 same).2
    · rwa [echoing.slice_clusters listed]

theorem rowsOf_length (listed : configHash ∈ prereg.configHashes) :
    (rowsOf rows configHash).length = prereg.cohort.itemCount := by
  have distinct := rowsOf_distinct echoing.distinct configHash
  have all : sliceOf (rowsOf rows configHash) none = rowsOf rows configHash :=
    List.filter_eq_self.mpr fun _ _ => decide_eq_true (.inl rfl)
  have allItems : itemSlice items none = items :=
    List.filter_eq_self.mpr fun _ _ => decide_eq_true (.inl rfl)
  have sets := echoing.slice_items listed none
  rw [all, allItems] at sets
  have cards := congrArg Finset.card sets
  rw [itemSet, List.toFinset_card_of_nodup distinct,
    List.toFinset_card_of_nodup cohort.unique, List.length_map,
    List.length_map, cohort.itemCount] at cards
  exact cards

/-- A complete cohort passes the checks exactly when every question type
occurs in two clusters. -/
theorem isAggregable_iff :
    IsAggregable prereg rows ↔ ∀ item ∈ items,
      2 ≤ (itemClusters items (some item.questionType)).card := by
  have types : ∀ questionType, questionType ∈ typesOf rows ↔
      ∃ item ∈ items, item.questionType = questionType := by
    intro questionType
    rw [mem_typesOf]
    constructor
    · rintro ⟨row, member, rfl⟩
      obtain ⟨item, inItems, echo⟩ := echoing.echoes row member
      exact ⟨item, inItems, echo.questionType_eq.symm⟩
    · rintro ⟨item, inItems, rfl⟩
      obtain ⟨row, member, echo⟩ := echoing.complete _ prereg.frozen.1 item
        inItems
      exact ⟨row, member, echo.questionType_eq⟩
  constructor
  · intro aggregable item inItems
    have compared := aggregable.compared (some item.questionType)
      (.tail _ (List.mem_map_of_mem ((types _).mpr ⟨item, inItems, rfl⟩)))
    exact (echoing.isComparable_iff cohort prereg.frozen.1 prereg.frozen.2
      _).mp compared
  · intro several
    refine ⟨fun _ listed => echoing.rowsOf_length cohort listed, ?_, ?_, ?_⟩
    · intro first listed second listed'
      have all : ∀ configHash, sliceOf (rowsOf rows configHash) none =
          rowsOf rows configHash := fun _ =>
        List.filter_eq_self.mpr fun _ _ => decide_eq_true (.inl rfl)
      have sets := echoing.slice_items listed none
      have sets' := echoing.slice_items listed' none
      rw [all] at sets sets'
      exact sets.trans sets'.symm
    · intro row member configHash listed
      obtain ⟨item, inItems, echo⟩ := echoing.echoes row member
      obtain ⟨other, member', echo'⟩ := echoing.complete configHash listed
        item inItems
      exact ⟨other, mem_rowsOf.mpr ⟨member', echo'.configHash_eq⟩,
        echo'.questionType_eq.trans echo.questionType_eq.symm⟩
    · intro questionType member
      rw [echoing.isComparable_iff cohort prereg.frozen.1 prereg.frozen.2]
      rcases List.mem_cons.mp member with rfl | typed
      · -- The clusters of one type are among all clusters.
        obtain ⟨item, inItems⟩ := cohort.exists_mem
        refine (several item inItems).trans (Finset.card_le_card ?_)
        intro cluster found
        obtain ⟨other, inSlice, rfl⟩ :=
          List.mem_map.mp (List.mem_toFinset.mp found)
        exact List.mem_toFinset.mpr (List.mem_map_of_mem (mem_itemSlice.mpr
          ⟨(mem_itemSlice.mp inSlice).1, .inl rfl⟩))
      · obtain ⟨type, known, rfl⟩ := List.mem_map.mp typed
        obtain ⟨item, inItems, rfl⟩ := (types type).mp known
        exact several item inItems

end EchoesCohort

/-! ## Complete stores -/

/-- Every result that the store accepted echoes an item of the cohort, and
every configuration has a result for every item. -/
structure IsComplete (platform : Platform) (envelope : PreregistrationEnvelope)
    (items : List GoldItem) (repository : GoldResultRepository) : Prop where
  cohort : IsCohort envelope.preregistration items
  holds : Holds platform (manifestOf envelope) (fun result =>
    ∃ item ∈ items, Echoes result.configHash item result) repository
  complete : ∀ configHash ∈ envelope.preregistration.configHashes,
    ∀ item ∈ items, ∃ row, Echoes configHash item row ∧
      IsStored platform (manifestOf envelope) repository row

namespace IsComplete

variable (complete : IsComplete platform envelope items repository)

include complete

/-- Every configuration has files, so its directory is its own. -/
theorem apart : platform.TellsApart
    {text | text ∈ (manifestOf envelope).configHashes} := by
  intro first listed second listed' same
  obtain ⟨item, inItems⟩ := complete.cohort.exists_mem
  obtain ⟨row, echo, -, path, file, located, found, saved⟩ :=
    complete.complete first listed item inItems
  obtain ⟨row', echo', -, path', file', located', found', saved'⟩ :=
    complete.complete second listed' item inItems
  rw [echo.configHash_eq, echo.itemId_eq] at located
  rw [echo'.configHash_eq, echo'.itemId_eq] at located'
  have paths : resultPath platform first item.itemId =
      resultPath platform second item.itemId := by
    unfold resultPath
    rw [show platform.canonicalJsonHash (.str first) =
      platform.canonicalJsonHash (.str second) from same]
  obtain rfl := Except.ok.inj (located.symm.trans (paths.trans located'))
  obtain rfl := Option.some_inj.mp (found.symm.trans found')
  obtain rfl := saved.unique saved'
  exact echo.configHash_eq.symm.trans echo'.configHash_eq

theorem echoing
    (results : AreResults platform (manifestOf envelope) repository rows) :
    EchoesCohort envelope.preregistration items rows where
  registered row member := ((results.mem_iff row).mp member).registered
  echoes row member := by
    obtain ⟨registered, path, file, located, found, saved⟩ :=
      (results.mem_iff row).mp member
    obtain ⟨row', -, saved', -, echoes⟩ :=
      complete.holds.saved path file found
    obtain rfl := saved.unique saved'
    exact echoes
  complete configHash listed item inItems := by
    obtain ⟨row, echo, stored⟩ :=
      complete.complete configHash listed item inItems
    exact ⟨row, (results.mem_iff row).mpr stored, echo⟩
  distinct := results.distinct

end IsComplete

theorem IsComplete.aggregates_iff
    (complete : IsComplete platform envelope items repository)
    (hashes : platform.HashesCanonically floats)
    (hex : ∀ bytes, isHexDigest (platform.sha256Hex bytes) = true) :
    (∃ report, aggregateGoldResults arithmetic random platform repository
        envelope salt = .ok report) ↔
      strip salt ≠ "" ∧ verifyEnvelopeHash platform envelope = .ok () ∧
        repository.invalidations = .ok [] ∧ ∀ item ∈ items,
          2 ≤ (itemClusters items (some item.questionType)).card := by
  obtain ⟨rows, results⟩ := complete.holds.allResults hashes complete.apart
    envelope.preregistration.unique
  rw [aggregateGoldResults_ok_iff complete.holds hashes hex results,
    (complete.echoing results).isAggregable_iff complete.cohort]

/-- A complete run is aggregated exactly when every question type of its
cohort occurs in two clusters. -/
theorem complete_run_aggregated_iff
    (hashes : platform.HashesCanonically floats)
    (hex : ∀ bytes, isHexDigest (platform.sha256Hex bytes) = true)
    (verified : verifyEnvelopeHash platform envelope = .ok ())
    (complete : IsComplete platform envelope items repository)
    (uninvalidated : repository.invalidations = .ok [])
    (salted : strip salt ≠ "") :
    (∃ report, aggregateGoldResults arithmetic random platform repository
        envelope salt = .ok report) ↔
      ∀ item ∈ items,
        2 ≤ (itemClusters items (some item.questionType)).card := by
  rw [complete.aggregates_iff hashes hex]
  exact ⟨fun ⟨_, _, _, several⟩ => several, fun several =>
    ⟨salted, verified, uninvalidated, several⟩⟩

/-- A finished run completes the store, if it started with no results or with
results of the cohort. -/
theorem run_isComplete {execute : GoldExecutor}
    {configs : List ExperimentConfig} {resume : Bool}
    {summary : GoldRunSummary} {after : GoldResultRepository}
    {executed : List (String × String)}
    (start : repository.results = Dict.empty ∨
      Holds platform (manifestOf envelope) (fun result =>
        ∃ item ∈ items, Echoes result.configHash item result) repository)
    (finished : GoldRunner.run platform repository execute envelope configs
      items resume = (.ok summary, after, executed)) :
    IsComplete platform envelope items after := by
  rcases run_cases finished with ⟨-, -, error, failed⟩ |
    ⟨configByHash, started, loops, final, preregistered, from_start, looped,
      rfl, -, passed⟩
  · cases failed
  have holds : Holds platform (manifestOf envelope) (fun result =>
      ∃ item ∈ items, Echoes result.configHash item result) started := by
    rcases from_start with ⟨unbound, rfl⟩ | ⟨bound, rfl⟩
    · rcases start with empty | holds
      · exact ⟨rfl, fun path file found => by
          rw [bound, empty] at found
          cases found⟩
      · rw [holds.bound] at unbound
        cases unbound
    · rcases start with empty | holds
      · exact ⟨bound, fun path file found => by
          rw [empty] at found
          cases found⟩
      · exact holds
  have sorted := sortBy_perm (fun item : GoldItem => item.itemId) items
  obtain ⟨_, -, ran⟩ := runPairs_ran holds (fun pair member result echoes =>
    ⟨pair.2, sorted.mem_iff.mp (mem_pairsOf.mp member).2,
      echoes.configHash_eq.symm ▸ echoes⟩) looped
  have ids := sorted.map fun item => item.itemId
  refine ⟨⟨?_, ids.nodup_iff.mp preregistered.unique⟩, ran.holds, ?_⟩
  · rw [← preregistered.itemCount, cohortIds, List.length_map,
      sorted.length_eq]
  · intro configHash listed item inItems
    obtain ⟨row, config, named, stored, item', inItems', echoes⟩ :=
      ran.stored (passed.mp ⟨_, rfl⟩) (configHash, item)
        (mem_pairsOf.mpr ⟨listed, sorted.mem_iff.mpr inItems⟩)
    obtain rfl : item' = item := List.inj_on_of_nodup_map
      (ids.nodup_iff.mp preregistered.unique) inItems' inItems
      (echoes.itemId_eq.symm.trans named)
    have same : row.configHash = configHash := config
    exact ⟨row, same ▸ echoes, stored⟩

/-! ## Filling a store -/

/-- Save one result after the other. -/
def saveAll (platform : Platform) (repository : GoldResultRepository)
    (rows : List GoldEvaluationResult) :
    Except PyException GoldResultRepository :=
  rows.foldlM (fun repository row => repository.save platform row) repository

/-- Results with paths of their own are all saved. -/
theorem saveAll_ok {manifest : ProtectedManifest}
    {allowed : GoldEvaluationResult → Prop} {texts : Set String}
    (hashes : platform.HashesCanonically floats)
    (apart : platform.TellsApart texts) (rows : List GoldEvaluationResult)
    (repository : GoldResultRepository)
    (holds : Holds platform manifest allowed repository)
    (permitted : ∀ row ∈ rows, allowed row)
    (registered : ∀ row ∈ rows, row.configHash ∈ manifest.configHashes)
    (named : ∀ row ∈ rows, row.configHash ∈ texts ∧ row.itemId ∈ texts)
    (free : ∀ row ∈ rows, ∀ path,
      resultPath platform row.configHash row.itemId = .ok path →
        repository.results.get? path = none)
    (distinct : (rows.map fun row => (row.configHash, row.itemId)).Nodup) :
    ∃ after, saveAll platform repository rows = .ok after ∧
      Holds platform manifest allowed after ∧
      (∀ row, row ∈ rows ∨ IsStored platform manifest repository row →
        IsStored platform manifest after row) ∧
      after.invalidationFiles = repository.invalidationFiles := by
  induction rows generalizing repository with
  | nil =>
      refine ⟨repository, rfl, holds, fun row stored => ?_, rfl⟩
      exact stored.resolve_left List.not_mem_nil
  | cons row rows induction =>
      obtain ⟨first, permitted⟩ := List.forall_mem_cons.mp permitted
      obtain ⟨listed, registered⟩ := List.forall_mem_cons.mp registered
      obtain ⟨texts, named⟩ := List.forall_mem_cons.mp named
      obtain ⟨path, located⟩ :=
        resultPath_ok hashes row.configHash row.itemId
      have unused := free row List.mem_cons_self path located
      obtain ⟨middle, success⟩ :=
        save_free hashes holds.manifest_eq listed located unused
      have kept := holds.save success first
      obtain ⟨manifest', path', file, bound, -, located', saved, -, rfl⟩ :=
        save_ok success
      obtain rfl := Except.ok.inj (located.symm.trans located')
      obtain rfl := Except.ok.inj (holds.manifest_eq.symm.trans bound)
      obtain ⟨other, distinct⟩ := List.nodup_cons.mp distinct
      obtain ⟨after, filled, holds', stored, same⟩ := induction _ kept
        permitted registered named (fun row' member path' located' => by
          rw [Dict.get?_set, if_neg ?_]
          · exact free row' (.tail _ member) path' located'
          · rintro rfl
            obtain ⟨config, item⟩ := resultPath_inj apart
              ⟨texts.1, (named row' member).1⟩
              ⟨texts.2, (named row' member).2⟩ located located'
            refine other (List.mem_map.mpr ⟨row', member, ?_⟩)
            exact Prod.ext config.symm item.symm) distinct
      refine ⟨after, ?_, holds', fun row' known => stored row' ?_, same⟩
      · rw [saveAll, List.foldlM_cons, success]
        exact filled
      · have here : IsStored platform manifest { repository with
            results := repository.results.set path file } row :=
          ⟨listed, path, file, located, Dict.get?_set_self _ _ _, saved⟩
        rcases known with member | ⟨registered', path', file', located',
          found, saved'⟩
        · rcases List.mem_cons.mp member with rfl | later
          · exact .inr here
          · exact .inl later
        · refine .inr ⟨registered', path', file', located', ?_, saved'⟩
          rw [Dict.get?_set, if_neg ?_]
          · exact found
          · rintro rfl
            rw [unused] at found
            cases found

/-! ## Two cohorts -/

/-- Exact arithmetic on finite floats. -/
def exactly (combine : ℚ → ℚ → ℚ) : PyFloat → PyFloat → PyFloat
  | .finite left, .finite right => .finite (combine left right)
  | _, _ => .nan

def sampleArithmetic : FloatArithmetic :=
  { add := exactly (· + ·)
    sub := exactly (· - ·)
    mul := exactly (· * ·)
    sum := fun values => values.foldl (exactly (· + ·)) (.finite 0)
    divide := fun value count => exactly (· / ·) value (.finite count)
    sort := fun values => values.mergeSort fun left right => ¬ right.lt left
    sort_perm := fun _ => List.mergeSort_perm _ _ }

def sampleRandom : Random :=
  { choice := fun _ draw size => draw % size
    choice_lt := fun _ draw _ positive => Nat.mod_lt draw positive }

/-- Rare items are about tables; the clusters alternate. -/
def clusteredItem (rare : ℕ → Bool) (number : ℕ) : GoldItem :=
  { toGoldFields :=
      { (sampleItem number).toGoldFields with
        questionType := if rare number then "table" else "fact"
        documentClusterId := if number % 2 = 0 then "left" else "right" }
    named := by
      simp only [GoldFields.isNamed, sampleItem]
      split_ifs <;> simp [List.replicate_succ]
    consistent := sampleItem_consistent number }

def clusteredItems (rare : ℕ → Bool) : List GoldItem :=
  (List.range 150).map (clusteredItem rare)

theorem clusteredItems_ids (rare : ℕ → Bool) :
    (clusteredItems rare).map (fun item => item.itemId) = goldItemIds := by
  rw [clusteredItems, goldItemIds, sampleItems, List.map_map, List.map_map]
  rfl

theorem clusteredItem_normalized (rare : ℕ → Bool) (number : ℕ) :
    isNormalized [(clusteredItem rare number).itemId,
      (clusteredItem rare number).questionType,
      (clusteredItem rare number).documentClusterId] = true := by
  have stripped : strip (clusteredItem rare number).itemId =
      (clusteredItem rare number).itemId := by
    refine strip_eq_self fun character member => ?_
    have letters : (clusteredItem rare number).itemId.toList =
        List.replicate (number + 1) 'g' := String.toList_ofList
    rw [letters] at member
    rw [List.eq_of_mem_replicate member]
    decide
  have written : (clusteredItem rare number).itemId ≠ "" := by
    simp [clusteredItem, sampleItem, List.replicate_succ]
  have others : ∀ text ∈ ["table", "fact", "left", "right"],
      strip text = text ∧ text ≠ "" := by decide
  simp only [isNormalized, List.all_cons, List.all_nil, Bool.and_true,
    Bool.and_eq_true, decide_eq_true_eq]
  refine ⟨⟨stripped, written⟩, others _ ?_, others _ ?_⟩
  · simp only [clusteredItem]
    split_ifs <;> simp
  · simp only [clusteredItem]
    split_ifs <;> simp

def clusteredResult (rare : ℕ → Bool) (config number : ℕ) :
    GoldEvaluationResult :=
  { toGoldResultFields := .ofItem (digestOf config)
      (clusteredItem rare number) sampleScores
    valid := by
      have normalized := clusteredItem_normalized rare number
      simp [GoldResultFields.isValid, GoldResultFields.ofItem,
        GoldResultFields.identity, digestOf_isHexDigest, sampleScores_isValid,
        normalized] }

def clusteredResults (rare : ℕ → Bool) : List GoldEvaluationResult :=
  ((List.range 3).product (List.range 150)).map fun pair =>
    clusteredResult rare pair.1 pair.2

def clusteredEnvelope (rare : ℕ → Bool) : PreregistrationEnvelope :=
  sampleEnvelope goldMarks (clusteredItems rare)

theorem clusteredResults_distinct (rare : ℕ → Bool) :
    ((clusteredResults rare).map fun row =>
      (row.configHash, row.itemId)).Nodup := by
  rw [clusteredResults, List.map_map]
  refine (List.nodup_range.product List.nodup_range).map_on ?_
  rintro ⟨config, number⟩ member ⟨config', number'⟩ member' same
  obtain ⟨configs, items⟩ := Prod.mk.inj same
  have small := List.mem_range.mp (List.mem_product.mp member).1
  have small' := List.mem_range.mp (List.mem_product.mp member').1
  have lengths := congrArg (fun text => text.toList.length) items
  refine Prod.ext (digestOf_inj (by omega) (by omega) configs) ?_
  simpa [clusteredResult, GoldResultFields.ofItem, clusteredItem, sampleItem]
    using lengths

theorem mem_clusteredResults {rare : ℕ → Bool} {row : GoldEvaluationResult}
    (member : row ∈ clusteredResults rare) :
    ∃ config < 3, ∃ number < 150, row = clusteredResult rare config number := by
  obtain ⟨⟨config, number⟩, listed, rfl⟩ := List.mem_map.mp member
  obtain ⟨small, small'⟩ := List.mem_product.mp listed
  exact ⟨config, List.mem_range.mp small, number, List.mem_range.mp small',
    rfl⟩

theorem mem_clusteredItems {rare : ℕ → Bool} {number : ℕ}
    (small : number < 150) :
    clusteredItem rare number ∈ clusteredItems rare :=
  List.mem_map_of_mem (List.mem_range.mpr small)

/-- Saving all results makes the store complete, whatever cohort the
envelope is of. -/
theorem saved_isComplete {marked : List Bytes} {texts : Set String}
    (apart : (markedPlatform marked).TellsApart texts)
    (configs : ∀ number < 3, digestOf number ∈ texts)
    (ids : ∀ itemId ∈ goldItemIds, itemId ∈ texts)
    (preregistered : List GoldItem) (rare : ℕ → Bool) :
    ∃ store, saveAll (markedPlatform marked)
        (bound emptyStore (sampleEnvelope marked preregistered))
        (clusteredResults rare) = .ok store ∧
      IsComplete (markedPlatform marked) (sampleEnvelope marked preregistered)
        (clusteredItems rare) store ∧
      store.invalidations = .ok [] := by
  have config : ∀ number < 3, digestOf number ∈
      (sampleEnvelope marked preregistered).preregistration.configHashes :=
    fun number small => List.mem_map_of_mem (List.mem_range.mpr small)
  have echoes : ∀ row ∈ clusteredResults rare, ∃ item ∈ clusteredItems rare,
      Echoes row.configHash item row := by
    intro row member
    obtain ⟨config, -, number, small, rfl⟩ := mem_clusteredResults member
    exact ⟨_, mem_clusteredItems small, rfl, rfl, rfl, rfl⟩
  have registered : ∀ row ∈ clusteredResults rare, row.configHash ∈
      (manifestOf (sampleEnvelope marked preregistered)).configHashes := by
    intro row member
    obtain ⟨number, small, _, -, rfl⟩ := mem_clusteredResults member
    exact config number small
  have named : ∀ row ∈ clusteredResults rare,
      row.configHash ∈ texts ∧ row.itemId ∈ texts := by
    intro row member
    obtain ⟨number, small, index, inside, rfl⟩ := mem_clusteredResults member
    refine ⟨configs number small, ids _ ?_⟩
    rw [← clusteredItems_ids rare]
    exact List.mem_map_of_mem (mem_clusteredItems inside)
  have holds : Holds (markedPlatform marked)
      (manifestOf (sampleEnvelope marked preregistered))
      (fun result => ∃ item ∈ clusteredItems rare,
        Echoes result.configHash item result)
      (bound emptyStore (sampleEnvelope marked preregistered)) :=
    { bound := rfl
      saved := fun path file found => nomatch found }
  obtain ⟨store, filled, holds, stored, same⟩ := saveAll_ok
    (markedPlatform_hashes marked) apart (clusteredResults rare) _ holds
    echoes registered named (fun _ _ _ _ => rfl)
    (clusteredResults_distinct rare)
  refine ⟨store, filled, ⟨⟨?_, ?_⟩, holds, ?_⟩, ?_⟩
  · simp [clusteredItems, sampleEnvelope, samplePreregistration]
  · rw [clusteredItems_ids]
    exact sampleItems_unique 150
  · intro configHash member item inItems
    obtain ⟨number, small, rfl⟩ := List.mem_map.mp member
    obtain ⟨index, inside, rfl⟩ := List.mem_map.mp inItems
    refine ⟨clusteredResult rare number index, ⟨rfl, rfl, rfl, rfl⟩,
      stored _ (.inl (List.mem_map.mpr ⟨(number, index), ?_, rfl⟩))⟩
    exact List.mem_product.mpr ⟨small, inside⟩
  · exact invalidations_empty same

theorem clusteredStore (rare : ℕ → Bool) :
    ∃ store, saveAll goldPlatform (bound emptyStore (clusteredEnvelope rare))
        (clusteredResults rare) = .ok store ∧
      IsComplete goldPlatform (clusteredEnvelope rare) (clusteredItems rare)
        store ∧
      store.invalidations = .ok [] :=
  saved_isComplete (sample_apart (.of_eq (clusteredItems_ids rare)))
    (fun _ small => .inl (List.mem_map_of_mem (List.mem_range.mpr small)))
    (fun _ member => .inr (clusteredItems_ids rare ▸ member)) _ rare

/-- Two items of a sliceOf in different clusters. -/
theorem two_le_itemClusters {items : List GoldItem}
    {questionType : Option String} {first second : GoldItem}
    (member : first ∈ itemSlice items questionType)
    (member' : second ∈ itemSlice items questionType)
    (other : first.documentClusterId ≠ second.documentClusterId) :
    2 ≤ (itemClusters items questionType).card :=
  Finset.one_lt_card.mpr ⟨_, List.mem_toFinset.mpr (List.mem_map_of_mem
    member), _, List.mem_toFinset.mpr (List.mem_map_of_mem member'), other⟩

theorem common_type_clusters : ∀ item ∈ clusteredItems fun _ => false,
    2 ≤ (itemClusters (clusteredItems fun _ => false)
      (some item.questionType)).card := by
  intro item member
  obtain ⟨number, -, rfl⟩ := List.mem_map.mp member
  exact two_le_itemClusters
    (mem_itemSlice.mpr ⟨mem_clusteredItems (by decide : 0 < 150), .inr rfl⟩)
    (mem_itemSlice.mpr ⟨mem_clusteredItems (by decide : 1 < 150), .inr rfl⟩)
    (by decide)

theorem common_type_aggregated :
    ∃ store report,
      saveAll goldPlatform (bound emptyStore (clusteredEnvelope fun _ => false))
        (clusteredResults fun _ => false) = .ok store ∧
      aggregateGoldResults sampleArithmetic sampleRandom goldPlatform store
        (clusteredEnvelope fun _ => false) "salt" = .ok report := by
  obtain ⟨store, filled, complete, uninvalidated⟩ :=
    clusteredStore fun _ => false
  obtain ⟨report, success⟩ : ∃ report, aggregateGoldResults sampleArithmetic
      sampleRandom goldPlatform store (clusteredEnvelope fun _ => false)
        "salt" = .ok report :=
    (complete_run_aggregated_iff (markedPlatform_hashes goldMarks)
      (fun _ => digestOf_isHexDigest _) (sampleEnvelope_verified _ _)
      complete uninvalidated (by decide)).mpr common_type_clusters
  exact ⟨store, report, filled, success⟩

/-- One question about a table is in one cluster. -/
theorem single_table_question_not_aggregated :
    ∃ store,
      saveAll goldPlatform (bound emptyStore (clusteredEnvelope (· = 0)))
        (clusteredResults (· = 0)) = .ok store ∧
      IsComplete goldPlatform (clusteredEnvelope (· = 0))
        (clusteredItems (· = 0)) store ∧
      store.invalidations = .ok [] ∧
      2 ≤ (itemClusters (clusteredItems (· = 0)) none).card ∧
      ¬ ∃ report, aggregateGoldResults sampleArithmetic sampleRandom
        goldPlatform store (clusteredEnvelope (· = 0)) "salt" =
          .ok report := by
  obtain ⟨store, filled, complete, uninvalidated⟩ := clusteredStore (· = 0)
  refine ⟨store, filled, complete, uninvalidated, ?_, ?_⟩
  · exact two_le_itemClusters
      (mem_itemSlice.mpr ⟨mem_clusteredItems (by decide : 0 < 150), .inl rfl⟩)
      (mem_itemSlice.mpr ⟨mem_clusteredItems (by decide : 1 < 150), .inl rfl⟩)
      (by decide)
  · rw [complete.aggregates_iff (markedPlatform_hashes goldMarks)
      (fun _ => digestOf_isHexDigest _)]
    rintro ⟨-, -, -, several⟩
    have two := several _ (mem_clusteredItems (by decide : 0 < 150))
    have one : itemClusters (clusteredItems (· = 0)) (some "table") ⊆
        {"left"} := by
      intro cluster member
      obtain ⟨item, inSlice, rfl⟩ :=
        List.mem_map.mp (List.mem_toFinset.mp member)
      obtain ⟨inItems, typed⟩ := mem_itemSlice.mp inSlice
      obtain ⟨number, -, rfl⟩ := List.mem_map.mp inItems
      by_cases first : number = 0
      · subst first
        decide
      · simp [clusteredItem, first] at typed
    have cards := Finset.card_le_card one
    rw [Finset.card_singleton] at cards
    exact absurd (two.trans cards) (by decide)

end RagBench
