import RagBench.Core.MarkedHash
import RagBench.Experiments.Shortlist
import RagBench.Related

/-!
# The shortlist exists

The greedy pass ends with a full shortlist: as long as fewer outcomes are taken
than asked for, at most one parse mode and one retriever can be at their cap,
and the families without them are too many.
-/

namespace RagBench

open HashedOutcome

/-! ## The loop is the greedy selection -/

/-- The features that the loop counts. -/
def shortlistFeatures :
    CappedFeatures HashedOutcome ParseMode RetrieverName :=
  { first := fun row => row.outcome.config.parseMode
    second := fun row => row.outcome.config.retriever }

/-- The counters count what is selected. -/
structure ShortlistState.Counts (state : ShortlistState) : Prop where
  parse : Tallies state.parseCounts fun mode =>
    (state.selected.map shortlistFeatures.first).count mode
  retriever : Tallies state.retrieverCounts fun name =>
    (state.selected.map shortlistFeatures.second).count name

theorem ShortlistState.Counts.start : ShortlistState.start.Counts :=
  { parse := Tallies.empty
    retriever := Tallies.empty }

theorem ShortlistState.Counts.add {state : ShortlistState}
    (counts : state.Counts) (row : HashedOutcome) : (state.add row).Counts := by
  constructor
  · refine (counts.parse.count _).congr fun mode => ?_
    simp [ShortlistState.add, shortlistFeatures, List.count_singleton,
      beq_eq_decide]
  · refine (counts.retriever.count _).congr fun name => ?_
    simp [ShortlistState.add, shortlistFeatures, List.count_singleton,
      beq_eq_decide]

/-- The loop returns the first outcomes of the greedy selection. -/
theorem diversify_eq {cap size : ℕ} {ranked : List HashedOutcome}
    {state : ShortlistState} (counts : state.Counts)
    (short : state.selected.length < size)
    (long : size ≤
      (shortlistFeatures.select cap state.selected ranked).length) :
    diversify cap size ranked state =
      .ok ((shortlistFeatures.select cap state.selected ranked).take size) := by
  induction ranked generalizing state with
  | nil => exact absurd long (not_le.mpr short)
  | cons row rest induction =>
      rw [CappedFeatures.select] at long ⊢
      rw [diversify, counts.parse.getD, counts.retriever.getD]
      by_cases full : shortlistFeatures.IsFull cap state.selected row
      · rw [if_pos full] at long ⊢
        rw [← induction counts short long]
        rcases full with parse | retriever
        · exact if_pos parse
        · exact (congrArg (ite _ _) (if_pos retriever)).trans (ite_self _)
      · rw [if_neg full] at long ⊢
        obtain ⟨parse, retriever⟩ := not_or.mp full
        refine (if_neg parse).trans ((if_neg retriever).trans ?_)
        have grown : (state.add row).selected.length ≤ size := by
          rw [ShortlistState.add, List.length_append]
          exact short
        dsimp only
        split_ifs with ended
        · obtain ⟨added, same⟩ := shortlistFeatures.prefix_select cap
            (state.selected ++ [row]) rest
          rw [← same, ← ended]
          exact congrArg Except.ok List.take_left.symm
        · exact induction (counts.add row) (lt_of_le_of_ne grown ended) long

/-! ## Counting families -/

section Counting

variable {items : List HashedOutcome} {cap : ℕ}

/-- How many items have this mode and this retriever. -/
def pairCount (items : List HashedOutcome) (mode : ParseMode)
    (name : RetrieverName) : ℕ :=
  items.countP fun row =>
    row.outcome.config.parseMode = mode ∧ row.outcome.config.retriever = name

theorem count_mode (items : List HashedOutcome) (mode : ParseMode) :
    (items.map shortlistFeatures.first).count mode =
      pairCount items mode .dense + pairCount items mode .bm25 +
        pairCount items mode .hybrid := by
  induction items with
  | nil => rfl
  | cons row rest induction =>
      simp only [pairCount, List.countP_cons, List.map_cons,
        List.count_cons] at induction ⊢
      rw [induction]
      cases mode <;> cases name : row.outcome.config.retriever <;>
        cases parse : row.outcome.config.parseMode <;>
        simp [shortlistFeatures, parse] <;> omega

theorem length_eq_modes (items : List HashedOutcome) :
    items.length =
      (items.map shortlistFeatures.first).count .standard +
        (items.map shortlistFeatures.first).count .enhanced := by
  induction items with
  | nil => rfl
  | cons row rest induction =>
      rw [List.map_cons, List.count_cons, List.count_cons, List.length_cons,
        induction]
      cases shortlistFeatures.first row
      · simp [Nat.add_right_comm]
      · simp [Nat.add_assoc]

theorem count_retriever (items : List HashedOutcome) (name : RetrieverName) :
    (items.map shortlistFeatures.second).count name =
      pairCount items .standard name + pairCount items .enhanced name := by
  induction items with
  | nil => rfl
  | cons row rest induction =>
      simp only [pairCount, List.countP_cons, List.map_cons,
        List.count_cons] at induction ⊢
      rw [induction]
      cases name <;> cases same : row.outcome.config.retriever <;>
        cases parse : row.outcome.config.parseMode <;>
        simp [shortlistFeatures, same] <;> omega

/-- Seven strategies for each mode and each retriever. -/
def IsGrid (items : List HashedOutcome) : Prop :=
  ∀ mode name, pairCount items mode name = 7

/-- The greedy selection of the whole grid fills every shortlist. -/
theorem le_select_length (distinct : items.Nodup) (grid : IsGrid items)
    (small : cap ≤ 21) :
    2 * cap ≤ (shortlistFeatures.select cap [] items).length := by
  set selected := shortlistFeatures.select cap [] items with chosen
  have inside : selected.Sublist items := shortlistFeatures.select_sublist _ items
  have below (mode : ParseMode) (name : RetrieverName) :
      pairCount selected mode name ≤ 7 := by
    rw [← grid mode name]
    exact inside.countP_le
  -- A mode and a retriever below the cap have all of their seven families.
  have free (mode : ParseMode) (name : RetrieverName) :
      pairCount selected mode name = 7 ∨
        cap ≤ (selected.map shortlistFeatures.first).count mode ∨
        cap ≤ (selected.map shortlistFeatures.second).count name := by
    by_contra missing
    rw [not_or] at missing
    obtain ⟨fewer, open_⟩ := missing
    have listed : ∀ row ∈ items, row.outcome.config.parseMode = mode ∧
        row.outcome.config.retriever = name → row ∈ selected := by
      rintro row member ⟨rfl, rfl⟩
      by_contra absent
      exact open_ (CappedFeatures.isFull_select member absent)
    refine fewer ((grid mode name).symm.trans ?_).symm
    rw [pairCount, pairCount, List.countP_eq_length_filter,
      List.countP_eq_length_filter]
    refine le_antisymm ?_ (inside.filter _).length_le
    refine ((distinct.filter _).subperm fun row member => ?_).length_le
    rw [List.mem_filter] at member ⊢
    exact ⟨listed row member.1 (of_decide_eq_true member.2), member.2⟩
  rw [length_eq_modes selected]
  simp only [count_mode, count_retriever] at free ⊢
  have dense := free .standard .dense
  have bm25 := free .standard .bm25
  have hybrid := free .standard .hybrid
  have dense' := free .enhanced .dense
  have bm25' := free .enhanced .bm25
  have hybrid' := free .enhanced .hybrid
  have dense_le := below .standard .dense
  have bm25_le := below .standard .bm25
  have hybrid_le := below .standard .hybrid
  have dense_le' := below .enhanced .dense
  have bm25_le' := below .enhanced .bm25
  have hybrid_le' := below .enhanced .hybrid
  omega

end Counting

/-! ## Complete grids -/

variable {platform : Platform} {outcomes : List ScreeningOutcome}

/-- One outcome for each point of the grid, on consistent snapshots and with
distinct semantic hashes. -/
structure CompleteGrid (platform : Platform)
    (outcomes : List ScreeningOutcome) : Prop where
  hashed : ∃ hashes, outcomes.mapM (fun row =>
    row.config.semanticHash platform) = .ok hashes ∧ hashes.Nodup
  covers : (outcomes.map fun row => row.config.axes).Perm gridAxes
  parseBound : ∀ left ∈ outcomes, ∀ right ∈ outcomes,
    left.config.parseMode = right.config.parseMode →
      left.config.parseSnapshotId = right.config.parseSnapshotId
  artifactsBound : ∀ left ∈ outcomes, ∀ right ∈ outcomes,
    left.config.parseMode = right.config.parseMode →
    left.config.chunkStrategy = right.config.chunkStrategy →
      left.config.chunkSnapshotId = right.config.chunkSnapshotId ∧
      left.config.embeddingSnapshotId = right.config.embeddingSnapshotId
  sameCohort : ∀ left ∈ outcomes, ∀ right ∈ outcomes,
    left.cohort = right.cohort

private theorem hashOutcome_rows {hashes : List String}
    (related : List.Forall₂ (fun (row : ScreeningOutcome) hash =>
      row.config.semanticHash platform = .ok hash) outcomes hashes) :
    ∃ rows, outcomes.mapM (hashOutcome platform) = .ok rows ∧
      rows.map outcome = outcomes ∧ rows.map semanticHash = hashes ∧
      ∀ row ∈ rows,
        row.outcome.config.semanticHash platform = .ok row.semanticHash := by
  induction related with
  | nil => exact ⟨[], rfl, rfl, rfl, List.forall_mem_nil _⟩
  | @cons row hash rest others first _ induction =>
      obtain ⟨rows, mapped, same, names, each⟩ := induction
      refine ⟨⟨row, hash⟩ :: rows, ?_, ?_, ?_, ?_⟩
      · rw [List.mapM_cons, mapped, hashOutcome, first]
        rfl
      · rw [List.map_cons, same]
      · rw [List.map_cons, names]
      · exact List.forall_mem_cons.mpr ⟨first, each⟩

/-- The rows with their hashes. -/
theorem hashOutcomes_ok (complete : CompleteGrid platform outcomes) :
    ∃ rows, hashOutcomes platform outcomes = .ok rows ∧
      rows.map outcome = outcomes ∧ (rows.map semanticHash).Nodup ∧
      ∀ row ∈ rows,
        row.outcome.config.semanticHash platform = .ok row.semanticHash := by
  obtain ⟨hashes, mapped, distinct⟩ := complete.hashed
  obtain ⟨rows, mapped, same, names, each⟩ :=
    hashOutcome_rows (mapM_eq_ok.mp mapped)
  refine ⟨rows, ?_, same, names ▸ distinct, each⟩
  rw [hashOutcomes, mapped]
  exact raiseIf_bind (not_not.mpr (names ▸ distinct))

private theorem card_eq_one_of_const {α β : Type} [DecidableEq β]
    {items : List α} (read : α → β) {item : α} (member : item ∈ items)
    (same : ∀ other ∈ items, read other = read item) :
    (items.map read).toFinset.card = 1 := by
  refine Finset.card_eq_one.mpr ⟨read item, Finset.ext fun value => ?_⟩
  rw [List.mem_toFinset, Finset.mem_singleton]
  constructor
  · intro listed
    obtain ⟨other, known, equal⟩ := List.mem_map.mp listed
    rw [← equal, same other known]
  · rintro rfl
    exact List.mem_map_of_mem member

theorem CompleteGrid.exists_mem (complete : CompleteGrid platform outcomes)
    {axes : GridAxes} (member : axes ∈ gridAxes) :
    ∃ row ∈ outcomes, row.config.axes = axes :=
  List.mem_map.mp (complete.covers.mem_iff.mpr member)

theorem CompleteGrid.mem_gridAxes (complete : CompleteGrid platform outcomes)
    {row : ScreeningOutcome} (member : row ∈ outcomes) :
    row.config.axes ∈ gridAxes :=
  complete.covers.mem_iff.mp (List.mem_map_of_mem member)

/-- The mode and the strategy of an outcome. -/
def ScreeningOutcome.variant (row : ScreeningOutcome) : ParseMode × String :=
  (row.config.parseMode, row.config.chunkStrategy)

def ScreeningOutcome.artifacts (row : ScreeningOutcome) : String × String :=
  (row.config.chunkSnapshotId, row.config.embeddingSnapshotId)

/-- Every variant that occurs has one pair of artifacts. -/
theorem artifactBindings_spec
    (bound : ∀ left ∈ outcomes, ∀ right ∈ outcomes,
      left.variant = right.variant → left.artifacts = right.artifacts) :
    (∀ variant, variant ∈ (artifactBindings outcomes).keys ↔
      variant ∈ outcomes.map ScreeningOutcome.variant) ∧
    ∀ variant values,
      (artifactBindings outcomes).get? variant = some values →
        ∃ row ∈ outcomes, row.variant = variant ∧
          values = {row.artifacts} := by
  have general : ∀ (rest : List ScreeningOutcome)
      (bindings : Dict (ParseMode × String) (Finset (String × String))),
      rest ⊆ outcomes →
      (∀ variant values, bindings.get? variant = some values →
        ∃ row ∈ outcomes, row.variant = variant ∧ values = {row.artifacts}) →
      let final := rest.foldl (fun bindings row =>
        bindings.set row.variant (insert row.artifacts
          (bindings.getD row.variant ∅))) bindings
      (∀ variant, variant ∈ final.keys ↔ variant ∈ bindings.keys ∨
        variant ∈ rest.map ScreeningOutcome.variant) ∧
      ∀ variant values, final.get? variant = some values →
        ∃ row ∈ outcomes, row.variant = variant ∧
          values = {row.artifacts} := by
    intro rest
    induction rest with
    | nil =>
        intro bindings _ values
        exact ⟨by simp, values⟩
    | cons row rest induction =>
        intro bindings inside values
        obtain ⟨member, inside⟩ := List.cons_subset.mp inside
        have single : insert row.artifacts (bindings.getD row.variant ∅) =
            {row.artifacts} := by
          rw [Dict.getD]
          cases found : bindings.get? row.variant with
          | none => rfl
          | some old =>
              obtain ⟨other, listed, same, rfl⟩ := values _ _ found
              rw [Option.getD_some, bound other listed row member same]
              exact Finset.insert_eq_of_mem (Finset.mem_singleton_self _)
        obtain ⟨keys, final⟩ := induction
          (bindings.set row.variant (insert row.artifacts
            (bindings.getD row.variant ∅))) inside (by
          intro variant found_ found
          rw [Dict.get?_set] at found
          split_ifs at found with same
          · cases found
            exact ⟨row, member, same, single⟩
          · exact values variant found_ found)
        refine ⟨fun variant => ?_, final⟩
        rw [List.foldl_cons, keys, Dict.mem_keys_set, List.map_cons,
          List.mem_cons]
        tauto
  obtain ⟨keys, values⟩ := general outcomes .empty (List.Subset.refl _)
    fun _ _ found => by cases found
  refine ⟨fun variant => (keys variant).trans ?_, values⟩
  simp [Dict.keys, Dict.empty]

theorem mem_parseModes (mode : ParseMode) : mode ∈ parseModes := by
  cases mode <;> decide

theorem mem_gridAxes_iff {axes : GridAxes} :
    axes ∈ gridAxes ↔ axes.2.1 ∈ chunkStrategies := by
  obtain ⟨mode, strategy, name, topK⟩ := axes
  have retriever : name ∈ retrievers := by cases name <;> decide
  have value : topK ∈ topKValues := by cases topK <;> decide
  simp [gridAxes, mem_parseModes, retriever, value]

theorem CompleteGrid.variants (complete : CompleteGrid platform outcomes) :
    (artifactBindings outcomes).keys.Perm
      (parseModes.product chunkStrategies) := by
  obtain ⟨keys, -⟩ := artifactBindings_spec fun left member right member'
    same => Prod.ext_iff.mpr (complete.artifactsBound left member right member'
      (Prod.ext_iff.mp same).1 (Prod.ext_iff.mp same).2)
  refine (List.perm_ext_iff_of_nodup (artifactBindings outcomes).nodup
    (by decide)).mpr fun ⟨mode, strategy⟩ => ?_
  rw [← Dict.keys, keys, List.mem_map, List.pair_mem_product]
  constructor
  · rintro ⟨row, member, same⟩
    have inside := mem_gridAxes_iff.mp (complete.mem_gridAxes member)
    obtain ⟨rfl, rfl⟩ := Prod.mk.inj same
    exact ⟨mem_parseModes _, inside⟩
  · rintro ⟨-, known⟩
    obtain ⟨row, member, same⟩ := complete.exists_mem
      (mem_gridAxes_iff.mpr known :
        ((mode, strategy, .dense, .three) : GridAxes) ∈ gridAxes)
    have parts := Prod.mk.inj same
    exact ⟨row, member, Prod.ext parts.1 (Prod.mk.inj parts.2).1⟩

/-- The code's checks accept a complete grid. -/
theorem checkCompleteGrid_ok (complete : CompleteGrid platform outcomes) :
    checkCompleteGrid outcomes = .ok () := by
  have count : outcomes.length = 126 := by
    rw [← List.length_map (f := fun row : ScreeningOutcome =>
      row.config.axes), complete.covers.length_eq]
    rfl
  have axes := List.toFinset_eq_of_perm _ _ complete.covers
  obtain ⟨-, values⟩ := artifactBindings_spec fun left member right member'
    same => Prod.ext_iff.mpr (complete.artifactsBound left member right member'
      (Prod.ext_iff.mp same).1 (Prod.ext_iff.mp same).2)
  have variants : (artifactBindings outcomes).entries.length = 14 := by
    have lengths := complete.variants.length_eq
    rw [Dict.keys, List.length_map] at lengths
    exact lengths
  have modes : ∀ mode ∈ parseModes, (parseBindings outcomes mode).card = 1 := by
    intro mode _
    have known : "fixed-300-0" ∈ chunkStrategies := by decide
    obtain ⟨row, member, same⟩ := complete.exists_mem
      (mem_gridAxes_iff.mpr known :
        ((mode, "fixed-300-0", .dense, .three) : GridAxes) ∈ gridAxes)
    obtain rfl : row.config.parseMode = mode := (Prod.mk.inj same).1
    refine card_eq_one_of_const _ (List.mem_filter.mpr ⟨member, by simp⟩)
      fun other listed => ?_
    obtain ⟨known, equal⟩ := List.mem_filter.mp listed
    exact complete.parseBound other known row member (of_decide_eq_true equal)
  have single : ∀ artifacts ∈ (artifactBindings outcomes).values,
      artifacts.card = 1 := by
    intro artifacts member
    obtain ⟨variant, found⟩ := Dict.exists_get?_of_mem_values _ member
    obtain ⟨row, -, -, rfl⟩ := values variant artifacts found
    exact Finset.card_singleton _
  unfold checkCompleteGrid
  rw [raiseIf_bind (not_not.mpr count), raiseIf_bind (not_not.mpr axes)]
  refine raiseIf_eq_ok.mpr ?_
  rintro (⟨mode, member, wrong⟩ | wrong | ⟨artifacts, member, wrong⟩)
  · exact wrong (modes mode member)
  · exact wrong variants
  · exact wrong (single artifacts member)

/-! ## Generated grids -/

section Generated

variable {request : GridRequest} {configs : List RetrievalExperimentConfig}

theorem requireUniqueConfigs_ok {seen : List String}
    (unique : requireUniqueConfigs platform configs seen = .ok ()) :
    ∃ hashes, configs.mapM (fun config => config.semanticHash platform) =
        .ok hashes ∧ hashes.Nodup ∧ ∀ hash ∈ hashes, hash ∉ seen := by
  induction configs generalizing seen with
  | nil => exact ⟨[], rfl, List.nodup_nil, List.forall_mem_nil _⟩
  | cons config rest induction =>
      obtain ⟨hash, hashed, unique⟩ := bind_eq_ok.mp unique
      obtain ⟨_, new, unique⟩ := bind_eq_ok.mp unique
      obtain ⟨hashes, mapped, distinct, fresh⟩ := induction unique
      refine ⟨hash :: hashes, ?_, ?_, ?_⟩
      · rw [List.mapM_cons, hashed, mapped]
        rfl
      · refine List.nodup_cons.mpr ⟨fun member => ?_, distinct⟩
        exact fresh hash member (List.mem_append_right _ List.mem_cons_self)
      · refine List.forall_mem_cons.mpr ⟨raiseIf_eq_ok.mp new, ?_⟩
        exact fun other member known =>
          fresh other member (List.mem_append_left _ known)

/-- A generated configuration: its point, its binding and the request. -/
structure IsGenerated (request : GridRequest)
    (bindings : Dict (ParseMode × String) CoreSnapshotBinding)
    (axes : GridAxes) (config : RetrievalExperimentConfig) : Prop where
  axes_eq : config.axes = axes
  bound : ∃ binding, bindings.get? (axes.1, axes.2.1) = some binding ∧
    config.parseSnapshotId = strip binding.parseSnapshotId ∧
    config.chunkSnapshotId = strip binding.chunkSnapshotId ∧
    config.embeddingSnapshotId = strip binding.embeddingSnapshotId
  cohort : config.corpusSnapshotId = strip request.corpusSnapshotId ∧
    config.questionSnapshotId = strip request.questionSnapshotId ∧
    config.codeCommit = strip request.codeCommit ∧
    config.randomSeed = request.randomSeed

theorem configOf_ok
    {bindings : Dict (ParseMode × String) CoreSnapshotBinding}
    {axes : GridAxes} {config : RetrievalExperimentConfig}
    (known : axes.2.1 ∈ chunkStrategies)
    (built : request.configOf bindings axes = .ok config) :
    IsGenerated request bindings axes config := by
  have stripped : strip axes.2.1 = axes.2.1 := by
    revert known
    generalize axes.2.1 = strategy
    revert strategy
    decide
  obtain ⟨mode, strategy, name, topK⟩ := axes
  cases found : bindings.get? (mode, strategy) with
  | none =>
      rw [GridRequest.configOf, found] at built
      cases built
  | some binding =>
      rw [GridRequest.configOf, found] at built
      dsimp only at built
      unfold RetrievalFields.validate at built
      split_ifs at built
      cases built
      exact
        { axes_eq := Prod.ext rfl (Prod.ext stripped rfl)
          bound := ⟨binding, found, rfl, rfl, rfl⟩
          cohort := ⟨rfl, rfl, rfl, rfl⟩ }

/-- The bindings by mode and strategy. -/
def GridRequest.bindings (request : GridRequest) :
    Dict (ParseMode × String) CoreSnapshotBinding :=
  Dict.ofList (request.snapshotBindings.map fun row =>
    ((row.parseMode, row.chunkStrategy), row))

theorem GridRequest.mem_of_bindings {variant : ParseMode × String}
    {binding : CoreSnapshotBinding}
    (found : request.bindings.get? variant = some binding) :
    binding ∈ request.snapshotBindings ∧ binding.parseMode = variant.1 := by
  obtain ⟨row, member, same⟩ :=
    List.mem_map.mp (Dict.mem_of_get?_ofList found)
  obtain ⟨rfl, rfl⟩ := Prod.mk.inj same
  exact ⟨member, rfl⟩

theorem generated_ok
    (generated : generateCoreRetrievalConfigs platform request = .ok configs) :
    List.Forall₂ (IsGenerated request request.bindings) gridAxes configs ∧
      ∃ hashes, configs.mapM (fun config => config.semanticHash platform) =
        .ok hashes ∧ hashes.Nodup := by
  obtain ⟨_, -, generated⟩ := bind_eq_ok.mp generated
  obtain ⟨built, mapped, generated⟩ := bind_eq_ok.mp generated
  obtain ⟨_, unique, same⟩ := bind_eq_ok.mp generated
  obtain rfl := Except.ok.inj same
  obtain ⟨hashes, hashed, distinct, -⟩ := requireUniqueConfigs_ok unique
  refine ⟨?_, hashes, hashed, distinct⟩
  have points := (List.forall₂_and_left _ _).mpr
    ⟨fun axes => mem_gridAxes_iff.mp, mapM_eq_ok.mp mapped⟩
  exact points.imp fun _ _ both => configOf_ok both.1 both.2

/-- Outcomes of a generated grid are complete when the bindings of a mode name
one parse snapshot. -/
theorem completeGrid_of_generated
    (generated : generateCoreRetrievalConfigs platform request = .ok configs)
    (consistent : ∀ left ∈ request.snapshotBindings,
      ∀ right ∈ request.snapshotBindings, left.parseMode = right.parseMode →
        left.parseSnapshotId = right.parseSnapshotId)
    (listed : (outcomes.map fun row => row.config).Perm configs) :
    CompleteGrid platform outcomes := by
  obtain ⟨related, hashes, hashed, distinct⟩ := generated_ok generated
  have axes : configs.map RetrievalExperimentConfig.axes = gridAxes :=
    (map_eq_of_forall₂ id _ (fun _ _ point => point.axes_eq) related).trans
      (List.map_id _)
  have each : ∀ row ∈ outcomes, IsGenerated request request.bindings
      row.config.axes row.config := by
    intro row member
    obtain ⟨axes, -, point⟩ := exists_left_of_forall₂ related
      (listed.mem_iff.mp (List.mem_map_of_mem member))
    rw [point.axes_eq]
    exact point
  constructor
  · obtain ⟨hashes', related', permuted⟩ :=
      List.perm_comp_forall₂ listed (mapM_eq_ok.mp hashed)
    refine ⟨hashes', mapM_eq_ok.mpr ?_, permuted.nodup_iff.mpr distinct⟩
    exact List.forall₂_map_left_iff.mp related'
  · have permuted := listed.map RetrievalExperimentConfig.axes
    rw [axes, List.map_map] at permuted
    exact permuted
  · intro left member right member' same
    obtain ⟨binding, found, parse, -⟩ := (each left member).bound
    obtain ⟨binding', found', parse', -⟩ := (each right member').bound
    obtain ⟨known, mode⟩ := GridRequest.mem_of_bindings found
    obtain ⟨known', mode'⟩ := GridRequest.mem_of_bindings found'
    rw [parse, parse', consistent binding known binding' known'
      (mode.trans (Eq.trans same mode'.symm))]
  · intro left member right member' mode strategy
    obtain ⟨binding, found, -, chunk, embedding⟩ := (each left member).bound
    obtain ⟨binding', found', -, chunk', embedding'⟩ :=
      (each right member').bound
    have variant : (left.config.axes.1, left.config.axes.2.1) =
        (right.config.axes.1, right.config.axes.2.1) := Prod.ext mode strategy
    rw [variant, found'] at found
    obtain rfl := Option.some.inj found
    exact ⟨chunk.trans chunk'.symm, embedding.trans embedding'.symm⟩
  · intro left member right member'
    obtain ⟨corpus, question, commit, seed⟩ := (each left member).cohort
    obtain ⟨corpus', question', commit', seed'⟩ := (each right member').cohort
    rw [ScreeningOutcome.cohort, ScreeningOutcome.cohort, corpus, corpus',
      question, question', commit, commit', seed, seed']

end Generated

/-! ## The ranked families -/

/-- The families of the grid. -/
def gridFamilies : List ScreeningFamily :=
  (gridAxes.filter fun axes => axes.2.2.2 = .five).map fun axes =>
    (axes.1, axes.2.1, axes.2.2.1)

theorem gridAxes_nodup : gridAxes.Nodup := by
  have modes : parseModes.Nodup := by decide
  have strategies : chunkStrategies.Nodup := by decide
  have names : retrievers.Nodup := by decide
  have values : topKValues.Nodup := by decide
  exact modes.product (strategies.product (names.product values))

theorem gridFamilies_nodup : gridFamilies.Nodup := by
  refine (gridAxes_nodup.filter _).map_on ?_
  intro left member right member' same
  have five := (List.mem_filter.mp member).2
  have five' := (List.mem_filter.mp member').2
  simp only [decide_eq_true_eq] at five five'
  simp only [Prod.mk.injEq] at same
  obtain ⟨mode, strategy, name⟩ := same
  exact Prod.ext mode (Prod.ext strategy
    (Prod.ext name (five.trans five'.symm)))

theorem gridFamilies_count (mode : ParseMode) (name : RetrieverName) :
    gridFamilies.countP (fun family =>
      family.1 = mode ∧ family.2.2 = name) = 7 := by
  cases mode <;> cases name <;> decide

/-- The rows at `k = 5`. -/
def poolOf (rows : List HashedOutcome) : List HashedOutcome :=
  rows.filter fun row => row.outcome.config.topK = .five

theorem CompleteGrid.families (complete : CompleteGrid platform outcomes)
    {rows : List HashedOutcome} (same : rows.map outcome = outcomes) :
    ((poolOf rows).map family).Perm gridFamilies := by
  have covers := complete.covers
  rw [← same, List.map_map] at covers
  have chosen := (covers.filter fun axes : GridAxes =>
    axes.2.2.2 = .five).map fun axes : GridAxes =>
      (axes.1, axes.2.1, axes.2.2.1)
  rw [List.filter_map, List.map_map] at chosen
  exact chosen

/-- With one row for each family, the dictionary holds all rows. -/
theorem bestByFamily_values {pool : List HashedOutcome}
    (distinct : (pool.map family).Nodup) :
    (bestByFamily pool).values = sortBy qualityKey pool := by
  have general : ∀ (rows : List HashedOutcome)
      (best : Dict ScreeningFamily HashedOutcome),
      (rows.map family).Nodup →
      (∀ row ∈ rows, row.family ∉ best.keys) →
      rows.foldl (fun best row =>
        if (best.get? row.family).isSome then best
        else best.set row.family row) best =
      (rows.map fun row => (row.family, row)).foldl (fun dict pair =>
        dict.set pair.1 pair.2) best := by
    intro rows
    induction rows with
    | nil => exact fun _ _ _ => rfl
    | cons row rest induction =>
        intro best distinct fresh
        rw [List.map_cons, List.nodup_cons] at distinct
        have missing : best.get? row.family = none := by
          rw [Dict.get?, Dict.lookup_eq_none_iff]
          exact fresh row List.mem_cons_self
        rw [List.foldl_cons, List.map_cons, List.foldl_cons, missing]
        change List.foldl _ (best.set row.family row) rest = _
        refine induction _ distinct.2 fun other member inside => ?_
        rw [Dict.mem_keys_set] at inside
        rcases inside with same | known
        · exact distinct.1 (same ▸ List.mem_map_of_mem member)
        · exact fresh other (List.mem_cons_of_mem _ member) known
  have distinct' : ((sortBy qualityKey pool).map family).Nodup :=
    ((sortBy_perm _ pool).map _).nodup_iff.mpr distinct
  have folded := general (sortBy qualityKey pool) .empty distinct'
    fun row _ member => by cases member
  have entries : (bestByFamily pool).entries =
      (sortBy qualityKey pool).map fun row => (row.family, row) := by
    rw [bestByFamily, folded]
    refine Dict.entries_ofList ?_
    rw [List.map_map]
    exact distinct'
  rw [Dict.values, entries, List.map_map]
  exact List.map_id _

/-! ## The shortlist -/

/-- The left outcome is ranked above the right one. -/
def RanksAbove (platform : Platform) (left right : ScreeningOutcome) : Prop :=
  ∃ hash hash', left.config.semanticHash platform = .ok hash ∧
    right.config.semanticHash platform = .ok hash' ∧
    qualityKey ⟨left, hash⟩ < qualityKey ⟨right, hash'⟩

/-- At most half of the shortlist, rounded up. -/
def shortlistCap (size : ℕ) : ℕ :=
  (size + 1) / 2

/-- What the shortlist of a complete grid is. -/
structure IsShortlist (platform : Platform) (outcomes : List ScreeningOutcome)
    (size : ℕ) (selected : List ScreeningOutcome) : Prop where
  length : selected.length = size
  inside : ∀ row ∈ selected, row ∈ outcomes ∧ row.config.topK = .five
  families : (selected.map ScreeningOutcome.family).Nodup
  ranked : selected.Pairwise (RanksAbove platform)
  parse : ∀ mode, (selected.map fun row => row.config.parseMode).count mode ≤
    shortlistCap size
  retriever : ∀ name,
    (selected.map fun row => row.config.retriever).count name ≤
      shortlistCap size
  /-- A better family was passed over because of the outcomes above it. -/
  greedy : ∀ row ∈ outcomes, row.config.topK = .five → row ∉ selected →
    (∃ last ∈ selected, RanksAbove platform row last) →
    ∃ earlier, earlier <+: selected ∧
      (∀ other ∈ earlier, RanksAbove platform other row) ∧
      (shortlistCap size ≤ (earlier.map fun other =>
          other.config.parseMode).count row.config.parseMode ∨
        shortlistCap size ≤ (earlier.map fun other =>
          other.config.retriever).count row.config.retriever)

/-- The pool of a complete grid in quality order. -/
structure RankedPool (platform : Platform) (outcomes : List ScreeningOutcome)
    (ranked : List HashedOutcome) : Prop where
  sorted : ranked.Pairwise fun left right =>
    left.qualityKey < right.qualityKey
  families : (ranked.map family).Perm gridFamilies
  hashed : ∀ row ∈ ranked,
    row.outcome.config.semanticHash platform = .ok row.semanticHash
  inside : ∀ row, row ∈ outcomes ∧ row.config.topK = .five ↔
    ∃ hash, ⟨row, hash⟩ ∈ ranked

theorem RankedPool.ranksAbove {ranked : List HashedOutcome}
    (pool : RankedPool platform outcomes ranked) {left right : HashedOutcome}
    (member : left ∈ ranked) (member' : right ∈ ranked) :
    RanksAbove platform left.outcome right.outcome ↔
      left.qualityKey < right.qualityKey := by
  constructor
  · rintro ⟨hash, hash', hashed, hashed', above⟩
    rw [pool.hashed left member] at hashed
    rw [pool.hashed right member'] at hashed'
    cases hashed
    cases hashed'
    exact above
  · intro above
    exact ⟨_, _, pool.hashed left member, pool.hashed right member', above⟩

theorem CompleteGrid.rankedPool (complete : CompleteGrid platform outcomes) :
    ∃ rows, hashOutcomes platform outcomes = .ok rows ∧
      RankedPool platform outcomes
        (sortBy qualityKey (bestByFamily (poolOf rows)).values) := by
  obtain ⟨rows, hashed, same, distinct, each⟩ := hashOutcomes_ok complete
  have families := complete.families same
  have unique : ((poolOf rows).map family).Nodup :=
    families.nodup_iff.mpr gridFamilies_nodup
  refine ⟨rows, hashed, ?_⟩
  rw [bestByFamily_values unique,
    sortBy_eq_self (sortBy_pairwise qualityKey (poolOf rows))]
  have listed : ∀ row, row ∈ sortBy qualityKey (poolOf rows) ↔
      row ∈ rows ∧ row.outcome.config.topK = .five := by
    intro row
    rw [(sortBy_perm _ _).mem_iff, poolOf, List.mem_filter, decide_eq_true_eq]
  have hashes : ((sortBy qualityKey (poolOf rows)).map semanticHash).Nodup := by
    rw [((sortBy_perm qualityKey (poolOf rows)).map semanticHash).nodup_iff]
    exact distinct.sublist (List.filter_sublist.map _)
  constructor
  · refine ((sortBy_pairwise qualityKey (poolOf rows)).and
      (List.pairwise_map.mp hashes)).imp ?_
    rintro left right ⟨above, other⟩
    refine lt_of_le_of_ne above fun equal => other ?_
    exact congrArg (fun key => (ofLex (ofLex (ofLex key).2).2).2) equal
  · exact ((sortBy_perm _ _).map _).trans families
  · exact fun row member => each row ((listed row).mp member).1
  · intro row
    constructor
    · rintro ⟨member, five⟩
      rw [← same] at member
      obtain ⟨hashedRow, known, rfl⟩ := List.mem_map.mp member
      exact ⟨_, (listed hashedRow).mpr ⟨known, five⟩⟩
    · rintro ⟨hash, member⟩
      obtain ⟨known, five⟩ := (listed _).mp member
      exact ⟨same ▸ List.mem_map_of_mem known, five⟩

theorem RankedPool.nodup {ranked : List HashedOutcome}
    (pool : RankedPool platform outcomes ranked) : ranked.Nodup :=
  List.Nodup.of_map family (pool.families.nodup_iff.mpr gridFamilies_nodup)

theorem RankedPool.isGrid {ranked : List HashedOutcome}
    (pool : RankedPool platform outcomes ranked) : IsGrid ranked := by
  intro mode name
  rw [← gridFamilies_count mode name, ← pool.families.countP_eq,
    List.countP_map]
  rfl

/-- The first outcomes of the greedy selection are a shortlist. -/
theorem RankedPool.isShortlist {ranked : List HashedOutcome} {size : ℕ}
    (pool : RankedPool platform outcomes ranked)
    (long : size ≤
      (shortlistFeatures.select (shortlistCap size) [] ranked).length) :
    IsShortlist platform outcomes size
      (((shortlistFeatures.select (shortlistCap size) [] ranked).take
        size).map outcome) := by
  set result := shortlistFeatures.select (shortlistCap size) [] ranked
    with chosen
  have inside : result.Sublist ranked := shortlistFeatures.select_sublist _ ranked
  have taken : (result.take size).Sublist ranked :=
    (List.take_sublist size result).trans inside
  have respects : shortlistFeatures.Respects (shortlistCap size) result :=
    CappedFeatures.Respects.select ⟨by simp, by simp⟩ ranked
  have ofPrefix : ∀ {earlier}, earlier <+: result.take size →
      ∀ {other}, other ∈ earlier → other ∈ ranked :=
    fun first _ member => taken.subset (first.subset member)
  constructor
  · rw [List.length_map, List.length_take, min_eq_left long]
  · intro row member
    obtain ⟨hashedRow, listed, rfl⟩ := List.mem_map.mp member
    exact (pool.inside _).mpr ⟨_, taken.subset listed⟩
  · rw [List.map_map]
    exact (pool.families.nodup_iff.mpr gridFamilies_nodup).sublist
      (taken.map family)
  · rw [List.pairwise_map]
    refine (pool.sorted.sublist taken).imp_of_mem ?_
    intro left right member member' above
    exact (pool.ranksAbove (taken.subset member)
      (taken.subset member')).mpr above
  · intro mode
    rw [List.map_map]
    exact (((List.take_sublist size result).map _).count_le mode).trans
      (respects.first mode)
  · intro name
    rw [List.map_map]
    exact (((List.take_sublist size result).map _).count_le name).trans
      (respects.second name)
  · rintro row member five missing ⟨_, listed, above⟩
    obtain ⟨last, known, rfl⟩ := List.mem_map.mp listed
    obtain ⟨hash, ranked'⟩ := (pool.inside row).mp ⟨member, five⟩
    have better := (pool.ranksAbove ranked' (taken.subset known)).mp above
    obtain ⟨earlier, first, below, full⟩ :=
      CappedFeatures.isFull_of_better pool.sorted ranked'
        (fun selected => missing (List.mem_map_of_mem selected)) known better
    refine ⟨earlier.map outcome, first.map outcome, ?_, ?_⟩
    · intro other member'
      obtain ⟨hashedRow, listed', rfl⟩ := List.mem_map.mp member'
      exact (pool.ranksAbove (ofPrefix first listed') ranked').mpr
        (below hashedRow listed')
    · rw [List.map_map, List.map_map]
      exact full

/-- Every complete grid has a diverse shortlist of every size up to 42. -/
theorem diverse_shortlist_exists
    (complete : CompleteGrid platform outcomes) {size : ℕ}
    (positive : 1 ≤ size) (most : size ≤ 42) :
    ∃ selected, selectRetrievalShortlist platform outcomes size true true =
        .ok selected ∧
      IsShortlist platform outcomes size selected := by
  obtain ⟨rows, hashed, pool⟩ := complete.rankedPool
  have small : shortlistCap size ≤ 21 := by
    unfold shortlistCap
    omega
  have long : size ≤ (shortlistFeatures.select (shortlistCap size) []
      (sortBy qualityKey (bestByFamily (poolOf rows)).values)).length := by
    refine le_trans ?_ (le_select_length pool.nodup pool.isGrid small)
    unfold shortlistCap
    omega
  refine ⟨_, ?_, pool.isShortlist long⟩
  have known : "fixed-300-0" ∈ chunkStrategies := by decide
  obtain ⟨row, member, -⟩ := complete.exists_mem (mem_gridAxes_iff.mpr known :
    ((.standard, "fixed-300-0", .dense, .three) : GridAxes) ∈ gridAxes)
  have single := card_eq_one_of_const ScreeningOutcome.cohort member
    fun other listed => complete.sameCohort other listed row member
  have loop := diversify_eq ShortlistState.Counts.start
    (Nat.lt_of_lt_of_le Nat.zero_lt_one positive) long
  unfold selectRetrievalShortlist
  rw [raiseIf_bind (by omega), hashed]
  change (checkCompleteGrid outcomes >>= fun _ => _) = _
  rw [checkCompleteGrid_ok complete]
  change (raiseIf _ _ >>= fun _ => _) = _
  rw [raiseIf_bind (not_not.mpr single)]
  change (diversify (shortlistCap size) size
    (sortBy qualityKey (bestByFamily (poolOf rows)).values) .start >>=
      fun _ => _) = _
  rw [loop]
  rfl

/-! ## A grid of equal outcomes -/

def sampleGridFields (axes : GridAxes) : RetrievalFields :=
  { corpusSnapshotId := "corpus"
    parseSnapshotId := axes.1.value
    parseMode := axes.1
    chunkSnapshotId := axes.2.1
    chunkStrategy := axes.2.1
    embeddingSnapshotId := axes.2.1
    retriever := axes.2.2.1
    rrf := rrfOf axes.2.2.1
    topK := axes.2.2.2
    questionSnapshotId := "questions"
    randomSeed := 0
    codeCommit := "0123456" }

theorem sampleGridFields_isValid :
    ∀ axes ∈ gridAxes, (sampleGridFields axes).isValid = true := by
  intro axes member
  have mode : strip axes.1.value ≠ "" := by
    cases axes.1 <;> decide
  have strategy : strip axes.2.1 ≠ "" := by
    have all : ∀ text ∈ chunkStrategies, strip text ≠ "" := by decide
    exact all axes.2.1 (mem_gridAxes_iff.mp member)
  have fixed : ∀ text ∈ ["corpus", "questions", "0123456"],
      strip text ≠ "" := by decide
  have commit : isCommit "0123456" = true := by decide
  have rrf : axes.2.2.1 = .hybrid ↔ (rrfOf axes.2.2.1).isSome := by
    cases axes.2.2.1 <;> decide
  unfold RetrievalFields.isValid
  refine decide_eq_true ⟨le_refl 0, commit, ?_, rrf⟩
  simp only [RetrievalFields.identity, sampleGridFields, List.all_cons,
    List.all_nil, decide_eq_true mode, decide_eq_true strategy,
    decide_eq_true (fixed "corpus" (by simp)),
    decide_eq_true (fixed "questions" (by simp)),
    decide_eq_true (fixed "0123456" (by simp)), Bool.and_self]

def sampleOutcome (axes : GridAxes) (member : axes ∈ gridAxes) :
    ScreeningOutcome :=
  { config :=
      { toRetrievalFields := sampleGridFields axes
        valid := sampleGridFields_isValid axes member }
    recallAt5 := 1 / 2
    mrr := 1 / 2
    meanLatencyMs := 1
    recall_bounds := by norm_num
    mrr_bounds := by norm_num
    latency_nonneg := zero_le_one }

def sampleOutcomes : List ScreeningOutcome :=
  gridAxes.attach.map fun axes => sampleOutcome axes.1 axes.2

theorem sampleOutcomes_axes :
    sampleOutcomes.map (fun row => row.config.axes) = gridAxes := by
  rw [sampleOutcomes, List.map_map]
  exact List.attach_map_val.trans (List.map_id _)

/-- The bytes of the configurations. -/
def screenMarks : List Bytes :=
  sampleOutcomes.map fun row => canonicalBytes row.config.modelDump

def screenPlatform : Platform :=
  markedPlatform screenMarks

theorem ParseMode.value_inj {left right : ParseMode}
    (same : left.value = right.value) : left = right := by
  revert same
  cases left <;> cases right <;> decide

theorem RetrieverName.value_inj {left right : RetrieverName}
    (same : left.value = right.value) : left = right := by
  revert same
  cases left <;> cases right <;> decide

theorem TopK.value_inj {left right : TopK}
    (same : left.value = right.value) : left = right := by
  revert same
  cases left <;> cases right <;> decide

theorem axes_of_same {left right : RetrievalExperimentConfig}
    (same : left.modelDump.Same right.modelDump) : left.axes = right.axes := by
  have fields := same.lookup (by simp) (by simp)
  have mode := ParseMode.value_inj (str_of_rel (fields "parse_mode"))
  have strategy := str_of_rel (fields "chunk_strategy")
  have name := RetrieverName.value_inj (str_of_rel (fields "retriever"))
  have topK := TopK.value_inj (Int.ofNat.inj (int_of_rel (fields "top_k")))
  exact Prod.ext mode (Prod.ext strategy (Prod.ext name topK))

theorem compliant_modelDump (config : RetrievalExperimentConfig) :
    config.modelDump.isCompliant = true := by
  cases shape : config.rrf with
  | none =>
      simp [RetrievalExperimentConfig.modelDump, Json.isCompliant,
        Json.entriesCompliant, shape]
  | some rrf =>
      simp [RetrievalExperimentConfig.modelDump, Json.isCompliant,
        Json.entriesCompliant, RRFConfig.dump, shape]

theorem sampleOutcomes_complete :
    CompleteGrid screenPlatform sampleOutcomes := by
  have listed : ∀ row ∈ sampleOutcomes, ∃ axes member,
      row = sampleOutcome axes member := by
    intro row member
    obtain ⟨⟨axes, inside⟩, -, rfl⟩ := List.mem_map.mp member
    exact ⟨axes, inside, rfl⟩
  have short : screenMarks.length < 2 ^ 64 := by
    have count : sampleOutcomes.length = 126 := by
      rw [sampleOutcomes, List.length_map, List.length_attach]
      rfl
    rw [screenMarks, List.length_map, count]
    decide
  constructor
  · refine ⟨sampleOutcomes.map fun row => markedSha256 screenMarks
      (canonicalBytes row.config.modelDump), mapM_eq_ok.mpr ?_, ?_⟩
    · rw [List.forall₂_map_right_iff, List.forall₂_same]
      exact fun row _ =>
        markedPlatform_hash screenMarks (compliant_modelDump row.config)
    · have distinct : (sampleOutcomes.map fun row =>
          row.config.axes).Nodup := by
        rw [sampleOutcomes_axes]
        exact gridAxes_nodup
      refine List.pairwise_map.mpr
        ((List.pairwise_map.mp distinct).imp_of_mem ?_)
      intro left right member member' other equal
      refine other (axes_of_same (same_of_canonicalBytes_eq
        (compliant_modelDump _) (compliant_modelDump _) ?_))
      exact markedSha256_inj short (List.mem_map_of_mem member) equal
  · rw [sampleOutcomes_axes]
  · intro left member right member' same
    obtain ⟨axes, inside, rfl⟩ := listed left member
    obtain ⟨axes', inside', rfl⟩ := listed right member'
    exact congrArg ParseMode.value same
  · intro left member right member' _ same
    obtain ⟨axes, inside, rfl⟩ := listed left member
    obtain ⟨axes', inside', rfl⟩ := listed right member'
    exact ⟨same, same⟩
  · intro left member right member'
    obtain ⟨axes, inside, rfl⟩ := listed left member
    obtain ⟨axes', inside', rfl⟩ := listed right member'
    rfl

/-- The default shortlist of a grid of equal outcomes. -/
theorem equal_outcomes_shortlist :
    ∃ selected, selectRetrievalShortlist screenPlatform sampleOutcomes
        (8 : ℕ) true true = .ok selected ∧
      IsShortlist screenPlatform sampleOutcomes 8 selected :=
  diverse_shortlist_exists sampleOutcomes_complete (by decide) (by decide)

end RagBench
