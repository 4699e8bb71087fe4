import RagBench.Benchmark.GoldRoundTrip
import RagBench.Core.MarkedHash
import RagBench.Evaluation.GoldRecords
import RagBench.Evaluation.GoldRunner

/-!
# Gold runs over sealed cohorts

A result stores its identity fields stripped, and the runner compares them with
the fields of the item, which need not be stripped.  An executor that echoes
the item completes the run exactly when stripping changes nothing.
-/

namespace RagBench

open GoldRunner GoldResultRepository

/-! ## One pair -/

section Steps

variable {platform : Platform} {floats : FloatText} {execute : GoldExecutor}
  {configByHash : Dict String ExperimentConfig} {resume : Bool}
  {progress after : Progress} {configHash : String} {item : GoldItem}
  {outcome : Except PyException Unit}

/-- The result names the configuration and the item with its strata. -/
structure Echoes (configHash : String) (item : GoldItem)
    (result : GoldEvaluationResult) : Prop where
  configHash_eq : result.configHash = configHash
  itemId_eq : result.itemId = item.itemId
  questionType_eq : result.questionType = item.questionType
  documentClusterId_eq : result.documentClusterId = item.documentClusterId

/-- What the runner accepts echoes the item and is saved. -/
theorem acceptResult_ok {repository saved : GoldResultRepository}
    {returned : Except PyException GoldEvaluationResult} :
    acceptResult platform repository configHash item returned = .ok saved ↔
      ∃ result, returned = .ok result ∧ Echoes configHash item result ∧
        repository.save platform result = .ok saved := by
  unfold acceptResult
  rw [bind_eq_ok]
  refine exists_congr fun result => and_congr_right fun _ => ?_
  constructor
  · intro accepted
    obtain ⟨_, identity, accepted⟩ := bind_eq_ok.mp accepted
    obtain ⟨_, stratum, accepted⟩ := bind_eq_ok.mp accepted
    have identity := raiseIf_eq_ok.mp identity
    have stratum := raiseIf_eq_ok.mp stratum
    rw [not_or, not_not, not_not] at identity stratum
    exact ⟨⟨identity.1, identity.2, stratum.1, stratum.2⟩, accepted⟩
  · rintro ⟨echoes, success⟩
    rw [raiseIf_bind (by simp [echoes.configHash_eq, echoes.itemId_eq]),
      raiseIf_bind (by
        simp [echoes.questionType_eq, echoes.documentClusterId_eq])]
    exact success

/-- The progress once the pair is handed to the executor. -/
def GoldRunner.Progress.called (progress : Progress) (configHash : String)
    (item : GoldItem) : Progress :=
  { progress with
    executed := progress.executed ++ [(configHash, item.itemId)] }

/-- Everything that one pair can do. -/
theorem runItem_cases
    (step : runItem platform execute configByHash resume progress configHash
      item = (outcome, after)) :
    ((∃ error, outcome = .error error) ∧ after = progress) ∨
    (∃ result, progress.repository.load platform configHash item.itemId =
        .ok (some result) ∧ outcome = .ok () ∧
      after = { progress with completed := progress.completed + 1 }) ∨
    (progress.repository.load platform configHash item.itemId = .ok none ∧
      (∃ error, outcome = .error error) ∧
      after = progress.called configHash item) ∨
    (progress.repository.load platform configHash item.itemId = .ok none ∧
      ∃ config result repository, configByHash.get? configHash = some config ∧
        execute config item = .ok result ∧ Echoes configHash item result ∧
        progress.repository.save platform result = .ok repository ∧
        outcome = .ok () ∧
        after = { progress.called configHash item with
          repository := repository
          completed := progress.completed + 1 }) := by
  unfold runItem at step
  split at step
  · obtain ⟨rfl, rfl⟩ := Prod.mk.inj step
    exact .inl ⟨⟨_, rfl⟩, rfl⟩
  · rename_i result found
    split_ifs at step
    · obtain ⟨rfl, rfl⟩ := Prod.mk.inj step
      exact .inr (.inl ⟨result, found, rfl, rfl⟩)
    · obtain ⟨rfl, rfl⟩ := Prod.mk.inj step
      exact .inl ⟨⟨_, rfl⟩, rfl⟩
  · rename_i missing
    split at step
    · obtain ⟨rfl, rfl⟩ := Prod.mk.inj step
      exact .inl ⟨⟨_, rfl⟩, rfl⟩
    · rename_i config known
      dsimp only at step
      split at step
      · obtain ⟨rfl, rfl⟩ := Prod.mk.inj step
        exact .inr (.inr (.inl ⟨missing, ⟨_, rfl⟩, rfl⟩))
      · rename_i repository accepted
        obtain ⟨rfl, rfl⟩ := Prod.mk.inj step
        obtain ⟨result, returned, echoes, success⟩ :=
          acceptResult_ok.mp accepted
        exact .inr (.inr (.inr ⟨missing, config, result, repository, known,
          returned, echoes, success, rfl, rfl⟩))

/-- A new pair whose result is accepted. -/
theorem runItem_accepted {config : ExperimentConfig}
    {result : GoldEvaluationResult} {repository : GoldResultRepository}
    (missing : progress.repository.load platform configHash item.itemId =
      .ok none)
    (known : configByHash.get? configHash = some config)
    (returned : execute config item = .ok result)
    (echoes : Echoes configHash item result)
    (success : progress.repository.save platform result = .ok repository) :
    runItem platform execute configByHash resume progress configHash item =
      (.ok (), { progress.called configHash item with
        repository := repository
        completed := progress.completed + 1 }) := by
  have accepted := acceptResult_ok.mpr ⟨result, returned, echoes, success⟩
  unfold runItem
  rw [missing]
  dsimp only
  rw [known]
  dsimp only
  rw [accepted]
  rfl

end Steps

/-! ## Executors that echo the item -/

section Faithful

variable {platform : Platform} {floats : FloatText}
  {score : ExperimentConfig → GoldItem → GoldScores}
  {configByHash : Dict String ExperimentConfig} {resume : Bool}
  {manifest : ProtectedManifest} {repository : GoldResultRepository}
  {configHash : String} {config : ExperimentConfig} {item : GoldItem}
  {result : GoldEvaluationResult}

/-- Stripping leaves the identity fields as they are. -/
def GoldFields.IsStripped (fields : GoldFields) : Prop :=
  strip fields.itemId = fields.itemId ∧
    strip fields.questionType = fields.questionType ∧
    strip fields.documentClusterId = fields.documentClusterId

/-- A result with the item's own values and some scores. -/
def GoldResultFields.ofItem (configHash : String) (item : GoldItem)
    (scores : GoldScores) : GoldResultFields :=
  { toGoldScores := scores
    configHash := configHash
    itemId := item.itemId
    questionType := item.questionType
    documentClusterId := item.documentClusterId }

/-- `GoldEvaluationResult` built from the item and some scores. -/
def faithfulExecutor (platform : Platform)
    (score : ExperimentConfig → GoldItem → GoldScores) : GoldExecutor :=
  fun config item => do
    let configHash ← config.semanticHash platform
    (GoldResultFields.ofItem configHash item (score config item)).validate

theorem faithfulExecutor_strips
    (returned : faithfulExecutor platform score config item = .ok result) :
    result.itemId = strip item.itemId ∧
      result.questionType = strip item.questionType ∧
      result.documentClusterId = strip item.documentClusterId := by
  obtain ⟨configHash, -, returned⟩ := bind_eq_ok.mp returned
  unfold GoldResultFields.validate at returned
  split_ifs at returned
  cases returned
  exact ⟨rfl, rfl, rfl⟩

theorem isStripped_of_echoes
    (returned : faithfulExecutor platform score config item = .ok result)
    (echoes : Echoes configHash item result) : item.IsStripped := by
  obtain ⟨itemId, questionType, cluster⟩ := faithfulExecutor_strips returned
  exact ⟨itemId.symm.trans echoes.itemId_eq,
    questionType.symm.trans echoes.questionType_eq,
    cluster.symm.trans echoes.documentClusterId_eq⟩

theorem faithfulExecutor_ok (valid : ∀ config item, (score config item).isValid)
    (hashed : config.semanticHash platform = .ok configHash)
    (digest : isHexDigest configHash = true) (stripped : item.IsStripped) :
    ∃ result, faithfulExecutor platform score config item = .ok result ∧
      Echoes configHash item result := by
  have named := item.named
  simp only [GoldFields.isNamed, decide_eq_true_eq] at named
  obtain ⟨itemId, -, questionType, -, cluster⟩ := named
  obtain ⟨itemStripped, typeStripped, clusterStripped⟩ := stripped
  let fields := GoldResultFields.ofItem configHash item (score config item)
  have nonempty : "" ∉ fields.identity := by
    simp [fields, GoldResultFields.ofItem, GoldResultFields.identity,
      itemId.symm, questionType.symm, cluster.symm]
  have accepted : fields.stripped.isValid = true := by
    simp [fields, GoldResultFields.ofItem, GoldResultFields.stripped,
      GoldResultFields.isValid, GoldResultFields.identity, isNormalized,
      digest, valid, itemStripped, typeStripped, clusterStripped, itemId,
      questionType, cluster]
  unfold faithfulExecutor
  rw [hashed]
  change ∃ result, fields.validate = _ ∧ _
  unfold GoldResultFields.validate
  rw [if_neg nonempty, dif_pos accepted]
  exact ⟨_, rfl, rfl, itemStripped, typeStripped, clusterStripped⟩

/-- The store is bound, the configurations of the pairs are known, and their
paths are free. -/
structure Ready (platform : Platform) (manifest : ProtectedManifest)
    (configByHash : Dict String ExperimentConfig)
    (texts : Set String) (pairs : List (String × GoldItem))
    (repository : GoldResultRepository) : Prop where
  apart : platform.TellsApart texts
  registered : ∀ configHash ∈ manifest.configHashes, configHash ∈ texts
  holds : Holds platform manifest (fun result => result.itemId ∈ texts)
    repository
  known : ∀ pair ∈ pairs, pair.1 ∈ manifest.configHashes ∧
    isHexDigest pair.1 = true ∧ ∃ config,
      configByHash.get? pair.1 = some config ∧
      config.semanticHash platform = .ok pair.1
  named : ∀ pair ∈ pairs, pair.2.itemId ∈ texts
  free : ∀ pair ∈ pairs, ∀ path,
    resultPath platform pair.1 pair.2.itemId = .ok path →
      repository.results.get? path = none
  distinct : (pairs.map fun pair => (pair.1, pair.2.itemId)).Nodup

variable {rest : List (String × GoldItem)} {texts : Set String}

/-- Saving one result leaves the paths of the other pairs free. -/
theorem Ready.next {after : GoldResultRepository}
    (ready : Ready platform manifest configByHash texts
      ((configHash, item) :: rest) repository)
    (echoes : Echoes configHash item result)
    (success : repository.save platform result = .ok after) :
    Ready platform manifest configByHash texts rest after := by
  obtain ⟨fresh, distinct⟩ := List.nodup_cons.mp ready.distinct
  have named : result.itemId ∈ texts := by
    rw [echoes.itemId_eq]
    exact ready.named _ List.mem_cons_self
  refine
    { apart := ready.apart
      registered := ready.registered
      holds := ready.holds.save success named
      known := fun pair member => ready.known pair (.tail _ member)
      named := fun pair member => ready.named pair (.tail _ member)
      free := fun pair member path located => ?_
      distinct := distinct }
  obtain ⟨_, path', file, _, _, located', _, _, rfl⟩ := save_ok success
  rw [Dict.get?_set]
  split_ifs with same
  · subst same
    have configs : result.configHash ∈ texts ∧ pair.1 ∈ texts := by
      rw [echoes.configHash_eq]
      exact ⟨ready.registered _ (ready.known _ List.mem_cons_self).1,
        ready.registered _ (ready.known pair (.tail _ member)).1⟩
    obtain ⟨sameConfig, sameItem⟩ := resultPath_inj ready.apart configs
      ⟨named, ready.named pair (.tail _ member)⟩ located' located
    refine absurd (List.mem_map.mpr ⟨pair, member, ?_⟩) fresh
    rw [← sameConfig, ← sameItem, echoes.configHash_eq, echoes.itemId_eq]
  · exact ready.free pair (.tail _ member) path located

/-- From free paths, the loops end exactly when every item is stripped. -/
theorem runPairs_faithful_iff
    (hashes : platform.HashesCanonically floats)
    (valid : ∀ config item, (score config item).isValid)
    (pairs : List (String × GoldItem)) (progress : Progress)
    (ready : Ready platform manifest configByHash texts pairs
      progress.repository) :
    (runPairs platform (faithfulExecutor platform score) configByHash resume
        pairs progress).1 = .ok () ↔
      ∀ pair ∈ pairs, pair.2.IsStripped := by
  induction pairs generalizing progress with
  | nil => exact ⟨fun _ => List.forall_mem_nil _, fun _ => rfl⟩
  | cons pair rest induction =>
      obtain ⟨configHash, item⟩ := pair
      obtain ⟨path, located⟩ := resultPath_ok hashes configHash item.itemId
      have free := ready.free _ List.mem_cons_self path located
      obtain ⟨registered, digest, config, known, hashed⟩ :=
        ready.known _ List.mem_cons_self
      have missing : progress.repository.load platform configHash
          item.itemId = .ok none := by
        rcases ready.holds.load ready.apart ready.registered
          (fun _ named => named) (ready.registered _ registered)
          (ready.named _ List.mem_cons_self) located with
          ⟨-, missing⟩ | ⟨file, _, found, -⟩
        · exact missing
        · rw [free] at found
          cases found
      rw [List.forall_mem_cons, runPairs]
      constructor
      · intro finished
        cases step : runItem platform (faithfulExecutor platform score)
          configByHash resume progress configHash item with
        | mk outcome after =>
            rw [step] at finished
            rcases runItem_cases step with
              ⟨⟨error, rfl⟩, -⟩ | ⟨_, found, -⟩ | ⟨-, ⟨error, rfl⟩, -⟩ |
              ⟨-, _, result, repository, -, returned, echoes, success, rfl,
                rfl⟩
            · cases finished
            · rw [missing] at found
              cases found
            · cases finished
            · have next := ready.next echoes success
              exact ⟨isStripped_of_echoes returned echoes,
                (induction _ next).mp finished⟩
      · rintro ⟨stripped, others⟩
        obtain ⟨result, returned, echoes⟩ :=
          faithfulExecutor_ok valid hashed digest stripped
        have located' : resultPath platform result.configHash result.itemId =
            .ok path := by
          rw [echoes.configHash_eq, echoes.itemId_eq, located]
        obtain ⟨after, success⟩ := save_free hashes
          ready.holds.manifest_eq (echoes.configHash_eq ▸ registered) located'
          free
        have next := ready.next echoes success
        rw [runItem_accepted missing known returned echoes success]
        exact (induction _ next).mpr others

/-- Every pair that the loops pass counts as completed. -/
theorem runPairs_completed {execute : GoldExecutor}
    {pairs : List (String × GoldItem)} {progress final : Progress}
    (finished : runPairs platform execute configByHash resume pairs progress =
      (.ok (), final)) :
    final.completed = progress.completed + pairs.length := by
  induction pairs generalizing progress with
  | nil =>
      cases finished
      rfl
  | cons pair rest induction =>
      obtain ⟨configHash, item⟩ := pair
      rw [runPairs] at finished
      cases step : runItem platform execute configByHash resume progress
        configHash item with
      | mk outcome after =>
          rw [step] at finished
          rcases runItem_cases step with
            ⟨⟨error, rfl⟩, -⟩ | ⟨_, -, rfl, rfl⟩ | ⟨-, ⟨error, rfl⟩, -⟩ |
            ⟨-, _, _, _, -, -, -, -, rfl, rfl⟩
          · cases finished
          · rw [induction finished, List.length_cons]
            exact Nat.add_right_comm _ _ _
          · cases finished
          · rw [induction finished, List.length_cons]
            exact Nat.add_right_comm _ _ _

/-! ## Before the loops -/

variable {envelope : PreregistrationEnvelope}
  {configs : List ExperimentConfig} {items : List GoldItem}

/-- The preregistration is of these configurations and of this cohort. -/
structure Preregistered (platform : Platform)
    (envelope : PreregistrationEnvelope) (configs : List ExperimentConfig)
    (items : List GoldItem) : Prop where
  verified : verifyEnvelopeHash platform envelope = .ok ()
  configHashes : configs.mapM (fun config => config.semanticHash platform) =
    .ok envelope.preregistration.configHashes
  codeCommit : ∀ config ∈ configs,
    config.codeCommit = envelope.preregistration.codeCommit
  itemCount : items.length = envelope.preregistration.cohort.itemCount
  membership : platform.canonicalJsonHash
    (.array ((items.map fun item => item.itemId).map .str)) =
      .ok envelope.preregistration.cohort.orderedMembershipHash

/-- The configurations under their distinct hashes. -/
theorem configsByHash_ok {configHashes : List String}
    (hashed : configs.mapM (fun config => config.semanticHash platform) =
      .ok configHashes) (distinct : configHashes.Nodup) :
    ∃ configByHash, configsByHash platform configs = .ok configByHash ∧
      configByHash.keys = configHashes ∧
      ∀ configHash ∈ configHashes, ∃ config,
        configByHash.get? configHash = some config ∧
        config.semanticHash platform = .ok configHash := by
  have paired : ∀ (configs : List ExperimentConfig) (configHashes),
      List.Forall₂ (fun config configHash =>
        config.semanticHash platform = .ok configHash) configs configHashes →
      ∃ pairs : List (String × ExperimentConfig),
        configs.mapM (fun config => do
          return (← config.semanticHash platform, config)) = .ok pairs ∧
        pairs.map Prod.fst = configHashes ∧
        ∀ pair ∈ pairs, pair.2.semanticHash platform = .ok pair.1 := by
    intro configs configHashes related
    induction related with
    | nil => exact ⟨[], rfl, rfl, List.forall_mem_nil _⟩
    | @cons config configHash rest hashes first _ induction =>
        obtain ⟨pairs, mapped, names, each⟩ := induction
        refine ⟨(configHash, config) :: pairs, ?_, ?_, ?_⟩
        · rw [List.mapM_cons, mapped, first]
          rfl
        · rw [List.map_cons, names]
        · exact List.forall_mem_cons.mpr ⟨first, each⟩
  obtain ⟨pairs, mapped, names, each⟩ := paired _ _ (mapM_eq_ok.mp hashed)
  have keys : (Dict.ofList pairs).keys = configHashes := by
    rw [Dict.keys, Dict.entries_ofList (names ▸ distinct), names]
  refine ⟨Dict.ofList pairs, ?_, keys, fun configHash member => ?_⟩
  · rw [configsByHash, mapped]
    rfl
  · rw [← keys] at member
    obtain ⟨entry, listed, rfl⟩ := List.mem_map.mp member
    have found := (Dict.get?_eq_some_iff _).mpr listed
    exact ⟨entry.2, found, each _ (Dict.mem_of_get?_ofList found)⟩

theorem itemIdOf_ok {itemId : String} :
    itemIdOf item = .ok itemId ↔
      strip item.itemId ≠ "" ∧ item.itemId = itemId := by
  unfold itemIdOf
  rw [bind_eq_ok]
  constructor
  · rintro ⟨_, passed, same⟩
    exact ⟨raiseIf_eq_ok.mp passed, Except.ok.inj same⟩
  · rintro ⟨written, rfl⟩
    exact ⟨(), raiseIf_eq_ok.mpr written, rfl⟩

theorem itemIds_ok {itemIds : List String} :
    items.mapM itemIdOf = .ok itemIds ↔
      (∀ item ∈ items, strip item.itemId ≠ "") ∧
        items.map (fun item => item.itemId) = itemIds := by
  rw [mapM_eq_ok]
  simp only [itemIdOf_ok]
  rw [List.forall₂_and_left, ← List.forall₂_eq_eq_eq,
    List.forall₂_map_left_iff]

/-- The loaded cohort is in the order of its distinct ids. -/
structure IsOrdered (items : List GoldItem) : Prop where
  sorted : items.Pairwise fun left right => left.itemId ≤ right.itemId
  unique : (items.map fun item => item.itemId).Nodup

theorem orderedItemIds_ok (ordered : IsOrdered items)
    (written : ∀ item ∈ items, strip item.itemId ≠ "") :
    orderedItemIds items = .ok (items.map fun item => item.itemId) := by
  have sorted : sortBy id (items.map fun item => item.itemId) =
      items.map fun item => item.itemId :=
    sortBy_eq_self (List.pairwise_map.mpr ordered.sorted)
  unfold orderedItemIds
  rw [itemIds_ok.mpr ⟨written, rfl⟩]
  change (raiseIf _ _ >>= fun _ => _) = _
  rw [raiseIf_bind (by simp [sorted, ordered.unique])]
  rfl

/-- A run starts with a store that nothing was written to. -/
structure IsFresh (repository : GoldResultRepository) : Prop where
  unbound : repository.manifestFile = none
  empty : repository.results = Dict.empty

/-- The store once the manifest is written. -/
def bound (repository : GoldResultRepository)
    (envelope : PreregistrationEnvelope) : GoldResultRepository :=
  { repository with manifestFile := some (some (manifestOf envelope)) }

theorem initializeRun_ok
    (preregistered : Preregistered platform envelope configs items)
    (ordered : IsOrdered items) (fresh : IsFresh repository)
    (written : ∀ item ∈ items, strip item.itemId ≠ "") :
    repository.initializeRun platform envelope items =
      .ok (bound repository envelope) := by
  unfold initializeRun
  rw [preregistered.verified]
  change (orderedItemIds items >>= fun _ => _) = _
  rw [orderedItemIds_ok ordered written]
  change (platform.canonicalJsonHash _ >>= fun _ => _) = _
  rw [preregistered.membership]
  change (raiseIf _ _ >>= fun _ => _) = _
  rw [raiseIf_bind (by simp [preregistered.itemCount]), fresh.unbound]
  rfl

/-- A run starts when no id is blank. -/
theorem prepare_ok (preregistered : Preregistered platform envelope configs
      items)
    (ordered : IsOrdered items) (fresh : IsFresh repository)
    (written : ∀ item ∈ items, strip item.itemId ≠ "") :
    ∃ configByHash,
      prepare platform repository envelope configs items =
        .ok (items, configByHash, bound repository envelope) ∧
      ∀ configHash ∈ envelope.preregistration.configHashes, ∃ config,
        configByHash.get? configHash = some config ∧
        config.semanticHash platform = .ok configHash := by
  obtain ⟨configByHash, collected, keys, known⟩ :=
    configsByHash_ok preregistered.configHashes envelope.preregistration.unique
  refine ⟨configByHash, ?_, known⟩
  have commits : ¬ (configs.any fun config =>
      config.codeCommit ≠ envelope.preregistration.codeCommit) := by
    simpa using preregistered.codeCommit
  unfold prepare
  rw [itemIds_ok.mpr ⟨written, rfl⟩]
  change (configsByHash platform configs >>= fun _ => _) = _
  rw [collected]
  change (raiseIf _ _ >>= fun _ => _) = _
  rw [raiseIf_bind (not_not.mpr keys), raiseIf_bind commits, sortBy_eq_self ordered.sorted,
    initializeRun_ok preregistered ordered fresh written]
  rfl

/-- Hashes tell the paths of a run apart. -/
def runTexts (envelope : PreregistrationEnvelope) (items : List GoldItem) :
    Set String :=
  {text | text ∈ envelope.preregistration.configHashes ∨
    text ∈ items.map fun item => item.itemId}

theorem ready_bound (apart : platform.TellsApart (runTexts envelope items))
    (ordered : IsOrdered items) (fresh : IsFresh repository)
    (known : ∀ configHash ∈ envelope.preregistration.configHashes,
      ∃ config, configByHash.get? configHash = some config ∧
        config.semanticHash platform = .ok configHash) :
    Ready platform (manifestOf envelope) configByHash
      (runTexts envelope items)
      (pairsOf envelope.preregistration.configHashes items)
      (bound repository envelope) := by
  have parts : ∀ pair ∈ pairsOf envelope.preregistration.configHashes items,
      pair.1 ∈ envelope.preregistration.configHashes ∧ pair.2 ∈ items := by
    intro pair member
    obtain ⟨configHash, listed, member⟩ := List.mem_flatMap.mp member
    obtain ⟨item, listed', rfl⟩ := List.mem_map.mp member
    exact ⟨listed, listed'⟩
  have names : (pairsOf envelope.preregistration.configHashes items).map
      (fun pair => (pair.1, pair.2.itemId)) =
        envelope.preregistration.configHashes.product
          (items.map fun item => item.itemId) := by
    simp only [pairsOf, List.map_flatMap, List.map_map, List.product]
    rfl
  exact
    { apart := apart
      registered := fun _ => .inl
      holds :=
        { bound := rfl
          saved := fun path file found => by
            rw [bound, fresh.empty] at found
            cases found }
      known := fun pair member =>
        ⟨(parts pair member).1,
          envelope.preregistration.digests _ (parts pair member).1,
          known _ (parts pair member).1⟩
      named := fun pair member =>
        .inr (List.mem_map.mpr ⟨_, (parts pair member).2, rfl⟩)
      free := fun pair _ path _ => by
        rw [bound, fresh.empty]
        rfl
      distinct := by
        rw [names]
        exact envelope.preregistration.unique.product ordered.unique }

/-- The summary of a run that passed every pair. -/
def completeSummary (envelope : PreregistrationEnvelope) : GoldRunSummary :=
  { preregistrationHash := envelope.artifactSha256
    completed := envelope.preregistration.cohort.itemCount * 3
    expected := envelope.preregistration.cohort.itemCount * 3 }

theorem pairsOf_length (envelope : PreregistrationEnvelope)
    (items : List GoldItem) :
    (pairsOf envelope.preregistration.configHashes items).length =
      items.length * 3 := by
  have each : ∀ configHashes : List String,
      (pairsOf configHashes items).length =
        configHashes.length * items.length := by
    intro configHashes
    simp [pairsOf, List.length_flatMap]
  rw [each, envelope.preregistration.three, mul_comm]

/-- An executor that echoes the items completes a first run exactly when
stripping leaves every identity field as it is. -/
theorem run_faithful_iff (hashes : platform.HashesCanonically floats)
    (valid : ∀ config item, (score config item).isValid)
    (apart : platform.TellsApart (runTexts envelope items))
    (preregistered : Preregistered platform envelope configs items)
    (ordered : IsOrdered items) (fresh : IsFresh repository) :
    (∃ final executed, run platform repository
        (faithfulExecutor platform score) envelope configs items resume =
          (.ok (completeSummary envelope), final, executed)) ↔
      ∀ item ∈ items, item.IsStripped := by
  have looped : (∀ item ∈ items, strip item.itemId ≠ "") →
      ∃ configByHash,
        prepare platform repository envelope configs items =
          .ok (items, configByHash, bound repository envelope) ∧
        ((runPairs platform (faithfulExecutor platform score) configByHash
            resume (pairsOf envelope.preregistration.configHashes items)
            ⟨bound repository envelope, 0, []⟩).1 = .ok () ↔
          ∀ pair ∈ pairsOf envelope.preregistration.configHashes items,
            pair.2.IsStripped) := by
    intro written
    obtain ⟨configByHash, prepared, known⟩ :=
      prepare_ok preregistered ordered fresh written
    exact ⟨configByHash, prepared, runPairs_faithful_iff hashes valid _ _
      (ready_bound apart ordered fresh known)⟩
  constructor
  · rintro ⟨final, executed, finished⟩ item member
    have written : ∀ item ∈ items, strip item.itemId ≠ "" := by
      unfold run at finished
      split at finished
      · cases finished
      · rename_i ordered' configByHash repository' prepared
        obtain ⟨ids, listed, -⟩ := bind_eq_ok.mp prepared
        exact (itemIds_ok.mp listed).1
    obtain ⟨configByHash, prepared, stripped⟩ := looped written
    unfold run at finished
    rw [prepared] at finished
    dsimp only at finished
    split at finished
    · cases finished
    · rename_i progress passed
      obtain ⟨configHash, listed⟩ := List.exists_mem_of_length_pos
        (by rw [envelope.preregistration.three]; decide :
          0 < envelope.preregistration.configHashes.length)
      refine stripped.mp (congrArg Prod.fst passed) (configHash, item) ?_
      exact List.mem_flatMap.mpr
        ⟨configHash, listed, List.mem_map_of_mem member⟩
  · intro stripped
    have written : ∀ item ∈ items, strip item.itemId ≠ "" := by
      intro item member blank
      have named := item.named
      simp only [GoldFields.isNamed, decide_eq_true_eq] at named
      exact named.1 ((stripped item member).1.symm.trans blank)
    obtain ⟨configByHash, prepared, looped⟩ := looped written
    have passed := looped.mpr fun pair member => by
      obtain ⟨configHash, -, member⟩ := List.mem_flatMap.mp member
      obtain ⟨item, listed, rfl⟩ := List.mem_map.mp member
      exact stripped item listed
    cases looped : runPairs platform (faithfulExecutor platform score)
        configByHash resume
        (pairsOf envelope.preregistration.configHashes items)
        ⟨bound repository envelope, 0, []⟩ with
    | mk outcome progress =>
        rw [looped] at passed
        obtain rfl : outcome = .ok () := passed
        have completed := runPairs_completed looped
        rw [pairsOf_length, preregistered.itemCount, Nat.zero_add] at completed
        refine ⟨progress.repository, progress.executed, ?_⟩
        unfold run
        rw [prepared]
        dsimp only
        rw [looped]
        dsimp only
        rw [completed]
        rfl

/-! ## Sealed cohorts -/

section Cohort

variable {now : Timestamp} {directory sealed : GoldDirectory}
  {cohort : List GoldItem} {name version : String}
  {qualityThresholdMet : Bool} {sealedAt : Option Moment}
  {metadata : GoldMetadata} {authorization : GoldAuthorization}
  {allowGoldAccess : Option String} {command : String} {explicit : Bool}

theorem Sealed.isOrdered
    (kept : Sealed floats platform cohort name version qualityThresholdMet
      directory sealed metadata) :
    IsOrdered (sortBy (fun item => item.itemId) cohort) :=
  { sorted := sortBy_pairwise _ _
    unique := (((sortBy_perm _ cohort).map _).nodup_iff).mpr kept.unique }

/-- A sealed and loaded cohort is evaluated by an executor that echoes it
exactly when stripping leaves its ids, types and clusters as they are. -/
theorem sealed_cohort_evaluated_iff (parser : JsonParser floats)
    (success : sealGold floats platform now directory cohort name version
      qualityThresholdMet sealedAt = .ok (metadata, sealed))
    (authorized : authorizeGoldAccess allowGoldAccess command explicit =
      .ok authorization)
    (loaded : loadSealedGold platform parser sealed name metadata
      authorization = .ok items)
    (hashes : platform.HashesCanonically floats)
    (apart : platform.TellsApart (runTexts envelope items))
    (valid : ∀ config item, (score config item).isValid)
    (preregistered : Preregistered platform envelope configs items)
    (fresh : IsFresh repository) :
    (∃ final executed, run platform repository
        (faithfulExecutor platform score) envelope configs items resume =
          (.ok (completeSummary envelope), final, executed)) ↔
      ∀ item ∈ cohort, item.IsStripped := by
  have kept := sealGold_ok success
  rw [kept.load authorized] at loaded
  obtain rfl := Except.ok.inj loaded
  rw [run_faithful_iff hashes valid apart preregistered kept.isOrdered fresh]
  exact forall_congr' fun item =>
    imp_congr (sortBy_perm _ cohort).mem_iff Iff.rfl

end Cohort

end Faithful

/-! ## A cohort of one question type -/

/-- Marked texts are told apart. -/
theorem markedPlatform_tellsApart {marked : List Bytes} {texts : Set String}
    (short : marked.length < 2 ^ 64)
    (all : ∀ text ∈ texts, canonicalBytes (.str text) ∈ marked) :
    (markedPlatform marked).TellsApart texts := by
  intro left member right _ same
  dsimp only at same
  have first : (Json.str left).isCompliant = true := rfl
  have second : (Json.str right).isCompliant = true := rfl
  rw [markedPlatform_hash marked first, markedPlatform_hash marked second]
    at same
  have bytes := markedSha256_inj short (all left member) (Except.ok.inj same)
  cases same_of_canonicalBytes_eq rfl rfl bytes
  rfl

/-- An experiment with one question of its own. -/
def goldConfig (number : ℕ) : ExperimentConfig :=
  sampleExperiment [String.ofList (List.replicate number 'q')]
    (List.nodup_singleton _) (List.cons_ne_nil _ _)

/-- The items of the sample with the given question type. -/
def typedItem (questionType : String) (nonempty : questionType ≠ "")
    (number : ℕ) : GoldItem :=
  { toGoldFields :=
      { (sampleItem number).toGoldFields with questionType := questionType }
    named := by
      simp [GoldFields.isNamed, sampleItem, List.replicate_succ, nonempty]
    consistent := sampleItem_consistent number }

def typedItems (questionType : String) (nonempty : questionType ≠ "") :
    List GoldItem :=
  (List.range 150).map (typedItem questionType nonempty)

def goldItemIds : List String :=
  (sampleItems 150).map fun item => item.itemId

/-- Marks the three configurations, and the texts whose hashes are paths. -/
def goldMarks : List Bytes :=
  ((List.range 3).map fun number =>
      canonicalBytes ((goldConfig number).dump samplePlatform)) ++
    ((List.range 3).map digestOf ++ goldItemIds).map fun text =>
      canonicalBytes (.str text)

def goldPlatform : Platform :=
  markedPlatform goldMarks

theorem goldConfig_compliant (number : ℕ) :
    ((goldConfig number).dump samplePlatform).isCompliant = true :=
  rfl

/-- Experiments with other questions have other bytes. -/
theorem goldConfig_bytes_inj :
    Function.Injective fun number =>
      canonicalBytes ((goldConfig number).dump samplePlatform) := by
  intro left right same
  have fields := (same_of_canonicalBytes_eq (goldConfig_compliant left)
    (goldConfig_compliant right) same).lookup (by simp) (by simp)
  have questions : (goldConfig left).questionIds =
      (goldConfig right).questionIds := by
    cases fields "question_ids" with
    | some questions => exact texts_of_same questions
  have lengths := congrArg String.length (List.cons.inj questions).1
  simpa using lengths

theorem goldMarks_idxOf {number : ℕ} (small : number < 3) :
    goldMarks.idxOf
      (canonicalBytes ((goldConfig number).dump samplePlatform)) = number := by
  let bytes (number : ℕ) :=
    canonicalBytes ((goldConfig number).dump samplePlatform)
  have nodup : ((List.range 3).map bytes).Nodup :=
    List.nodup_range.map goldConfig_bytes_inj
  have member : bytes number ∈ (List.range 3).map bytes :=
    List.mem_map_of_mem (List.mem_range.mpr small)
  have length : number < ((List.range 3).map bytes).length := by simpa
  have position := nodup.idxOf_getElem number length
  rw [List.getElem_map, List.getElem_range] at position
  exact (List.idxOf_append_of_mem member).trans position

theorem goldConfig_hash {number : ℕ} (small : number < 3) :
    (goldConfig number).semanticHash goldPlatform = .ok (digestOf number) := by
  have hash := markedPlatform_hash goldMarks (goldConfig_compliant number)
  rw [markedSha256, goldMarks_idxOf small] at hash
  exact hash

def samplePreregistration (itemCount : ℕ)
    (literal : itemCount = 150 ∨ itemCount = 300)
    (orderedMembershipHash : String) : GoldPreregistration :=
  { configHashes := (List.range 3).map digestOf
    primaryComparison := ⟨digestOf 0, digestOf 1, .correctness, by decide⟩
    bootstrap := ⟨10000, 7, le_rfl⟩
    exclusions := ["none"]
    stoppingRule := "run once"
    cohort := ⟨digestOf 3, digestOf 4, itemCount, orderedMembershipHash,
      literal⟩
    codeCommit := "0123456"
    protectedOutputPathHash := digestOf 5
    executor := ⟨"ragbench.gold:execute", digestOf 6⟩
    exploratoryComparison := none
    three := rfl
    unique := by decide
    digests := List.forall_mem_map.mpr fun number _ =>
      digestOf_isHexDigest number
    frozen := ⟨List.mem_map_of_mem (by decide),
      List.mem_map_of_mem (by decide)⟩ }

/-- The envelope of a run of the sample configurations on a cohort. -/
def sampleEnvelope (marked : List Bytes) (items : List GoldItem) :
    PreregistrationEnvelope :=
  let membership := markedSha256 marked (canonicalBytes
    (.array ((items.map fun item => item.itemId).map .str)))
  let prereg := samplePreregistration 150 (.inl rfl) membership
  { preregistration := prereg
    artifactSha256 := markedSha256 marked
      (canonicalBytes (prereg.modelDump samplePlatform)) }

def goldConfigs : List ExperimentConfig :=
  (List.range 3).map goldConfig

def sampleScores : GoldScores :=
  { correctness := .finite 1
    faithfulness := .finite 1
    citation := .finite 1
    abstention := .finite 0
    latency := .finite 2
    cost := .finite 3
    hit := .finite 1
    «recall» := .finite 1
    mrr := .finite 1
    outputHash := digestOf 0 }

theorem sampleScores_isValid : sampleScores.isValid = true := by
  simp [sampleScores, GoldScores.isValid, isUnit, isAmount,
    digestOf_isHexDigest]

def emptyStore : GoldResultRepository :=
  { manifestFile := none
    results := Dict.empty
    invalidationFiles := Dict.empty }

theorem emptyStore_isFresh : IsFresh emptyStore :=
  ⟨rfl, rfl⟩

theorem typedItems_ids (questionType : String)
    (nonempty : questionType ≠ "") :
    (typedItems questionType nonempty).map (fun item => item.itemId) =
      goldItemIds := by
  rw [typedItems, goldItemIds, sampleItems, List.map_map, List.map_map]
  rfl

theorem sampleEnvelope_verified (marked : List Bytes)
    (items : List GoldItem) :
    verifyEnvelopeHash (markedPlatform marked) (sampleEnvelope marked items) =
      .ok () := by
  have hash := markedPlatform_hash marked
    (show ((sampleEnvelope marked items).preregistration.modelDump
      samplePlatform).isCompliant = true from rfl)
  exact bind_eq_ok.mpr ⟨_, hash, raiseIf_eq_ok.mpr (not_not.mpr rfl)⟩

section Loaded

variable {items : List GoldItem}
  (listed : (items.map fun item => item.itemId).Perm goldItemIds)

include listed

theorem sample_preregistered :
    Preregistered goldPlatform (sampleEnvelope goldMarks items) goldConfigs
      items :=
  { verified := sampleEnvelope_verified goldMarks items
    configHashes := by
      have small : ∀ number ∈ List.range 3,
          (goldConfig number).semanticHash goldPlatform =
            .ok (digestOf number) :=
        fun number member => goldConfig_hash (List.mem_range.mp member)
      refine mapM_eq_ok.mpr ?_
      rw [goldConfigs]
      change List.Forall₂ _ _ ((List.range 3).map digestOf)
      rw [List.forall₂_map_left_iff, List.forall₂_map_right_iff,
        List.forall₂_same]
      exact small
    codeCommit := by
      simp [goldConfigs, goldConfig, sampleExperiment, sampleEnvelope,
        samplePreregistration]
    itemCount := by
      have length := listed.length_eq
      simp only [goldItemIds, sampleItems, List.length_map,
        List.length_range] at length
      exact length
    membership := markedPlatform_hash goldMarks (Json.compliant_texts _) }

theorem sample_apart :
    goldPlatform.TellsApart (runTexts (sampleEnvelope goldMarks items)
      items) := by
  have short : goldMarks.length < 2 ^ 64 := by
    simp [goldMarks, goldItemIds, sampleItems]
  refine markedPlatform_tellsApart short fun text member => ?_
  refine List.mem_append_right _ (List.mem_map_of_mem ?_)
  rcases member with registered | named
  · exact List.mem_append_left _ registered
  · exact List.mem_append_right _ (listed.mem_iff.mp named)

end Loaded

theorem loaded_ids {questionType : String} {nonempty : questionType ≠ ""}
    {items : List GoldItem}
    (sorted : sortBy (fun item => item.itemId)
      (typedItems questionType nonempty) = items) :
    (items.map fun item => item.itemId).Perm goldItemIds := by
  rw [← sorted, ← typedItems_ids questionType nonempty]
  exact (sortBy_perm _ _).map _

/-- A cohort of this question type is sealed, loaded and preregistered. -/
theorem typedItems_sealed (questionType : String)
    (nonempty : questionType ≠ "") :
    ∃ metadata sealed items,
      sealGold sampleFloats goldPlatform 0 emptyDirectory
        (typedItems questionType nonempty) "gold.jsonl" "v1" false none =
          .ok (metadata, sealed) ∧
      loadSealedGold goldPlatform sampleParser sealed "gold.jsonl" metadata
        sampleAuthorization = .ok items ∧
      sortBy (fun item => item.itemId) (typedItems questionType nonempty) =
        items := by
  have count : (typedItems questionType nonempty).length =
      requiredItems false := by
    rw [typedItems, List.length_map, List.length_range]
    rfl
  have unique : ((typedItems questionType nonempty).map
      fun item => item.itemId).Nodup := by
    rw [typedItems_ids]
    exact sampleItems_unique 150
  obtain ⟨metadata, sealed, success⟩ :=
    sealGold_accepts (markedPlatform_hashes goldMarks)
      (fun _ => digestOf_isHexDigest _) (show strip "v1" ≠ "" by decide)
      count unique
      (show emptyDirectory.openPrivateParent "gold.jsonl" = .ok () from rfl)
      rfl
  have authorized : authorizeGoldAccess (some "1") "sealed-gold-test" true =
      .ok sampleAuthorization := rfl
  exact ⟨metadata, sealed, _, success, (sealGold_ok success).load authorized,
    rfl⟩

theorem factoids_stripped :
    ∀ item ∈ typedItems "factoid" (by decide), item.IsStripped := by
  intro item member
  obtain ⟨number, -, rfl⟩ := List.mem_map.mp member
  refine ⟨strip_eq_self fun character member => ?_,
    show strip "factoid" = "factoid" by decide,
    show strip "cluster" = "cluster" by decide⟩
  have letters : (typedItem "factoid" (by decide) number).itemId.toList =
      List.replicate (number + 1) 'g' := String.toList_ofList
  rw [letters] at member
  rw [List.eq_of_mem_replicate member]
  decide

/-- Factoid questions are evaluated. -/
theorem factoid_cohort_evaluated :
    ∃ metadata sealed items final executed,
      sealGold sampleFloats goldPlatform 0 emptyDirectory
        (typedItems "factoid" (by decide)) "gold.jsonl" "v1" false none =
          .ok (metadata, sealed) ∧
      loadSealedGold goldPlatform sampleParser sealed "gold.jsonl" metadata
        sampleAuthorization = .ok items ∧
      run goldPlatform emptyStore
        (faithfulExecutor goldPlatform fun _ _ => sampleScores)
        (sampleEnvelope goldMarks items) goldConfigs items false =
          (.ok (completeSummary (sampleEnvelope goldMarks items)), final,
            executed) := by
  obtain ⟨metadata, sealed, items, success, loaded, sorted⟩ :=
    typedItems_sealed "factoid" (by decide)
  have authorized : authorizeGoldAccess (some "1") "sealed-gold-test" true =
      .ok sampleAuthorization := rfl
  obtain ⟨final, executed, finished⟩ := (sealed_cohort_evaluated_iff
    sampleParser success authorized loaded (markedPlatform_hashes goldMarks)
    (sample_apart (loaded_ids sorted)) (fun _ _ => sampleScores_isValid)
    (sample_preregistered (loaded_ids sorted)) emptyStore_isFresh).mpr
      factoids_stripped
  exact ⟨metadata, sealed, items, final, executed, success, loaded, finished⟩

/-- The question type `" factoid"` is sealed, and no run accepts its echo. -/
theorem padded_cohort_rejected :
    ∃ metadata sealed items,
      sealGold sampleFloats goldPlatform 0 emptyDirectory
        (typedItems " factoid" (by decide)) "gold.jsonl" "v1" false none =
          .ok (metadata, sealed) ∧
      loadSealedGold goldPlatform sampleParser sealed "gold.jsonl" metadata
        sampleAuthorization = .ok items ∧
      Preregistered goldPlatform (sampleEnvelope goldMarks items) goldConfigs
        items ∧
      ¬ ∃ final executed, run goldPlatform emptyStore
        (faithfulExecutor goldPlatform fun _ _ => sampleScores)
        (sampleEnvelope goldMarks items) goldConfigs items false =
          (.ok (completeSummary (sampleEnvelope goldMarks items)), final,
            executed) := by
  obtain ⟨metadata, sealed, items, success, loaded, sorted⟩ :=
    typedItems_sealed " factoid" (by decide)
  refine ⟨metadata, sealed, items, success, loaded,
    sample_preregistered (loaded_ids sorted), ?_⟩
  have ordered : IsOrdered items := by
    rw [← sorted]
    exact (sealGold_ok success).isOrdered
  intro finished
  have member : typedItem " factoid" (by decide) 0 ∈ items := by
    rw [← sorted, (sortBy_perm _ _).mem_iff]
    exact List.mem_map_of_mem (List.mem_range.mpr (by decide))
  have stripped := ((run_faithful_iff (markedPlatform_hashes goldMarks)
    (fun _ _ => sampleScores_isValid) (sample_apart (loaded_ids sorted))
    (sample_preregistered (loaded_ids sorted)) ordered
    emptyStore_isFresh).mp finished _ member).2.1
  exact absurd stripped (show strip " factoid" ≠ " factoid" by decide)

end RagBench
