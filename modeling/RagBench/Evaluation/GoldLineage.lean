import RagBench.Evaluation.GoldCohort

/-!
# One preregistration for each store

The operations on a store are the events of a history.  Whatever their order,
the first run that passes its checks fixes the cohort, and only a complete and
valid store of this cohort is aggregated.
-/

namespace RagBench

open GoldResultRepository GoldReport

variable {arithmetic : FloatArithmetic} {random : Random}
  {platform : Platform} {repository before after start : GoldResultRepository}
  {envelope first : PreregistrationEnvelope} {items : List GoldItem}
  {cohort : List String} {memberships dumps : Set Json}

/-! ## Histories -/

/-- What happened to a store. -/
inductive GoldEvent where
  /-- A run, finished or not, with the pairs that it asked for. -/
  | ran (envelope : PreregistrationEnvelope) (items : List GoldItem)
      (executed : List (String × String))
  /-- An invalidation that was recorded. -/
  | invalidated
  /-- A failed invalidation, or an aggregation. -/
  | unchanged

def GoldEvent.isInvalidation : GoldEvent → Bool
  | .invalidated => true
  | _ => false

/-- The values whose hashes the runs compare. -/
structure IsRecorded (platform : Platform) (memberships dumps : Set Json)
    (events : List GoldEvent) : Prop where
  membership : ∀ envelope items executed,
    .ran envelope items executed ∈ events →
      .array ((cohortIds items).map .str) ∈ memberships
  dump : ∀ envelope items executed, .ran envelope items executed ∈ events →
    envelope.preregistration.modelDump platform ∈ dumps

/-- Every operation on a store, whatever it is given and however it ends. -/
inductive GoldStep (arithmetic : FloatArithmetic) (random : Random)
    (platform : Platform) :
    GoldResultRepository → GoldEvent → GoldResultRepository → Prop where
  | run {repository after : GoldResultRepository} {execute : GoldExecutor}
      {envelope : PreregistrationEnvelope} {configs : List ExperimentConfig}
      {items : List GoldItem} {resume : Bool}
      {outcome : Except PyException GoldRunSummary}
      {executed : List (String × String)}
      (performed : GoldRunner.run platform repository execute envelope
        configs items resume = (outcome, after, executed)) :
      GoldStep arithmetic random platform repository
        (.ran envelope items executed) after
  | invalidate {repository after : GoldResultRepository}
      {reason replacementCodeCommit : String} {invalidatedAt : Moment}
      {record : InvalidationRecord}
      (success : repository.appendInvalidation reason replacementCodeCommit
        invalidatedAt = .ok (record, after)) :
      GoldStep arithmetic random platform repository .invalidated after
  | refuse {repository : GoldResultRepository}
      {reason replacementCodeCommit : String} {invalidatedAt : Moment}
      {error : PyException}
      (failed : repository.appendInvalidation reason replacementCodeCommit
        invalidatedAt = .error error) :
      GoldStep arithmetic random platform repository .unchanged repository
  | aggregate {repository : GoldResultRepository}
      {envelope : PreregistrationEnvelope} {salt : String}
      {outcome : Except PyException PublicGoldReport}
      (performed : aggregateGoldResults arithmetic random platform repository
        envelope salt = outcome) :
      GoldStep arithmetic random platform repository .unchanged repository

/-- Nothing was written below the root yet. -/
structure IsUntouched (repository : GoldResultRepository) : Prop
    extends IsFresh repository where
  uninvalidated : repository.invalidationFiles = Dict.empty

/-! ## One step -/

/-- A run from a store of any permitted results. -/
theorem run_ran {allowed : GoldEvaluationResult → Prop}
    {execute : GoldExecutor} {configs : List ExperimentConfig} {resume : Bool}
    {outcome : Except PyException GoldRunSummary}
    {executed : List (String × String)}
    (stored : repository.results = Dict.empty ∨
      ∃ manifest, Holds platform manifest allowed repository)
    (permitted : ∀ item ∈ items, ∀ result : GoldEvaluationResult,
      IsPreregistered platform envelope (cohortIds items) →
      (repository.manifestFile = none ∨
        repository.manifestFile = some (some (manifestOf envelope))) →
      result.itemId = item.itemId → allowed result)
    (performed : GoldRunner.run platform repository execute envelope configs
      items resume = (outcome, after, executed)) :
    (after = repository ∧ executed = []) ∨
    IsPreregistered platform envelope (cohortIds items) ∧
      (repository.manifestFile = none ∨
        repository.manifestFile = some (some (manifestOf envelope))) ∧
      Holds platform (manifestOf envelope) allowed after ∧
      Grows repository after ∧
      after.invalidationFiles = repository.invalidationFiles ∧
      executed.Sublist (envelope.preregistration.configHashes.product
        (cohortIds items)) ∧
      ∀ pair ∈ executed, ∃ path,
        resultPath platform pair.1 pair.2 = .ok path ∧
          repository.results.get? path = none := by
  rcases run_cases performed with ⟨rfl, rfl, -⟩ |
    ⟨configByHash, started, loops, final, preregistered, from_start, looped,
      rfl, rfl, -⟩
  · exact .inl ⟨rfl, rfl⟩
  have same : started.results = repository.results ∧
      started.invalidationFiles = repository.invalidationFiles := by
    rcases from_start with ⟨-, rfl⟩ | ⟨-, rfl⟩ <;> exact ⟨rfl, rfl⟩
  have boundStart : started.manifestFile =
      some (some (manifestOf envelope)) := by
    rcases from_start with ⟨-, rfl⟩ | ⟨known, rfl⟩
    · rfl
    · exact known
  have unboundOrSame := from_start.imp And.left And.left
  have growStart : Grows repository started := by
    rcases from_start with ⟨unbound, rfl⟩ | ⟨-, rfl⟩
    · refine ⟨fun manifest known => ?_, fun _ _ => id, fun _ _ => id⟩
      rw [unbound] at known
      cases known
    · exact .refl _
  have holds : Holds platform (manifestOf envelope) allowed started := by
    rcases stored with empty | ⟨manifest, holds⟩
    · exact ⟨boundStart, fun path file found => by
        rw [same.1, empty] at found
        cases found⟩
    · have known := growStart.manifest manifest holds.bound
      rw [boundStart] at known
      obtain rfl := Option.some_inj.mp (Option.some_inj.mp known)
      exact ⟨boundStart, fun path file found =>
        holds.saved path file (same.1 ▸ found)⟩
  obtain ⟨executed, history, ran⟩ := runPairs_ran holds
    (fun pair member result echoes => permitted pair.2
      ((sortBy_perm _ _).mem_iff.mp (mem_pairsOf.mp member).2) result
      preregistered unboundOrSame echoes.itemId_eq) looped
  obtain rfl : executed = final.executed := history.symm
  refine .inr ⟨preregistered, unboundOrSame, ran.holds,
    growStart.trans ran.grows, ran.invalidations.trans same.2, ?_,
    fun pair member => ?_⟩
  · have ordered := ran.inOrder
    rwa [pairsOf_names] at ordered
  · obtain ⟨path, located, missing⟩ := ran.missing pair member
    exact ⟨path, located, same.1 ▸ missing⟩

theorem GoldStep.grows {event : GoldEvent}
    (step : GoldStep arithmetic random platform before event after)
    (stored : before.results = Dict.empty ∨ ∃ manifest,
      Holds platform manifest (fun _ => True) before) :
    Grows before after := by
  cases step with
  | run performed =>
      rcases run_ran stored (fun _ _ _ _ _ _ => trivial) performed with
        ⟨rfl, -⟩ | ⟨-, -, -, grows, -⟩
      · exact .refl _
      · exact grows
  | invalidate success => exact appendInvalidation_grows success
  | refuse => exact .refl _
  | aggregate => exact .refl _

/-! ## Founded stores -/

/-- Every run that asked for an answer ran this cohort in this order. -/
def SharesCohort (first : PreregistrationEnvelope) (cohort : List String)
    (events : List GoldEvent) : Prop :=
  ∀ envelope items executed, .ran envelope items executed ∈ events →
    executed ≠ [] →
      envelope.preregistration.configHashes =
          first.preregistration.configHashes ∧
        cohortIds items = cohort ∧
        executed.Sublist (first.preregistration.configHashes.product cohort)

/-- The run of the history that wrote the manifest. -/
def IsFoundedBy (arithmetic : FloatArithmetic) (random : Random)
    (platform : Platform) (start : GoldResultRepository)
    (first : PreregistrationEnvelope) (items : List GoldItem)
    (events : List GoldEvent) (repository : GoldResultRepository) : Prop :=
  ∃ early late executed before after,
    events = early ++ .ran first items executed :: late ∧
      Run (GoldStep arithmetic random platform) start early before ∧
      before.manifestFile = none ∧
      GoldStep arithmetic random platform before (.ran first items executed)
        after ∧
      after.manifestFile = some (some (manifestOf first)) ∧
      Run (GoldStep arithmetic random platform) after late repository

/-- What the history of a store says about the store: nothing was written, or
a first run has fixed the cohort. -/
inductive IsLineage (arithmetic : FloatArithmetic) (random : Random)
    (platform : Platform) (start : GoldResultRepository)
    (events : List GoldEvent) (repository : GoldResultRepository) : Prop where
  | untouched (untouched : IsUntouched repository)
      (idle : ∀ envelope items executed,
        .ran envelope items executed ∈ events → executed = [])
      (valid : events.countP GoldEvent.isInvalidation = 0)
  | founded (first : PreregistrationEnvelope) (items : List GoldItem)
      (event : ∃ executed, .ran first items executed ∈ events)
      (founding : IsFoundedBy arithmetic random platform start first items
        events repository)
      (preregistered : IsPreregistered platform first (cohortIds items))
      (holds : Holds platform (manifestOf first)
        (fun result => result.itemId ∈ cohortIds items) repository)
      (shares : SharesCohort first (cohortIds items) events)
      (numbered : IsNumbered (events.countP GoldEvent.isInvalidation)
        repository)

namespace IsFoundedBy

variable {events : List GoldEvent} {event : GoldEvent}

theorem snoc
    (founding : IsFoundedBy arithmetic random platform start first items
      events before)
    (step : GoldStep arithmetic random platform before event after) :
    IsFoundedBy arithmetic random platform start first items
      (events ++ [event]) after := by
  obtain ⟨early, late, executed, unbound, bound, rfl, earlier, missing, ran,
    written, later⟩ := founding
  refine ⟨early, late ++ [event], executed, unbound, bound, ?_, earlier,
    missing, ran, written, later.snoc step⟩
  rw [List.append_assoc, List.cons_append]

end IsFoundedBy

theorem SharesCohort.snoc {events : List GoldEvent} {event : GoldEvent}
    (shares : SharesCohort first cohort events)
    (here : SharesCohort first cohort [event]) :
    SharesCohort first cohort (events ++ [event]) := by
  intro envelope items executed member asked
  rcases List.mem_append.mp member with earlier | last
  · exact shares envelope items executed earlier asked
  · exact here envelope items executed last asked

theorem sharesCohort_unchanged {event : GoldEvent}
    (other : ∀ envelope items executed,
      event ≠ .ran envelope items executed) :
    SharesCohort first cohort [event] := by
  intro envelope items executed member
  exact absurd (List.mem_singleton.mp member).symm (other _ _ _)

/-- Envelopes of the same manifest that pass the checks have the same
cohort. -/
theorem IsPreregistered.cohort_eq {other : PreregistrationEnvelope}
    {cohort' : List String} (separates : platform.Separates memberships)
    (preregistered : IsPreregistered platform first cohort)
    (preregistered' : IsPreregistered platform other cohort')
    (known : .array (cohort.map .str) ∈ memberships)
    (known' : .array (cohort'.map .str) ∈ memberships)
    (same : manifestOf other = manifestOf first) : cohort' = cohort := by
  have hashes := congrArg ProtectedManifest.orderedMembershipHash same
  have membership := preregistered'.membership
  rw [show other.preregistration.cohort.orderedMembershipHash =
    first.preregistration.cohort.orderedMembershipHash from hashes]
    at membership
  exact texts_of_same (separates _ known' _ known _ membership
    preregistered.membership)

/-! ## Every history -/

theorem countP_snoc (events : List GoldEvent) (event : GoldEvent) :
    (events ++ [event]).countP GoldEvent.isInvalidation =
      events.countP GoldEvent.isInvalidation +
        if event.isInvalidation then 1 else 0 := by
  rw [List.countP_append, List.countP_singleton]

namespace IsLineage

variable {events : List GoldEvent} {event : GoldEvent}

/-- A run founds the store, runs its cohort again, or does nothing. -/
theorem run {executed : List (String × String)}
    (separates : platform.Separates memberships)
    (recorded : IsRecorded platform memberships dumps
      (events ++ [.ran envelope items executed]))
    (history : Run (GoldStep arithmetic random platform) start events before)
    (lineage : IsLineage arithmetic random platform start events before)
    (step : GoldStep arithmetic random platform before
      (.ran envelope items executed) after) :
    IsLineage arithmetic random platform start
      (events ++ [.ran envelope items executed]) after := by
  have known := recorded.membership _ _ _
    (List.mem_append_right _ List.mem_cons_self)
  have count := countP_snoc events (.ran envelope items executed)
  cases lineage with
  | untouched untouched idle valid =>
      cases step with
      | run performed =>
          have inside : ∀ item ∈ items, ∀ result : GoldEvaluationResult,
              result.itemId = item.itemId →
                result.itemId ∈ cohortIds items :=
            fun item inItems result same => same ▸ List.mem_map_of_mem
              ((sortBy_perm _ _).mem_iff.mpr inItems)
          rcases run_ran (.inl untouched.empty)
            (fun item inItems result _ _ same =>
              inside item inItems result same) performed with
            ⟨rfl, rfl⟩ | ⟨preregistered, -, holds, -, invalidations, ordered,
              -⟩
          · refine .untouched untouched ?_ ?_
            · intro envelope' items' executed' member
              rcases List.mem_append.mp member with earlier | last
              · exact idle _ _ _ earlier
              · cases List.mem_singleton.mp last
                rfl
            · rw [count, valid]
              rfl
          · refine .founded envelope items
              ⟨executed, List.mem_append_right _ List.mem_cons_self⟩
              ⟨events, [], executed, before, after, rfl, history,
                untouched.unbound, .run performed, holds.bound, .refl⟩
              preregistered holds ?_ ?_
            · intro envelope' items' executed' member asked
              rcases List.mem_append.mp member with earlier | last
              · exact absurd (idle _ _ _ earlier) asked
              · cases List.mem_singleton.mp last
                exact ⟨rfl, rfl, ordered⟩
            · rw [count, valid]
              refine ⟨?_, fun number positive small => ?_⟩
              · rw [invalidations, untouched.uninvalidated]
                rfl
              · have none : number ≤ 0 := small
                omega
  | founded first items' event founding preregistered holds shares numbered =>
      have again := founding.snoc step
      obtain ⟨executed', ran⟩ := event
      have known' := recorded.membership _ _ _ (List.mem_append_left _ ran)
      have sameCohort : IsPreregistered platform envelope (cohortIds items) →
          (before.manifestFile = none ∨
            before.manifestFile = some (some (manifestOf envelope))) →
          manifestOf envelope = manifestOf first ∧
            cohortIds items = cohortIds items' := by
        intro preregistered' state
        rw [holds.bound] at state
        have same := Option.some_inj.mp (Option.some_inj.mp
          (state.resolve_left (Option.some_ne_none _)))
        exact ⟨same.symm, preregistered.cohort_eq separates preregistered'
          known' known same.symm⟩
      cases step with
      | run performed =>
          rcases run_ran (.inr ⟨_, holds⟩)
            (fun item inItems result preregistered' state same => by
              rw [← (sameCohort preregistered' state).2, same]
              exact List.mem_map_of_mem
                ((sortBy_perm _ _).mem_iff.mpr inItems)) performed with
            ⟨rfl, rfl⟩ | ⟨preregistered', state, holds', -, invalidations,
              ordered, -⟩
          · refine .founded first items'
              ⟨executed', List.mem_append_left _ ran⟩ again preregistered
              holds (shares.snoc ?_) ?_
            · intro envelope' items'' executed'' member asked
              cases List.mem_singleton.mp member
              exact absurd rfl asked
            · rw [count]
              exact numbered
          · obtain ⟨manifests, cohorts⟩ := sameCohort preregistered' state
            have configs : envelope.preregistration.configHashes =
                first.preregistration.configHashes :=
              congrArg ProtectedManifest.configHashes manifests
            refine .founded first items'
              ⟨executed', List.mem_append_left _ ran⟩ again preregistered
              (manifests ▸ holds') (shares.snoc ?_) ?_
            · intro envelope' items'' executed'' member asked
              cases List.mem_singleton.mp member
              exact ⟨configs, cohorts, configs ▸ cohorts ▸ ordered⟩
            · rw [count]
              exact ⟨by rw [invalidations]; exact numbered.length,
                by rw [invalidations]; exact numbered.recorded⟩

/-- Only a store that is bound takes an invalidation. -/
theorem invalidate {reason replacementCodeCommit : String}
    {invalidatedAt : Moment} {record : InvalidationRecord}
    (lineage : IsLineage arithmetic random platform start events before)
    (success : before.appendInvalidation reason replacementCodeCommit
      invalidatedAt = .ok (record, after)) :
    IsLineage arithmetic random platform start (events ++ [.invalidated])
      after := by
  have step : GoldStep arithmetic random platform before .invalidated after :=
    .invalidate success
  have count := countP_snoc events .invalidated
  cases lineage with
  | untouched untouched =>
      obtain ⟨-, ⟨manifest, bound⟩, -⟩ := appendInvalidation_ok success
      rw [GoldResultRepository.manifest, untouched.unbound] at bound
      cases bound
  | founded first items event founding preregistered holds shares numbered =>
      have numbered' := numbered.append success
      obtain ⟨executed, ran⟩ := event
      obtain ⟨-, -, -, same⟩ := appendInvalidation_ok success
      refine .founded first items ⟨executed, List.mem_append_left _ ran⟩
        (founding.snoc step) preregistered ?_
        (shares.snoc (sharesCohort_unchanged ?_)) ?_
      · rw [same]
        exact ⟨holds.bound, holds.saved⟩
      · rintro _ _ _ ⟨⟩
      · rw [count]
        exact numbered'

theorem unchanged
    (lineage : IsLineage arithmetic random platform start events before)
    (step : GoldStep arithmetic random platform before .unchanged before) :
    IsLineage arithmetic random platform start (events ++ [.unchanged])
      before := by
  have count := countP_snoc events .unchanged
  cases lineage with
  | untouched untouched idle valid =>
      refine .untouched untouched ?_ (count.trans valid)
      intro envelope items executed member
      rcases List.mem_append.mp member with earlier | last
      · exact idle _ _ _ earlier
      · cases List.mem_singleton.mp last
  | founded first items event founding preregistered holds shares numbered =>
      obtain ⟨executed, ran⟩ := event
      exact .founded first items ⟨executed, List.mem_append_left _ ran⟩
        (founding.snoc step) preregistered holds
        (shares.snoc (sharesCohort_unchanged fun _ _ _ => nofun))
        (count.symm ▸ numbered)

theorem stored
    (lineage : IsLineage arithmetic random platform start events repository) :
    repository.results = Dict.empty ∨ ∃ manifest,
      Holds platform manifest (fun _ => True) repository := by
  cases lineage with
  | untouched untouched => exact .inl untouched.empty
  | founded first _ _ _ _ holds =>
      exact .inr ⟨_, holds.imp fun _ _ => trivial⟩

theorem isNumbered
    (lineage : IsLineage arithmetic random platform start events repository) :
    IsNumbered (events.countP GoldEvent.isInvalidation) repository := by
  cases lineage with
  | untouched untouched _ valid =>
      rw [valid]
      refine ⟨by rw [untouched.uninvalidated]; rfl, ?_⟩
      intro number positive small
      omega
  | founded _ _ _ _ _ _ _ numbered => exact numbered

end IsLineage

theorem history_lineage {events : List GoldEvent}
    (separates : platform.Separates memberships)
    (recorded : IsRecorded platform memberships dumps events)
    (untouched : IsUntouched start)
    (history : Run (GoldStep arithmetic random platform) start events
      repository) :
    IsLineage arithmetic random platform start events repository := by
  induction history with
  | refl =>
      exact .untouched untouched (fun _ _ _ member => nomatch member) rfl
  | snoc earlier step induction =>
      have lineage := induction
        ⟨fun _ _ _ member =>
          recorded.membership _ _ _ (List.mem_append_left _ member),
        fun _ _ _ member =>
          recorded.dump _ _ _ (List.mem_append_left _ member)⟩
      cases step with
      | run performed =>
          exact lineage.run separates recorded earlier (.run performed)
      | invalidate success => exact lineage.invalidate success
      | refuse failed => exact lineage.unchanged (.refuse failed)
      | aggregate performed => exact lineage.unchanged (.aggregate performed)

/-- Whatever happens later, nothing that is stored is lost. -/
theorem later_grows {events : List GoldEvent}
    (stored : repository.results = Dict.empty ∨ ∃ manifest,
      Holds platform manifest (fun _ => True) repository)
    (later : Run (GoldStep arithmetic random platform) repository events
      after) :
    Grows repository after ∧ (after.results = Dict.empty ∨ ∃ manifest,
      Holds platform manifest (fun _ => True) after) := by
  induction later with
  | refl => exact ⟨.refl _, stored⟩
  | snoc _ step induction =>
      obtain ⟨grown, stored⟩ := induction
      refine ⟨grown.trans (step.grows stored), ?_⟩
      cases step with
      | run performed =>
          rcases run_ran stored (fun _ _ _ _ _ _ => trivial) performed with
            ⟨rfl, -⟩ | ⟨-, -, holds, -⟩
          · exact stored
          · exact .inr ⟨_, holds⟩
      | invalidate success =>
          obtain ⟨-, -, -, rfl⟩ := appendInvalidation_ok success
          exact stored.imp id fun ⟨manifest, holds⟩ =>
            ⟨manifest, holds.bound, holds.saved⟩
      | refuse => exact stored
      | aggregate => exact stored

/-! ## Aggregation -/

/-- A successful aggregation found the manifest of its envelope, no
invalidation, and results of every configuration for the same number of
items. -/
theorem aggregateGoldResults_spec {salt : String} {report : PublicGoldReport}
    (success : aggregateGoldResults arithmetic random platform repository
      envelope salt = .ok report) :
    verifyEnvelopeHash platform envelope = .ok () ∧
      repository.manifest = .ok (manifestOf envelope) ∧
      repository.invalidations = .ok [] ∧
      ∃ rows, repository.allResults platform = .ok rows ∧
        ∀ configHash ∈ envelope.preregistration.configHashes,
          (rowsOf rows configHash).length =
            envelope.preregistration.cohort.itemCount := by
  obtain ⟨_, -, success⟩ := bind_eq_ok.mp success
  obtain ⟨_, asserted, success⟩ := bind_eq_ok.mp success
  obtain ⟨invalidations, read, success⟩ := bind_eq_ok.mp success
  obtain ⟨_, none, success⟩ := bind_eq_ok.mp success
  obtain ⟨rows, listed, success⟩ := bind_eq_ok.mp success
  obtain ⟨_, -, success⟩ := bind_eq_ok.mp success
  obtain ⟨_, cohorts, -⟩ := bind_eq_ok.mp success
  obtain ⟨_, verified, asserted⟩ := bind_eq_ok.mp asserted
  obtain ⟨manifest, known, same⟩ := bind_eq_ok.mp asserted
  rw [not_not.mp (raiseIf_eq_ok.mp none)] at read
  rw [not_not.mp (raiseIf_eq_ok.mp same)] at known
  exact ⟨verified, known, read, rows, listed,
    (cohortsDiffer_iff.mp (raiseIf_eq_ok.mp cohorts)).1⟩

/-- The store has one result for each configuration and item of the cohort, and
no other result. -/
structure HasEveryResult (platform : Platform)
    (envelope : PreregistrationEnvelope) (cohort : List String)
    (repository : GoldResultRepository) : Prop where
  unique : ∀ configHash ∈ envelope.preregistration.configHashes,
    ∀ itemId ∈ cohort, ∃! row : GoldEvaluationResult,
      IsRead platform (manifestOf envelope) repository row ∧
        row.configHash = configHash ∧ row.itemId = itemId
  inside : ∀ row, IsRead platform (manifestOf envelope) repository row →
    row.itemId ∈ cohort

theorem hasEveryResult {rows : List GoldEvaluationResult}
    (holds : Holds platform (manifestOf envelope)
      (fun result => result.itemId ∈ cohort) repository)
    (itemCount : cohort.length = envelope.preregistration.cohort.itemCount)
    (distinct : cohort.Nodup)
    (listed : repository.allResults platform = .ok rows)
    (complete : ∀ configHash ∈ envelope.preregistration.configHashes,
      (rowsOf rows configHash).length =
        envelope.preregistration.cohort.itemCount) :
    HasEveryResult platform envelope cohort repository := by
  obtain ⟨read, separate⟩ := allResults_spec holds.manifest_eq
    envelope.preregistration.unique listed
  have inside : ∀ row,
      IsRead platform (manifestOf envelope) repository row →
        row.itemId ∈ cohort :=
    fun row isRead => (holds.isStored isRead).2
  refine ⟨fun configHash registered itemId member => ?_, inside⟩
  -- There are as many different results as items of the cohort.
  have subset : itemSet (rowsOf rows configHash) ⊆ cohort.toFinset := by
    intro id found
    obtain ⟨row, inRows, rfl⟩ := List.mem_map.mp (List.mem_toFinset.mp found)
    exact List.mem_toFinset.mpr
      (inside row (read row (List.mem_filter.mp inRows).1))
  have cards : cohort.toFinset.card ≤
      (itemSet (rowsOf rows configHash)).card := by
    rw [itemSet, List.toFinset_card_of_nodup
        (rowsOf_distinct separate configHash), List.length_map,
      List.toFinset_card_of_nodup distinct, itemCount,
      complete configHash registered]
  have found : itemId ∈ itemSet (rowsOf rows configHash) := by
    rw [Finset.eq_of_subset_of_card_le subset cards]
    exact List.mem_toFinset.mpr member
  obtain ⟨row, inRows, rfl⟩ := List.mem_map.mp (List.mem_toFinset.mp found)
  obtain ⟨inAll, config⟩ := List.mem_filter.mp inRows
  have same : row.configHash = configHash := of_decide_eq_true config
  refine ⟨row, ⟨read row inAll, same, rfl⟩, ?_⟩
  rintro other ⟨⟨-, path, file, located, present, isRead⟩, config, item⟩
  obtain ⟨-, path', file', located', present', isRead'⟩ := read row inAll
  rw [config, item, ← same, located'] at located
  obtain rfl := Except.ok.inj located
  rw [present'] at present
  obtain rfl := Option.some_inj.mp present
  exact Except.ok.inj (isRead.symm.trans isRead')

/-! ## The whole history -/

/-- What holds of a store after any history of operations. -/
structure IsAppendOnly (arithmetic : FloatArithmetic) (random : Random)
    (platform : Platform) (dumps : Set Json) (start : GoldResultRepository)
    (events : List GoldEvent) (repository : GoldResultRepository) :
    Prop where
  /-- Nothing that is stored is replaced or removed later. -/
  grows : ∀ later after,
    Run (GoldStep arithmetic random platform) repository later after →
      Grows repository after
  /-- A run asks only for pairs without a result, each once. -/
  asks : ∀ {execute envelope configs items resume outcome after executed},
    GoldRunner.run platform repository execute envelope configs items
        resume = (outcome, after, executed) →
      executed.Nodup ∧ ∀ pair ∈ executed, ∃ path,
        resultPath platform pair.1 pair.2 = .ok path ∧
          repository.results.get? path = none
  /-- All runs that asked were of one cohort, in one order. -/
  shares : ∃ (configHashes cohort : List String),
    cohort.Pairwise (· ≤ ·) ∧ cohort.Nodup ∧
    ∀ envelope items executed, .ran envelope items executed ∈ events →
      executed ≠ [] →
        envelope.preregistration.configHashes = configHashes ∧
          cohortIds items = cohort ∧
          executed.Sublist (configHashes.product cohort)
  /-- Only a complete store is aggregated, under the preregistration of its
  first run, and never after an invalidation. -/
  aggregates : ∀ envelope salt report,
    envelope.preregistration.modelDump platform ∈ dumps →
    aggregateGoldResults arithmetic random platform repository envelope
        salt = .ok report →
      (∀ event ∈ events, event.isInvalidation = false) ∧
      ∃ first items,
        IsFoundedBy arithmetic random platform start first items events
          repository ∧
        (first.preregistration.modelDump platform).Same
          (envelope.preregistration.modelDump platform) ∧
        HasEveryResult platform envelope (cohortIds items) repository
  numbered : IsNumbered (events.countP GoldEvent.isInvalidation) repository

theorem dump_same
    (separates : platform.Separates dumps)
    (known : first.preregistration.modelDump platform ∈ dumps)
    (known' : envelope.preregistration.modelDump platform ∈ dumps)
    (verified : verifyEnvelopeHash platform first = .ok ())
    (verified' : verifyEnvelopeHash platform envelope = .ok ())
    (same : manifestOf envelope = manifestOf first) :
    (first.preregistration.modelDump platform).Same
      (envelope.preregistration.modelDump platform) := by
  obtain ⟨actual, hashed, verified⟩ := bind_eq_ok.mp verified
  obtain ⟨actual', hashed', verified'⟩ := bind_eq_ok.mp verified'
  rw [not_not.mp (raiseIf_eq_ok.mp verified)] at hashed
  rw [not_not.mp (raiseIf_eq_ok.mp verified'),
    show envelope.artifactSha256 = first.artifactSha256 from
      congrArg ProtectedManifest.preregistrationHash same] at hashed'
  exact separates _ known _ known' _ hashed hashed'

/-- The gold store is append-only and bound to the preregistration of its first
run, whatever is done to it. -/
theorem gold_store_append_only {events : List GoldEvent}
    (separates : platform.Separates memberships)
    (separates' : platform.Separates dumps)
    (recorded : IsRecorded platform memberships dumps events)
    (untouched : IsUntouched start)
    (history : Run (GoldStep arithmetic random platform) start events
      repository) :
    IsAppendOnly arithmetic random platform dumps start events
      repository := by
  have lineage := history_lineage separates recorded untouched history
  refine ⟨fun later after run => (later_grows lineage.stored run).1, ?_, ?_,
    ?_, lineage.isNumbered⟩
  · intro execute envelope configs items resume outcome after executed
      performed
    rcases run_ran lineage.stored (fun _ _ _ _ _ _ => trivial) performed with
      ⟨-, rfl⟩ | ⟨preregistered, -, -, -, -, ordered, missing⟩
    · exact ⟨List.nodup_nil, List.forall_mem_nil _⟩
    · exact ⟨(envelope.preregistration.unique.product
        preregistered.unique).sublist ordered, missing⟩
  · cases lineage with
    | untouched _ idle _ =>
        exact ⟨[], [], .nil, .nil, fun _ _ _ member asked =>
          absurd (idle _ _ _ member) asked⟩
    | founded first items _ _ preregistered _ shares _ =>
        exact ⟨_, cohortIds items,
          List.pairwise_map.mpr (sortBy_pairwise _ items),
          preregistered.unique, shares⟩
  · intro envelope salt report known success
    obtain ⟨verified, bound, uninvalidated, rows, listed, complete⟩ :=
      aggregateGoldResults_spec success
    have numbered := lineage.isNumbered
    have none : events.countP GoldEvent.isInvalidation = 0 := by
      rw [← numbered.length, ← invalidations_length uninvalidated]
      rfl
    refine ⟨fun event member => ?_, ?_⟩
    · exact Bool.eq_false_iff.mpr (List.countP_eq_zero.mp none event member)
    cases lineage with
    | untouched untouched =>
        rw [GoldResultRepository.manifest, untouched.unbound] at bound
        cases bound
    | founded first items event founding preregistered holds =>
        obtain ⟨executed, ran⟩ := event
        have same : manifestOf first = manifestOf envelope :=
          Except.ok.inj (holds.manifest_eq.symm.trans bound)
        refine ⟨first, items, founding, ?_, ?_⟩
        · exact dump_same separates'
            (recorded.dump _ _ _ ran) known preregistered.verified verified
            same.symm
        · refine hasEveryResult (same ▸ holds) ?_ preregistered.unique listed
            complete
          exact preregistered.itemCount.trans
            (congrArg ProtectedManifest.itemCount same)

theorem separates_singleton (value : Json) :
    platform.Separates {value} := by
  rintro _ rfl _ rfl _ _ _
  exact Json.Same.refl _

/-- The history of a complete run. -/
theorem factoid_run_append_only :
    ∃ items after executed,
      GoldRunner.run goldPlatform emptyStore
        (faithfulExecutor goldPlatform fun _ _ => sampleScores)
        (sampleEnvelope goldMarks items) goldConfigs items false =
          (.ok (completeSummary (sampleEnvelope goldMarks items)), after,
            executed) ∧
      IsAppendOnly sampleArithmetic sampleRandom goldPlatform
        {(sampleEnvelope goldMarks items).preregistration.modelDump
          goldPlatform} emptyStore
        [.ran (sampleEnvelope goldMarks items) items executed] after := by
  obtain ⟨metadata, sealed, items, success, -, sorted⟩ :=
    typedItems_sealed "factoid" (by decide)
  have ordered : IsOrdered items := by
    rw [← sorted]
    exact (sealGold_ok success).isOrdered
  have stripped : ∀ item ∈ items, item.IsStripped := by
    intro item member
    rw [← sorted, (sortBy_perm _ _).mem_iff] at member
    exact factoids_stripped item member
  obtain ⟨after, executed, finished⟩ :=
    (run_faithful_iff (markedPlatform_hashes goldMarks)
      (fun _ _ => sampleScores_isValid) (sample_apart (loaded_ids sorted))
      (sample_preregistered (loaded_ids sorted)) ordered
      emptyStore_isFresh).mpr stripped
  refine ⟨items, after, executed, finished,
    gold_store_append_only
      (separates_singleton (.array ((cohortIds items).map .str)))
      (separates_singleton _)
      ⟨fun envelope items' executed' member => ?_,
        fun envelope items' executed' member => ?_⟩
      ⟨emptyStore_isFresh, rfl⟩ (.single (.run finished))⟩
  · cases List.mem_singleton.mp member
    rfl
  · cases List.mem_singleton.mp member
    rfl

end RagBench
