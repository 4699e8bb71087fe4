import RagBench.Evaluation.GoldAggregation
import RagBench.Transition

/-!
# Histories of the gold store

Runs, invalidations and aggregations of one store in any order.  Files are
only added, and every run that asked for an answer had the same cohort.
-/

namespace RagBench

open GoldRunner GoldResultRepository

variable {platform : Platform} {manifest : ProtectedManifest}
  {allowed : GoldEvaluationResult → Prop} {execute : GoldExecutor}
  {configByHash : Dict String ExperimentConfig} {resume : Bool}
  {envelope : PreregistrationEnvelope} {configs : List ExperimentConfig}
  {items : List GoldItem} {repository after : GoldResultRepository}
  {configHash itemId : String}

/-! ## Growth -/

/-- Nothing that the store has is replaced or removed. -/
structure Grows (before after : GoldResultRepository) : Prop where
  manifest : ∀ manifest, before.manifestFile = some (some manifest) →
    after.manifestFile = some (some manifest)
  results : ∀ path file, before.results.get? path = some file →
    after.results.get? path = some file
  invalidations : ∀ name file,
    before.invalidationFiles.get? name = some file →
      after.invalidationFiles.get? name = some file

namespace Grows

theorem refl (repository : GoldResultRepository) :
    Grows repository repository :=
  ⟨fun _ => id, fun _ _ => id, fun _ _ => id⟩

theorem trans {first second third : GoldResultRepository}
    (early : Grows first second) (late : Grows second third) :
    Grows first third where
  manifest _ known := late.manifest _ (early.manifest _ known)
  results _ _ found := late.results _ _ (early.results _ _ found)
  invalidations _ _ found :=
    late.invalidations _ _ (early.invalidations _ _ found)

end Grows

theorem save_grows {result : GoldEvaluationResult}
    (success : repository.save platform result = .ok after) :
    Grows repository after := by
  obtain ⟨_, path, file, -, -, -, -, free, rfl⟩ := save_ok success
  refine ⟨fun _ => id, fun other content found => ?_, fun _ _ => id⟩
  rw [Dict.get?_set, if_neg]
  · exact found
  · rintro rfl
    rw [free] at found
    cases found

/-! ## Loading -/

theorem load_none (missing : repository.load platform configHash itemId =
      .ok none) :
    ∃ path, resultPath platform configHash itemId = .ok path ∧
      repository.results.get? path = none := by
  obtain ⟨path, located, missing⟩ := bind_eq_ok.mp missing
  refine ⟨path, located, ?_⟩
  cases found : repository.results.get? path with
  | none => rfl
  | some file =>
      rw [found] at missing
      obtain ⟨_, -, missing⟩ := bind_eq_ok.mp missing
      obtain ⟨_, -, missing⟩ := bind_eq_ok.mp missing
      cases missing

/-- A result that is loaded is the stored one of the same configuration and
item. -/
theorem GoldResultRepository.Holds.load_some
    (holds : Holds platform manifest allowed repository)
    {result : GoldEvaluationResult}
    (found : repository.load platform configHash itemId =
      .ok (some result)) :
    result.configHash = configHash ∧ result.itemId = itemId ∧
      IsStored platform manifest repository result ∧ allowed result := by
  obtain ⟨path, located, found⟩ := bind_eq_ok.mp found
  cases present : repository.results.get? path with
  | none =>
      rw [present] at found
      cases found
  | some file =>
      rw [present] at found
      obtain ⟨result', read, found⟩ := bind_eq_ok.mp found
      obtain ⟨_, identity, same⟩ := bind_eq_ok.mp found
      obtain rfl : result' = result := Option.some_inj.mp (Except.ok.inj same)
      have names := raiseIf_eq_ok.mp identity
      rw [not_or, not_not, not_not] at names
      obtain ⟨rfl, rfl⟩ := names
      obtain ⟨saved, -, isSaved, registered, permitted⟩ :=
        holds.saved path file present
      rw [holds.manifest_eq, isSaved.read] at read
      obtain rfl := Except.ok.inj read
      exact ⟨rfl, rfl, ⟨registered, path, file, located, present, isSaved⟩,
        permitted⟩

theorem IsStored.grow {before : GoldResultRepository}
    {row : GoldEvaluationResult}
    (stored : IsStored platform manifest before row)
    (grows : Grows before after) : IsStored platform manifest after row := by
  obtain ⟨registered, path, file, located, found, saved⟩ := stored
  exact ⟨registered, path, file, located, grows.results _ _ found, saved⟩

/-! ## Runs -/

/-- What a run does from a store that holds only permitted results. -/
structure Ran (platform : Platform) (manifest : ProtectedManifest)
    (allowed : GoldEvaluationResult → Prop)
    (pairs : List (String × GoldItem)) (before after : GoldResultRepository)
    (executed : List (String × String)) (finished : Prop) : Prop where
  holds : Holds platform manifest allowed after
  grows : Grows before after
  invalidations : after.invalidationFiles = before.invalidationFiles
  inOrder : executed.Sublist (pairs.map fun pair => (pair.1, pair.2.itemId))
  missing : ∀ pair ∈ executed, ∃ path,
    resultPath platform pair.1 pair.2 = .ok path ∧
      before.results.get? path = none
  stored : finished → ∀ pair ∈ pairs, ∃ row, row.configHash = pair.1 ∧
    row.itemId = pair.2.itemId ∧ IsStored platform manifest after row ∧
      allowed row

/-- The loops only add results, and ask only where there is none. -/
theorem runPairs_ran {pairs : List (String × GoldItem)}
    {progress final : Progress} {outcome : Except PyException Unit}
    (holds : Holds platform manifest allowed progress.repository)
    (permitted : ∀ pair ∈ pairs, ∀ result, Echoes pair.1 pair.2 result →
      allowed result)
    (looped : runPairs platform execute configByHash resume pairs progress =
      (outcome, final)) :
    ∃ executed, final.executed = progress.executed ++ executed ∧
      Ran platform manifest allowed pairs progress.repository
        final.repository executed (outcome = .ok ()) := by
  induction pairs generalizing progress with
  | nil =>
      obtain ⟨rfl, rfl⟩ := Prod.mk.inj looped
      exact ⟨[], (List.append_nil _).symm, holds, .refl _, rfl, .slnil,
        List.forall_mem_nil _, fun _ => List.forall_mem_nil _⟩
  | cons pair rest induction =>
      obtain ⟨configHash, item⟩ := pair
      obtain ⟨here, later⟩ := List.forall_mem_cons.mp permitted
      rw [runPairs] at looped
      cases step : runItem platform execute configByHash resume progress
        configHash item with
      | mk stepOutcome middle =>
          rw [step] at looped
          rcases runItem_cases step with
            ⟨⟨error, rfl⟩, rfl⟩ | ⟨result, found, rfl, rfl⟩ |
            ⟨missing, ⟨error, rfl⟩, rfl⟩ |
            ⟨missing, _, result, repository, -, -, echoes, success, rfl, rfl⟩
          · obtain ⟨rfl, rfl⟩ := Prod.mk.inj looped
            refine ⟨[], (List.append_nil _).symm, holds, .refl _, rfl,
              List.nil_sublist _, List.forall_mem_nil _, fun finished => ?_⟩
            cases finished
          · change runPairs platform execute configByHash resume rest
              { progress with completed := progress.completed + 1 } = _
              at looped
            have kept : Holds platform manifest allowed
              { progress with
                completed := progress.completed + 1 }.repository := holds
            obtain ⟨executed, history, ran⟩ := induction kept later looped
            obtain ⟨config, named, stored, permitted⟩ := holds.load_some found
            exact ⟨executed, history, ran.holds, ran.grows, ran.invalidations,
              ran.inOrder.cons _, ran.missing, fun finished =>
                List.forall_mem_cons.mpr ⟨⟨result, config, named,
                  stored.grow ran.grows, permitted⟩, ran.stored finished⟩⟩
          · obtain ⟨rfl, rfl⟩ := Prod.mk.inj looped
            refine ⟨[(configHash, item.itemId)], rfl, holds, .refl _, rfl,
              (List.nil_sublist _).cons_cons _, ?_, fun finished => ?_⟩
            · rw [List.forall_mem_singleton]
              exact load_none missing
            · cases finished
          · have kept := holds.save success (here result echoes)
            have grown := save_grows success
            obtain ⟨executed, history, ran⟩ := induction kept later looped
            refine ⟨(configHash, item.itemId) :: executed, ?_, ran.holds,
              grown.trans ran.grows, ?_, ran.inOrder.cons_cons _, ?_,
              fun finished => ?_⟩
            · rw [history, Progress.called, List.append_assoc]
              rfl
            · obtain ⟨_, _, _, -, -, -, -, -, rfl⟩ := save_ok success
              exact ran.invalidations
            · refine List.forall_mem_cons.mpr ⟨load_none missing, ?_⟩
              intro pair member
              obtain ⟨path, located, absent⟩ := ran.missing pair member
              refine ⟨path, located, ?_⟩
              -- What is missing later was missing before.
              by_contra present
              obtain ⟨file, found⟩ := Option.ne_none_iff_exists'.mp present
              have kept := grown.results _ _ found
              rw [absent] at kept
              cases kept
            · refine List.forall_mem_cons.mpr ⟨?_, ran.stored finished⟩
              obtain ⟨_, path, file, bound, registered, located, saved, -,
                rfl⟩ := save_ok success
              obtain rfl := Except.ok.inj (holds.manifest_eq.symm.trans bound)
              have stored : IsStored platform manifest
                  { progress.repository with
                    results := progress.repository.results.set path file }
                  result :=
                ⟨registered, path, file, located, Dict.get?_set_self _ _ _,
                  saved⟩
              exact ⟨result, echoes.configHash_eq, echoes.itemId_eq,
                stored.grow ran.grows, here result echoes⟩

/-! ## Before the loops -/

/-- The ids of a cohort in the order of a run. -/
def cohortIds (items : List GoldItem) : List String :=
  (sortBy (fun item => item.itemId) items).map fun item => item.itemId

/-- The envelope is intact, and the ids are the preregistered ones. -/
structure IsPreregistered (platform : Platform)
    (envelope : PreregistrationEnvelope) (cohort : List String) : Prop where
  verified : verifyEnvelopeHash platform envelope = .ok ()
  membership : platform.canonicalJsonHash (.array (cohort.map .str)) =
    .ok envelope.preregistration.cohort.orderedMembershipHash
  itemCount : cohort.length = envelope.preregistration.cohort.itemCount
  unique : cohort.Nodup

theorem orderedItemIds_spec {ids : List String}
    (success : orderedItemIds items = .ok ids) :
    ids = items.map (fun item => item.itemId) ∧ ids.Nodup := by
  obtain ⟨values, listed, success⟩ := bind_eq_ok.mp success
  obtain ⟨_, checked, success⟩ := bind_eq_ok.mp success
  cases success
  have checks := raiseIf_eq_ok.mp checked
  rw [not_or, not_not, not_not] at checks
  exact ⟨(itemIds_ok.mp listed).2.symm, checks.2⟩

/-- A run starts on the cohort of the store, or fixes the cohort of a new
store. -/
theorem initializeRun_spec
    (success : repository.initializeRun platform envelope items =
      .ok after) :
    IsPreregistered platform envelope (items.map fun item => item.itemId) ∧
      ((repository.manifestFile = none ∧ after = bound repository envelope) ∨
        (repository.manifestFile = some (some (manifestOf envelope)) ∧
          after = repository)) := by
  obtain ⟨_, verified, success⟩ := bind_eq_ok.mp success
  obtain ⟨ids, listed, success⟩ := bind_eq_ok.mp success
  obtain ⟨rfl, unique⟩ := orderedItemIds_spec listed
  obtain ⟨membership, hashed, success⟩ := bind_eq_ok.mp success
  obtain ⟨_, checked, success⟩ := bind_eq_ok.mp success
  have checks := raiseIf_eq_ok.mp checked
  rw [not_or, not_not, not_not] at checks
  refine ⟨⟨verified, checks.2 ▸ hashed, checks.1, unique⟩, ?_⟩
  cases present : repository.manifestFile with
  | none =>
      rw [present] at success
      cases success
      exact .inl ⟨rfl, rfl⟩
  | some file =>
      rw [present] at success
      cases file with
      | none => cases success
      | some existing =>
          dsimp only at success
          split_ifs at success with same
          cases success
          exact .inr ⟨by rw [not_not.mp same], rfl⟩

theorem prepare_spec {ordered : List GoldItem}
    (success : prepare platform repository envelope configs items =
      .ok (ordered, configByHash, after)) :
    ordered = sortBy (fun item => item.itemId) items ∧
      repository.initializeRun platform envelope ordered = .ok after := by
  obtain ⟨_, -, success⟩ := bind_eq_ok.mp success
  obtain ⟨_, -, success⟩ := bind_eq_ok.mp success
  obtain ⟨_, -, success⟩ := bind_eq_ok.mp success
  obtain ⟨_, -, success⟩ := bind_eq_ok.mp success
  obtain ⟨started, initialized, success⟩ := bind_eq_ok.mp success
  obtain ⟨rfl, same⟩ := Prod.mk.inj (Except.ok.inj success)
  obtain ⟨-, rfl⟩ := Prod.mk.inj same
  exact ⟨rfl, initialized⟩

theorem mem_pairsOf {configHashes : List String} {ordered : List GoldItem}
    {pair : String × GoldItem} :
    pair ∈ pairsOf configHashes ordered ↔
      pair.1 ∈ configHashes ∧ pair.2 ∈ ordered := by
  rw [pairsOf, List.mem_flatMap]
  constructor
  · rintro ⟨configHash, listed, member⟩
    obtain ⟨item, inItems, rfl⟩ := List.mem_map.mp member
    exact ⟨listed, inItems⟩
  · rintro ⟨listed, inItems⟩
    exact ⟨pair.1, listed, List.mem_map.mpr ⟨pair.2, inItems, rfl⟩⟩

theorem pairsOf_names (configHashes : List String)
    (ordered : List GoldItem) :
    (pairsOf configHashes ordered).map
        (fun pair => (pair.1, pair.2.itemId)) =
      configHashes.product (ordered.map fun item => item.itemId) := by
  simp only [pairsOf, List.map_flatMap, List.map_map, List.product]
  rfl

/-- Everything that a run can do: nothing, or the loops on the cohort. -/
theorem run_cases {outcome : Except PyException GoldRunSummary}
    {executed : List (String × String)}
    (performed : run platform repository execute envelope configs items
      resume = (outcome, after, executed)) :
    (after = repository ∧ executed = [] ∧ ∃ error, outcome = .error error) ∨
    ∃ configByHash started loops final,
      IsPreregistered platform envelope (cohortIds items) ∧
      ((repository.manifestFile = none ∧
          started = bound repository envelope) ∨
        (repository.manifestFile = some (some (manifestOf envelope)) ∧
          started = repository)) ∧
      runPairs platform execute configByHash resume
        (pairsOf envelope.preregistration.configHashes
          (sortBy (fun item => item.itemId) items)) ⟨started, 0, []⟩ =
        (loops, final) ∧
      after = final.repository ∧ executed = final.executed ∧
      ((∃ summary, outcome = .ok summary) ↔ loops = .ok ()) := by
  unfold run at performed
  split at performed
  · rename_i error _
    obtain ⟨rfl, same⟩ := Prod.mk.inj performed
    obtain ⟨rfl, rfl⟩ := Prod.mk.inj same
    exact .inl ⟨rfl, rfl, error, rfl⟩
  · rename_i ordered configByHash started prepared
    obtain ⟨rfl, initialized⟩ := prepare_spec prepared
    obtain ⟨preregistered, start⟩ := initializeRun_spec initialized
    refine .inr ⟨configByHash, started, ?_⟩
    dsimp only at performed
    split at performed
    · rename_i error final looped
      obtain ⟨rfl, same⟩ := Prod.mk.inj performed
      obtain ⟨rfl, rfl⟩ := Prod.mk.inj same
      exact ⟨_, final, preregistered, start, looped, rfl, rfl,
        fun ⟨_, impossible⟩ => (nomatch impossible),
        fun impossible => (nomatch impossible)⟩
    · rename_i passed final looped
      obtain ⟨rfl, same⟩ := Prod.mk.inj performed
      obtain ⟨rfl, rfl⟩ := Prod.mk.inj same
      exact ⟨_, final, preregistered, start, looped, rfl, rfl,
        fun _ => rfl, fun _ => ⟨_, rfl⟩⟩

/-! ## Invalidations -/

/-- The records are numbered from one, each in the file of its number. -/
structure IsNumbered (count : ℕ) (repository : GoldResultRepository) :
    Prop where
  length : repository.invalidationFiles.entries.length = count
  recorded : ∀ number, 1 ≤ number → number ≤ count → ∃ file record,
    repository.invalidationFiles.get? (invalidationName number) = some file ∧
      file.content = some record ∧ record.sequence = number

theorem invalidations_empty
    (empty : repository.invalidationFiles = Dict.empty) :
    repository.invalidations = .ok [] := by
  have files : sortBy Prod.fst repository.invalidationFiles.entries = [] := by
    rw [empty]
    exact List.perm_nil.mp (sortBy_perm _ _)
  unfold invalidations
  rw [files]
  rfl

theorem invalidations_length {records : List InvalidationRecord}
    (success : repository.invalidations = .ok records) :
    records.length = repository.invalidationFiles.entries.length := by
  obtain ⟨records', read, success⟩ := bind_eq_ok.mp success
  obtain ⟨_, -, same⟩ := bind_eq_ok.mp success
  cases same
  rw [← (mapM_eq_ok.mp read).length_eq, (sortBy_perm _ _).length_eq]

/-- A successful invalidation adds the record of the next number. -/
theorem appendInvalidation_ok {reason replacementCodeCommit : String}
    {invalidatedAt : Moment} {record : InvalidationRecord}
    (success : repository.appendInvalidation reason replacementCodeCommit
      invalidatedAt = .ok (record, after)) :
    record.sequence = repository.invalidationFiles.entries.length + 1 ∧
      (∃ manifest, repository.manifest = .ok manifest) ∧
      repository.invalidationFiles.get?
        (invalidationName record.sequence) = none ∧
      after = { repository with
        invalidationFiles := repository.invalidationFiles.set
          (invalidationName record.sequence)
          { content := some record, isSafe := true } } := by
  obtain ⟨records, read, success⟩ := bind_eq_ok.mp success
  obtain ⟨manifest, bound, success⟩ := bind_eq_ok.mp success
  obtain ⟨record', validated, success⟩ := bind_eq_ok.mp success
  obtain ⟨after', written, same⟩ := bind_eq_ok.mp success
  obtain ⟨rfl, rfl⟩ := Prod.mk.inj (Except.ok.inj same)
  obtain ⟨_, free, written⟩ := bind_eq_ok.mp written
  obtain ⟨records', read', written⟩ := bind_eq_ok.mp written
  obtain ⟨_, next, written⟩ := bind_eq_ok.mp written
  obtain ⟨_, -, written⟩ := bind_eq_ok.mp written
  obtain ⟨_, -, written⟩ := bind_eq_ok.mp written
  cases written
  have number := not_not.mp (raiseIf_eq_ok.mp next)
  rw [invalidations_length read'] at number
  have absent := raiseIf_eq_ok.mp free
  rw [Bool.not_eq_true, Option.isSome_eq_false_iff,
    Option.isNone_iff_eq_none] at absent
  exact ⟨number, ⟨manifest, bound⟩, absent, rfl⟩

theorem appendInvalidation_grows {reason replacementCodeCommit : String}
    {invalidatedAt : Moment} {record : InvalidationRecord}
    (success : repository.appendInvalidation reason replacementCodeCommit
      invalidatedAt = .ok (record, after)) : Grows repository after := by
  obtain ⟨-, -, absent, rfl⟩ := appendInvalidation_ok success
  refine ⟨fun _ => id, fun _ _ => id, fun name file found => ?_⟩
  rw [Dict.get?_set, if_neg]
  · exact found
  · rintro rfl
    rw [absent] at found
    cases found

theorem IsNumbered.append {count : ℕ} {reason replacementCodeCommit : String}
    {invalidatedAt : Moment} {record : InvalidationRecord}
    (numbered : IsNumbered count repository)
    (success : repository.appendInvalidation reason replacementCodeCommit
      invalidatedAt = .ok (record, after)) :
    IsNumbered (count + 1) after := by
  have grows := appendInvalidation_grows success
  obtain ⟨sequence, -, absent, rfl⟩ := appendInvalidation_ok success
  rw [numbered.length] at sequence
  constructor
  · rw [Dict.entries_set_of_fresh _ _ absent, List.length_append,
      numbered.length]
    rfl
  · intro number positive small
    rcases Nat.lt_or_ge count number with above | below
    · obtain rfl : number = record.sequence := by omega
      exact ⟨_, record, Dict.get?_set_self _ _ _, rfl, rfl⟩
    · obtain ⟨file, record', found, content, same⟩ :=
        numbered.recorded number positive below
      exact ⟨file, record', grows.invalidations _ _ found, content, same⟩

end RagBench
