import RagBench.Evaluation.GoldReport
import RagBench.Evaluation.GoldRun

/-!
# Aggregating the gold store

The files of the store are read back as the results that were saved.  A
complete store of a cohort is aggregated exactly when every question type
occurs in two clusters, and the aggregation does not look at the preregistered
cohort.
-/

namespace RagBench

open GoldResultRepository GoldReport

variable {arithmetic : FloatArithmetic} {random : Random}
  {platform : Platform} {floats : FloatText} {manifest : ProtectedManifest}
  {allowed : GoldEvaluationResult → Prop}
  {repository : GoldResultRepository} {envelope : PreregistrationEnvelope}
  {rows : List GoldEvaluationResult} {configHash : String} {salt : String}

/-! ## Reading all results -/

/-- The store has the file of the result. -/
structure IsStored (platform : Platform) (manifest : ProtectedManifest)
    (repository : GoldResultRepository) (result : GoldEvaluationResult) :
    Prop where
  registered : result.configHash ∈ manifest.configHashes
  present : ∃ path file,
    resultPath platform result.configHash result.itemId = .ok path ∧
      repository.results.get? path = some file ∧
      IsSaved platform manifest result file

theorem mem_filesOf {directory : String}
    {entry : String × ProtectedFile Json} :
    entry ∈ repository.filesOf directory ↔
      repository.results.get? (directory, entry.1) = some entry.2 := by
  rw [filesOf, (sortBy_perm _ _).mem_iff, List.mem_map,
    Dict.get?_eq_some_iff]
  constructor
  · rintro ⟨⟨⟨directory', name⟩, file⟩, member, rfl⟩
    obtain ⟨listed, same⟩ := List.mem_filter.mp member
    obtain rfl : directory' = directory := of_decide_eq_true same
    exact listed
  · intro listed
    exact ⟨_, List.mem_filter.mpr ⟨listed, decide_eq_true rfl⟩, rfl⟩

theorem filesOf_names (repository : GoldResultRepository)
    (directory : String) :
    ((repository.filesOf directory).map Prod.fst).Nodup := by
  rw [filesOf, ((sortBy_perm _ _).map _).nodup_iff, List.map_map]
  refine List.pairwise_map.mpr (((List.pairwise_map.mp
    repository.results.nodup).filter _).imp_of_mem ?_)
  intro first second member member' other same
  have here := of_decide_eq_true (List.mem_filter.mp member).2
  have here' := of_decide_eq_true (List.mem_filter.mp member').2
  exact other (Prod.ext (here.trans here'.symm) same)

/-- What a file name of a configuration says about its result. -/
theorem resultPath_eq_iff {itemId directory name : String} :
    resultPath platform configHash itemId = .ok (directory, name) ↔
      platform.canonicalJsonHash (.str configHash) = .ok directory ∧
        ∃ digest, platform.canonicalJsonHash (.str itemId) = .ok digest ∧
          name = digest ++ ".json" := by
  unfold resultPath
  rw [bind_eq_ok]
  constructor
  · rintro ⟨directory', hashed, located⟩
    obtain ⟨digest, hashed', located⟩ := bind_eq_ok.mp located
    obtain ⟨rfl, rfl⟩ := Prod.mk.inj (Except.ok.inj located)
    exact ⟨hashed, digest, hashed', rfl⟩
  · rintro ⟨hashed, digest, hashed', rfl⟩
    exact ⟨directory, hashed, bind_eq_ok.mpr ⟨digest, hashed', rfl⟩⟩

theorem readNamed_ok {entry : String × ProtectedFile Json}
    {result : GoldEvaluationResult} {digest : String}
    (saved : IsSaved platform manifest result entry.2)
    (config : result.configHash = configHash)
    (hashed : platform.canonicalJsonHash (.str result.itemId) = .ok digest)
    (named : entry.1 = digest ++ ".json") :
    readNamed platform manifest configHash entry = .ok result := by
  unfold readNamed
  rw [saved.read]
  change (raiseIf _ _ >>= fun _ => _) = _
  rw [raiseIf_bind (not_not.mpr config), hashed]
  change (raiseIf _ _ >>= fun _ => _) = _
  rw [raiseIf_bind (not_not.mpr named)]
  rfl

/-- What a successful reading of a file says. -/
theorem readNamed_spec {entry : String × ProtectedFile Json}
    {result : GoldEvaluationResult}
    (success : readNamed platform manifest configHash entry = .ok result) :
    readResult platform entry.2 (.ok manifest) = .ok result ∧
      result.configHash = configHash ∧ ∃ digest,
        platform.canonicalJsonHash (.str result.itemId) = .ok digest ∧
          entry.1 = digest ++ ".json" := by
  obtain ⟨_, read, success⟩ := bind_eq_ok.mp success
  obtain ⟨_, config, success⟩ := bind_eq_ok.mp success
  obtain ⟨digest, hashed, success⟩ := bind_eq_ok.mp success
  obtain ⟨_, named, success⟩ := bind_eq_ok.mp success
  cases success
  exact ⟨read, not_not.mp (raiseIf_eq_ok.mp config), digest, hashed,
    not_not.mp (raiseIf_eq_ok.mp named)⟩

/-- The store has a file at the path of the result that is read as the
result. -/
structure IsRead (platform : Platform) (manifest : ProtectedManifest)
    (repository : GoldResultRepository) (result : GoldEvaluationResult) :
    Prop where
  registered : result.configHash ∈ manifest.configHashes
  present : ∃ path file,
    resultPath platform result.configHash result.itemId = .ok path ∧
      repository.results.get? path = some file ∧
      readResult platform file (.ok manifest) = .ok result

/-- The files of a configuration are read as different results of it. -/
theorem resultsOf_spec {results : List GoldEvaluationResult}
    (listed : configHash ∈ manifest.configHashes)
    (success : repository.resultsOf platform manifest configHash =
      .ok results) :
    (∀ row ∈ results, row.configHash = configHash ∧
      IsRead platform manifest repository row) ∧
      (results.map fun row => row.itemId).Nodup := by
  obtain ⟨directory, hashed, mapped⟩ := bind_eq_ok.mp success
  have related := mapM_eq_ok.mp mapped
  constructor
  · intro row member
    obtain ⟨entry, inFiles, success⟩ :=
      exists_left_of_forall₂ related member
    obtain ⟨read, rfl, digest, named, same⟩ := readNamed_spec success
    exact ⟨rfl, listed, _, entry.2,
      resultPath_eq_iff.mpr ⟨hashed, digest, named, same⟩,
      mem_filesOf.mp inFiles, read⟩
  · refine List.pairwise_map.mpr (pairwise_of_forall₂ ?_ related
      (List.pairwise_map.mp (filesOf_names repository directory)))
    intro first second row row' other success success' same
    obtain ⟨-, -, digest, hashed, named⟩ := readNamed_spec success
    obtain ⟨-, -, digest', hashed', named'⟩ := readNamed_spec success'
    rw [same, hashed'] at hashed
    rw [named, named', Except.ok.inj hashed] at other
    exact other rfl

/-- All results that are read belong to different configurations or items. -/
theorem allResults_spec (bound : repository.manifest = .ok manifest)
    (unique : manifest.configHashes.Nodup)
    (success : repository.allResults platform = .ok rows) :
    (∀ row ∈ rows, IsRead platform manifest repository row) ∧
      (rows.map fun row => (row.configHash, row.itemId)).Nodup := by
  obtain ⟨manifest', bound', success⟩ := bind_eq_ok.mp success
  obtain rfl := Except.ok.inj (bound.symm.trans bound')
  obtain ⟨results, mapped, same⟩ := bind_eq_ok.mp success
  obtain rfl : results.flatten = rows := Except.ok.inj same
  have related := (List.forall₂_and_left _ _).mpr
    ⟨fun configHash listed => listed, mapM_eq_ok.mp mapped⟩
  constructor
  · intro row member
    obtain ⟨rows, listed, inRows⟩ := List.mem_flatten.mp member
    obtain ⟨configHash, -, registered, success⟩ :=
      exists_left_of_forall₂ related listed
    exact ((resultsOf_spec registered success).1 row inRows).2
  · rw [List.map_flatten, List.nodup_flatten]
    constructor
    · rw [List.forall_mem_map]
      intro rows member
      obtain ⟨configHash, -, registered, success⟩ :=
        exists_left_of_forall₂ related member
      refine List.pairwise_map.mpr ((List.pairwise_map.mp
        (resultsOf_spec registered success).2).imp ?_)
      exact fun other same => other (Prod.mk.inj same).2
    · refine List.pairwise_map.mpr
        (pairwise_of_forall₂ ?_ related unique)
      intro configHash configHash' rows rows' other first second pair member
        member'
      obtain ⟨row, inRows, rfl⟩ := List.mem_map.mp member
      obtain ⟨row', inRows', same⟩ := List.mem_map.mp member'
      have config := ((resultsOf_spec first.1 first.2).1 row inRows).1
      have config' := ((resultsOf_spec second.1 second.2).1 row' inRows').1
      exact other (config.symm.trans
        ((Prod.mk.inj same).1.symm.trans config'))

/-! ## Reading a store of saved results -/

theorem GoldResultRepository.IsSaved.unique {file : ProtectedFile Json}
    {first second : GoldEvaluationResult}
    (saved : IsSaved platform manifest first file)
    (saved' : IsSaved platform manifest second file) : first = second :=
  Except.ok.inj (saved.read.symm.trans saved'.read)

/-- What is read from a store of saved results was saved. -/
theorem GoldResultRepository.Holds.isStored
    (holds : Holds platform manifest allowed repository)
    {row : GoldEvaluationResult}
    (isRead : IsRead platform manifest repository row) :
    IsStored platform manifest repository row ∧ allowed row := by
  obtain ⟨registered, path, file, located, found, read⟩ := isRead
  obtain ⟨result, -, saved, -, permitted⟩ := holds.saved path file found
  obtain rfl : result = row := Except.ok.inj (saved.read.symm.trans read)
  exact ⟨⟨registered, path, file, located, found, saved⟩, permitted⟩

/-- Where hashes tell configurations apart, every stored result is read. -/
theorem GoldResultRepository.Holds.resultsOf
    (holds : Holds platform manifest allowed repository)
    (hashes : platform.HashesCanonically floats)
    (apart : platform.TellsApart {text | text ∈ manifest.configHashes})
    (listed : configHash ∈ manifest.configHashes) :
    ∃ results,
      repository.resultsOf platform manifest configHash = .ok results ∧
      ∀ row, IsStored platform manifest repository row →
        row.configHash = configHash → row ∈ results := by
  obtain ⟨bytes, hashed⟩ :=
    hashes.ok (show (Json.str configHash).isCompliant = true from rfl)
  generalize platform.sha256Hex bytes = directory at hashed
  have each : ∀ entry ∈ repository.filesOf directory, ∃ result,
      readNamed platform manifest configHash entry = .ok result := by
    rintro ⟨name, file⟩ member
    obtain ⟨result, located, saved, registered, -⟩ :=
      holds.saved _ file (mem_filesOf.mp member)
    obtain ⟨hashed', digest, named, same⟩ := resultPath_eq_iff.mp located
    exact ⟨result, readNamed_ok saved
      (apart registered listed (hashed'.trans hashed.symm)) named same⟩
  obtain ⟨results, mapped⟩ := exists_mapM_iff.mpr each
  refine ⟨results, bind_eq_ok.mpr ⟨directory, hashed, mapped⟩, ?_⟩
  rintro row ⟨registered, ⟨directory', name⟩, file, located, found, saved⟩ rfl
  obtain ⟨hashed', digest, named, same⟩ := resultPath_eq_iff.mp located
  obtain rfl := Except.ok.inj (hashed.symm.trans hashed')
  obtain ⟨row', member, success⟩ := exists_right_of_forall₂
    (mapM_eq_ok.mp mapped)
    (mem_filesOf.mpr found : (name, file) ∈ repository.filesOf directory)
  rw [readNamed_ok saved rfl named same] at success
  exact Except.ok.inj success ▸ member

/-- The results of all configurations, without repetitions. -/
structure AreResults (platform : Platform) (manifest : ProtectedManifest)
    (repository : GoldResultRepository) (rows : List GoldEvaluationResult) :
    Prop where
  listed : repository.allResults platform = .ok rows
  mem_iff : ∀ row, row ∈ rows ↔ IsStored platform manifest repository row
  distinct : (rows.map fun row => (row.configHash, row.itemId)).Nodup

theorem GoldResultRepository.Holds.allResults
    (holds : Holds platform manifest allowed repository)
    (hashes : platform.HashesCanonically floats)
    (apart : platform.TellsApart {text | text ∈ manifest.configHashes})
    (unique : manifest.configHashes.Nodup) :
    ∃ rows, AreResults platform manifest repository rows := by
  obtain ⟨results, mapped⟩ : ∃ results, manifest.configHashes.mapM
      (repository.resultsOf platform manifest) = .ok results :=
    exists_mapM_iff.mpr fun configHash listed => by
      obtain ⟨results, success, -⟩ :=
        holds.resultsOf hashes apart listed
      exact ⟨results, success⟩
  have listed : repository.allResults platform = .ok results.flatten :=
    bind_eq_ok.mpr ⟨manifest, holds.manifest_eq,
      bind_eq_ok.mpr ⟨results, mapped, rfl⟩⟩
  obtain ⟨read, distinct⟩ :=
    allResults_spec holds.manifest_eq unique listed
  refine ⟨_, listed, fun row => ⟨fun member =>
    (holds.isStored (read row member)).1, fun stored => ?_⟩, distinct⟩
  obtain ⟨rows, member, success⟩ := exists_right_of_forall₂
    (mapM_eq_ok.mp mapped) stored.registered
  obtain ⟨rows', success', complete⟩ :=
    holds.resultsOf hashes apart stored.registered
  obtain rfl := Except.ok.inj (success.symm.trans success')
  exact List.mem_flatten.mpr ⟨rows, member, complete row stored rfl⟩

/-! ## The checks of the aggregation -/

theorem assertBound_ok (holds : Holds platform (manifestOf envelope) allowed
      repository) :
    repository.assertBound platform envelope = .ok () ↔
      verifyEnvelopeHash platform envelope = .ok () := by
  unfold assertBound
  rw [bind_eq_ok, holds.manifest_eq]
  constructor
  · rintro ⟨_, verified, -⟩
    exact verified
  · intro verified
    refine ⟨(), verified, ?_⟩
    change (raiseIf _ _) = _
    exact raiseIf_eq_ok.mpr (not_not.mpr rfl)

/-- The aggregation succeeds exactly when its checks pass. -/
theorem aggregateGoldResults_ok_iff
    (holds : Holds platform (manifestOf envelope) allowed repository)
    (hashes : platform.HashesCanonically floats)
    (hex : ∀ bytes, isHexDigest (platform.sha256Hex bytes) = true)
    (results : AreResults platform (manifestOf envelope) repository rows) :
    (∃ report, aggregateGoldResults arithmetic random platform repository
        envelope salt = .ok report) ↔
      strip salt ≠ "" ∧ verifyEnvelopeHash platform envelope = .ok () ∧
        repository.invalidations = .ok [] ∧
        IsAggregable envelope.preregistration rows := by
  have reported : (∃ report, reportOf arithmetic random platform envelope
      salt rows = .ok report) ↔ IsAggregable envelope.preregistration rows :=
    reportOf_ok_iff hashes hex
      (fun row member => ((results.mem_iff row).mp member).registered)
      results.distinct salt
  rw [← reported, ← assertBound_ok holds]
  constructor
  · rintro ⟨report, success⟩
    obtain ⟨_, salted, success⟩ := bind_eq_ok.mp success
    obtain ⟨_, bound, success⟩ := bind_eq_ok.mp success
    obtain ⟨invalidations, read, success⟩ := bind_eq_ok.mp success
    obtain ⟨_, none, success⟩ := bind_eq_ok.mp success
    obtain ⟨rows', listed, success⟩ := bind_eq_ok.mp success
    obtain rfl := Except.ok.inj (listed.symm.trans results.listed)
    rw [not_not.mp (raiseIf_eq_ok.mp none)] at read
    exact ⟨raiseIf_eq_ok.mp salted, bound, read, report, success⟩
  · rintro ⟨salted, bound, read, report, success⟩
    exact ⟨report, bind_eq_ok.mpr ⟨(), raiseIf_eq_ok.mpr salted,
      bind_eq_ok.mpr ⟨(), bound, bind_eq_ok.mpr ⟨[], read,
        bind_eq_ok.mpr ⟨(), raiseIf_eq_ok.mpr (not_not.mpr rfl),
          bind_eq_ok.mpr ⟨rows, results.listed, success⟩⟩⟩⟩⟩⟩

end RagBench
