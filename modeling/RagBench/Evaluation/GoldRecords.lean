import RagBench.Benchmark.SplitLeakage
import RagBench.Evaluation.GoldStore

/-!
# What the gold store holds

A result that was saved is read back as it is.  Where hashes tell texts apart,
a path belongs to one configuration and one item.
-/

namespace RagBench

/-! ## Reading a result back -/

namespace GoldResultFields

theorem ofEntries_entries (fields : GoldResultFields) :
    ofEntries fields.entries = some fields := by
  simp [ofEntries, entries, names, Json.get?, Dict.lookup,
    GoldFields.readText, readFloat]

theorem stripped_eq {fields : GoldResultFields}
    (normalized : isNormalized fields.identity = true) :
    fields.stripped = fields := by
  simp only [isNormalized, identity, List.all_cons, List.all_nil,
    Bool.and_true, Bool.and_eq_true, decide_eq_true_eq] at normalized
  obtain ⟨⟨item, -⟩, ⟨type, -⟩, ⟨cluster, -⟩⟩ := normalized
  unfold stripped
  rw [item, type, cluster]

end GoldResultFields

namespace GoldEvaluationResult

theorem normalized (result : GoldEvaluationResult) :
    isNormalized result.identity = true := by
  have valid := result.valid
  simp only [GoldResultFields.isValid, decide_eq_true_eq] at valid
  exact valid.2.1

/-- A valid result stays as it is. -/
theorem validate_eq (result : GoldEvaluationResult) :
    result.toGoldResultFields.validate = .ok result := by
  have stripped := GoldResultFields.stripped_eq result.normalized
  have named : "" ∉ result.identity := by
    intro member
    have each := List.all_eq_true.mp result.normalized "" member
    simp at each
  have same (fields : GoldResultFields) (valid : fields.isValid = true)
      (equal : fields = result.toGoldResultFields) :
      (⟨fields, valid⟩ : GoldEvaluationResult) = result := by
    subst equal
    rfl
  unfold GoldResultFields.validate
  rw [if_neg named, dif_pos (by rw [stripped]; exact result.valid)]
  exact congrArg Except.ok (same _ _ stripped)

theorem modelValidate_modelDump (result : GoldEvaluationResult) :
    modelValidate result.modelDump = .ok result := by
  rw [modelDump, modelValidate, GoldResultFields.ofEntries_entries]
  exact result.validate_eq

private theorem finite_of_isUnit {value : PyFloat}
    (unit : isUnit value = true) : (Json.float value).isCompliant = true := by
  cases value with
  | finite value => rfl
  | infinity | negativeInfinity | nan => cases unit

private theorem finite_of_isAmount {value : PyFloat}
    (amount : isAmount value = true) :
    (Json.float value).isCompliant = true := by
  cases value with
  | finite value => rfl
  | infinity | negativeInfinity | nan => cases amount

theorem compliant_modelDump (result : GoldEvaluationResult) :
    result.modelDump.isCompliant = true := by
  have valid := result.valid
  simp only [GoldResultFields.isValid, GoldScores.isValid, decide_eq_true_eq]
    at valid
  obtain ⟨-, -, correctness, faithfulness, citation, abstention, latency,
    cost, hit, recalled, mrr, -⟩ := valid
  have text (value : String) : (Json.str value).isCompliant = true := rfl
  rw [modelDump, Json.isCompliant, GoldResultFields.entries]
  simp only [Json.entriesCompliant, text, finite_of_isUnit correctness,
    finite_of_isUnit faithfulness, finite_of_isUnit citation,
    finite_of_isUnit abstention, finite_of_isAmount latency,
    finite_of_isAmount cost, finite_of_isUnit hit, finite_of_isUnit recalled,
    finite_of_isUnit mrr, Bool.and_self]

end GoldEvaluationResult

/-- The hashes of these texts tell them apart. -/
def Platform.TellsApart (platform : Platform) (texts : Set String) : Prop :=
  Set.InjOn (fun text => platform.canonicalJsonHash (.str text)) texts

theorem Platform.HashesCanonically.tellsApart {platform : Platform}
    {floats : FloatText} (hashes : platform.HashesCanonically floats)
    (collisionFree : Function.Injective platform.sha256Hex)
    (texts : Set String) : platform.TellsApart texts := by
  intro left _ right _ same
  obtain ⟨bytes, hashed⟩ := hashes.ok (show (Json.str right).isCompliant =
    true from rfl)
  exact textHash_inj hashes collisionFree (Eq.trans same hashed) hashed

namespace GoldResultRepository

variable {platform : Platform} {floats : FloatText}

/-- The file that `save` writes for a result. -/
structure IsSaved (platform : Platform) (manifest : ProtectedManifest)
    (result : GoldEvaluationResult) (file : ProtectedFile Json) : Prop where
  isSafe : file.isSafe = true
  content : ∃ payload, encodeResult platform result manifest = .ok payload ∧
    file.content = some payload

theorem decodeResult_encodeResult {manifest : ProtectedManifest}
    {result : GoldEvaluationResult} {payload : Json}
    (encoded : encodeResult platform result manifest = .ok payload) :
    decodeResult platform payload manifest = .ok result := by
  obtain ⟨artifact, hashed, same⟩ := bind_eq_ok.mp encoded
  cases same
  have text (value : String) : (Json.str value).equals (.str value) = true :=
    decide_eq_true rfl
  change (raiseIf _ _ >>= fun _ => _) = _
  rw [raiseIf_bind (by simp), raiseIf_bind (not_not.mpr (text _)), hashed]
  change (raiseIf _ _ >>= fun _ => _) = _
  rw [raiseIf_bind (not_not.mpr (text _))]
  exact result.modelValidate_modelDump

theorem IsSaved.read {manifest : ProtectedManifest}
    {result : GoldEvaluationResult} {file : ProtectedFile Json}
    (saved : IsSaved platform manifest result file) :
    readResult platform file (.ok manifest) = .ok result := by
  obtain ⟨payload, encoded, content⟩ := saved.content
  have decoded := decodeResult_encodeResult encoded
  unfold readResult
  rw [raiseIf_bind (not_not.mpr saved.isSafe), content]
  dsimp only [bind, Except.bind]
  rw [decoded]

theorem encodeResult_ok (hashes : platform.HashesCanonically floats)
    (result : GoldEvaluationResult) (manifest : ProtectedManifest) :
    ∃ payload, encodeResult platform result manifest = .ok payload := by
  have compliant : (binding (.str manifest.preregistrationHash)
      result.modelDump).isCompliant = true := by
    simp [binding, Json.isCompliant, Json.entriesCompliant,
      result.compliant_modelDump]
  obtain ⟨bytes, hashed⟩ := hashes.ok compliant
  exact ⟨_, bind_eq_ok.mpr ⟨_, hashed, rfl⟩⟩

/-! ## Paths -/

theorem resultPath_ok (hashes : platform.HashesCanonically floats)
    (configHash itemId : String) :
    ∃ path, resultPath platform configHash itemId = .ok path := by
  have compliant (text : String) : (Json.str text).isCompliant = true := rfl
  obtain ⟨directory, hashed⟩ := hashes.ok (compliant configHash)
  obtain ⟨name, hashed'⟩ := hashes.ok (compliant itemId)
  exact ⟨_, bind_eq_ok.mpr ⟨_, hashed, bind_eq_ok.mpr ⟨_, hashed', rfl⟩⟩⟩

theorem resultPath_inj {texts : Set String}
    (apart : platform.TellsApart texts)
    {configHash configHash' itemId itemId' : String} {path : String × String}
    (configs : configHash ∈ texts ∧ configHash' ∈ texts)
    (items : itemId ∈ texts ∧ itemId' ∈ texts)
    (first : resultPath platform configHash itemId = .ok path)
    (second : resultPath platform configHash' itemId' = .ok path) :
    configHash = configHash' ∧ itemId = itemId' := by
  obtain ⟨directory, directoryHash, first⟩ := bind_eq_ok.mp first
  obtain ⟨name, nameHash, first⟩ := bind_eq_ok.mp first
  obtain ⟨directory', directoryHash', second⟩ := bind_eq_ok.mp second
  obtain ⟨name', nameHash', second⟩ := bind_eq_ok.mp second
  cases first
  obtain ⟨rfl, names⟩ := Prod.mk.inj (Except.ok.inj second)
  have same : name' = name := by
    have lists := congrArg String.toList names
    rw [String.toList_append, String.toList_append] at lists
    exact String.toList_inj.mp (List.append_cancel_right lists)
  subst same
  exact ⟨apart configs.1 configs.2 (directoryHash.trans directoryHash'.symm),
    apart items.1 items.2 (nameHash.trans nameHash'.symm)⟩

/-! ## The invariant of the files -/

/-- The store is bound to the manifest, and every file was saved for a result
of one of its configurations. -/
structure Holds (platform : Platform) (manifest : ProtectedManifest)
    (allowed : GoldEvaluationResult → Prop)
    (repository : GoldResultRepository) : Prop where
  bound : repository.manifestFile = some (some manifest)
  saved : ∀ path file, repository.results.get? path = some file →
    ∃ result, resultPath platform result.configHash result.itemId = .ok path ∧
      IsSaved platform manifest result file ∧
      result.configHash ∈ manifest.configHashes ∧ allowed result

section Holds

variable {manifest : ProtectedManifest}
  {allowed : GoldEvaluationResult → Prop}
  {repository after : GoldResultRepository} {result : GoldEvaluationResult}

theorem Holds.manifest_eq (holds : Holds platform manifest allowed repository) :
    repository.manifest = .ok manifest := by
  rw [GoldResultRepository.manifest, holds.bound]

theorem Holds.imp {allowed' : GoldEvaluationResult → Prop}
    (holds : Holds platform manifest allowed repository)
    (weaker : ∀ result, allowed result → allowed' result) :
    Holds platform manifest allowed' repository where
  bound := holds.bound
  saved path file found := by
    obtain ⟨result, located, saved, registered, permitted⟩ :=
      holds.saved path file found
    exact ⟨result, located, saved, registered, weaker result permitted⟩

/-- A successful `save`: a new file at a free path, and nothing else. -/
theorem save_ok (success : repository.save platform result = .ok after) :
    ∃ manifest path file, repository.manifest = .ok manifest ∧
      result.configHash ∈ manifest.configHashes ∧
      resultPath platform result.configHash result.itemId = .ok path ∧
      IsSaved platform manifest result file ∧
      repository.results.get? path = none ∧
      after = { repository with
        results := repository.results.set path file } := by
  obtain ⟨manifest, bound, success⟩ := bind_eq_ok.mp success
  obtain ⟨_, registered, success⟩ := bind_eq_ok.mp success
  obtain ⟨path, located, success⟩ := bind_eq_ok.mp success
  obtain ⟨payload, encoded, success⟩ := bind_eq_ok.mp success
  obtain ⟨_, free, success⟩ := bind_eq_ok.mp success
  cases success
  refine ⟨manifest, path, ⟨some payload, true⟩, bound,
    not_not.mp (raiseIf_eq_ok.mp registered), located,
    ⟨rfl, payload, encoded, rfl⟩, ?_, rfl⟩
  have missing := raiseIf_eq_ok.mp free
  rwa [Bool.not_eq_true, Option.isSome_eq_false_iff,
    Option.isNone_iff_eq_none] at missing

/-- A result of a registered configuration is saved at a free path. -/
theorem save_free (hashes : platform.HashesCanonically floats)
    {path : String × String}
    (bound : repository.manifest = .ok manifest)
    (registered : result.configHash ∈ manifest.configHashes)
    (located : resultPath platform result.configHash result.itemId = .ok path)
    (free : repository.results.get? path = none) :
    ∃ after, repository.save platform result = .ok after := by
  obtain ⟨payload, encoded⟩ := encodeResult_ok hashes result manifest
  unfold save
  rw [bound]
  change ∃ after, (raiseIf _ _ >>= fun _ => _) = _
  rw [raiseIf_bind (not_not.mpr registered), located]
  change ∃ after, (encodeResult platform result manifest >>= fun _ => _) = _
  rw [encoded]
  change ∃ after, (raiseIf _ _ >>= fun _ => _) = _
  rw [raiseIf_bind (by simp [free])]
  exact ⟨_, rfl⟩

theorem Holds.save (holds : Holds platform manifest allowed repository)
    (success : repository.save platform result = .ok after)
    (permitted : allowed result) :
    Holds platform manifest allowed after := by
  obtain ⟨manifest', path, file, bound, registered, located, saved, free,
    rfl⟩ := save_ok success
  rw [holds.manifest_eq] at bound
  cases bound
  refine ⟨holds.bound, fun other content found => ?_⟩
  rw [Dict.get?_set] at found
  split_ifs at found with same
  · subst same
    cases found
    exact ⟨result, located, saved, registered, permitted⟩
  · exact holds.saved other content found

/-- Loading under the invariant: nothing without a file, the saved result of
the same configuration and item with one. -/
theorem Holds.load (holds : Holds platform manifest allowed repository)
    {texts : Set String} (apart : platform.TellsApart texts)
    (configs : ∀ configHash ∈ manifest.configHashes, configHash ∈ texts)
    (items : ∀ result, allowed result → result.itemId ∈ texts)
    {configHash itemId : String} {path : String × String}
    (known : configHash ∈ texts) (member : itemId ∈ texts)
    (located : resultPath platform configHash itemId = .ok path) :
    (repository.results.get? path = none ∧
      repository.load platform configHash itemId = .ok none) ∨
    ∃ file result, repository.results.get? path = some file ∧
      IsSaved platform manifest result file ∧
      result.configHash = configHash ∧ result.itemId = itemId ∧
      allowed result ∧
      repository.load platform configHash itemId = .ok (some result) := by
  unfold GoldResultRepository.load
  rw [located]
  cases found : repository.results.get? path with
  | none =>
      refine .inl ⟨rfl, ?_⟩
      dsimp only [bind, Except.bind]
      rw [found]
      rfl
  | some file =>
      obtain ⟨result, located', saved, registered, permitted⟩ :=
        holds.saved path file found
      obtain ⟨sameConfig, sameItem⟩ := resultPath_inj apart
        ⟨configs _ registered, known⟩ ⟨items result permitted, member⟩
        located' located
      refine .inr ⟨file, result, rfl, saved, sameConfig, sameItem, permitted,
        ?_⟩
      dsimp only [bind, Except.bind]
      rw [found]
      change (readResult platform file repository.manifest >>= fun _ => _) = _
      rw [holds.manifest_eq, saved.read]
      change (raiseIf _ _ >>= fun _ => _) = _
      rw [raiseIf_bind (by simp [sameConfig, sameItem])]
      rfl

end Holds

end GoldResultRepository

end RagBench
