import RagBench.Core.JsonDumps
import RagBench.Core.JsonReader
import RagBench.Embeddings.BuildPlan
import RagBench.Embeddings.SqlRepository

/-!
# Planning the same build again

The hashed identity leaves out when the dataset was modified, and the
immutable identity of a snapshot has it as the date of its creation.
-/

namespace RagBench

/-- Equal plans but for the date of the snapshot, as the repositories take
them: the second is accepted as the existing snapshot once the first has been
stored. -/
structure EmbeddingBuildPlan.ResumedBy (libraries : EmbeddingLibraries)
    (first second : EmbeddingBuildPlan) : Prop where
  planHash_eq : second.planHash = first.planHash
  snapshotId_eq : second.snapshot.snapshotId = first.snapshot.snapshotId
  memory : ∀ repository stored after,
    MemoryEmbeddingRepository.createSnapshot libraries.toPlatform repository
        first.snapshot first.chunks = .ok (stored, after) →
      MemoryEmbeddingRepository.createSnapshot libraries.toPlatform after
        second.snapshot second.chunks = .ok (stored, after)
  database : ∀ database stored after,
    EmbeddingDatabase.createSnapshot libraries database first.snapshot
        first.chunks = .ok (stored, after) →
      EmbeddingDatabase.createSnapshot libraries after second.snapshot
        second.chunks = .ok (stored, after)

/-! ## Storing a snapshot twice -/

namespace MemoryEmbeddingRepository

variable {platform : Platform} {repository after : MemoryEmbeddingRepository}
  {first second stored : EmbeddingSnapshot}
  {chunks : List ChunkEmbeddingInput}

/-- A snapshot of the same identity is the stored one. -/
theorem createSnapshot_again
    (same : second.toSnapshotIdentity = first.toSnapshotIdentity)
    (created : createSnapshot platform repository first chunks =
      .ok (stored, after)) :
    createSnapshot platform after second chunks = .ok (stored, after) := by
  obtain ⟨hashed, created⟩ := createSnapshot_ok.mp created
  have named : second.snapshotId = first.snapshotId :=
    congrArg SnapshotIdentity.snapshotId same
  have manifest : second.artifactManifestHash = first.artifactManifestHash :=
    congrArg SnapshotIdentity.artifactManifestHash same
  refine createSnapshot_ok.mpr ⟨manifest ▸ hashed, .inl ?_⟩
  rw [named]
  rcases created with ⟨existing, found, identical, agrees, rfl, rfl⟩ |
    ⟨-, rfl, rfl⟩
  · exact ⟨existing, found, identical.trans same.symm, agrees, rfl, rfl⟩
  · exact ⟨_, Dict.get?_set_self _ _ _, same.symm,
      Dict.agrees_iff.mpr fun _ => rfl, rfl, rfl⟩

/-- A snapshot with another identity is refused. -/
theorem createSnapshot_identity {other : EmbeddingSnapshot}
    {others : List ChunkEmbeddingInput}
    {again : MemoryEmbeddingRepository}
    (named : second.snapshotId = first.snapshotId)
    (created : createSnapshot platform repository first chunks =
      .ok (stored, after))
    (accepted : createSnapshot platform after second others =
      .ok (other, again)) :
    second.toSnapshotIdentity = first.toSnapshotIdentity := by
  obtain ⟨-, created⟩ := createSnapshot_ok.mp created
  obtain ⟨-, accepted⟩ := createSnapshot_ok.mp accepted
  rw [named] at accepted
  have held : ∃ kept, after.stored.get? first.snapshotId = some kept ∧
      kept.snapshot.toSnapshotIdentity = first.toSnapshotIdentity := by
    rcases created with ⟨existing, found, identical, -, -, rfl⟩ |
      ⟨-, -, rfl⟩
    · exact ⟨existing, found, identical⟩
    · exact ⟨_, Dict.get?_set_self _ _ _, rfl⟩
  obtain ⟨kept, found, identical⟩ := held
  rcases accepted with ⟨existing, again, same, -⟩ | ⟨missing, -⟩
  · obtain rfl := Option.some.inj (found.symm.trans again)
    exact same.symm.trans identical
  · rw [found] at missing
    cases missing

end MemoryEmbeddingRepository

namespace EmbeddingDatabase

variable {libraries : EmbeddingLibraries} {database after : EmbeddingDatabase}
  {first second stored : EmbeddingSnapshot}
  {chunks : List ChunkEmbeddingInput}

theorem createSnapshot_ok {snapshot : EmbeddingSnapshot} :
    createSnapshot libraries database snapshot chunks =
        .ok (stored, after) ↔
      chunkManifestHash libraries.toPlatform chunks =
          .ok snapshot.artifactManifestHash ∧
        ∃ id, libraries.parseUuid snapshot.snapshotId = some id ∧
          ((∃ existing, database.snapshots.get? id = some existing ∧
              fromRow libraries existing = .ok stored ∧
                stored.toSnapshotIdentity = snapshot.toSnapshotIdentity ∧
                  (evidence (database.artifactsOf id)).Agrees
                      (expected chunks) ∧ after = database) ∨
            database.snapshots.get? id = none ∧ stored = snapshot ∧
              after = database.register id snapshot chunks) := by
  constructor
  · intro created
    obtain ⟨manifest, hashed, checking⟩ := bind_eq_ok.mp created
    obtain ⟨⟨⟩, checked, decided⟩ := bind_eq_ok.mp checking
    obtain rfl := not_not.mp (raiseIf_eq_ok.mp checked)
    refine ⟨hashed, ?_⟩
    clear created checking
    cases parsed : libraries.parseUuid snapshot.snapshotId with
    | none =>
        rw [parsed] at decided
        cases decided
    | some id =>
        rw [parsed] at decided
        refine ⟨id, rfl, ?_⟩
        dsimp only at decided
        cases found : database.snapshots.get? id with
        | some existing =>
            rw [found] at decided
            obtain ⟨restored, read, compared⟩ := bind_eq_ok.mp decided
            obtain ⟨⟨⟩, same, counted⟩ := bind_eq_ok.mp compared
            obtain ⟨⟨⟩, agrees, returned⟩ := bind_eq_ok.mp counted
            obtain ⟨rfl, rfl⟩ := Prod.mk.inj (Except.ok.inj returned)
            exact .inl ⟨existing, rfl, read,
              not_not.mp (raiseIf_eq_ok.mp same),
              not_not.mp (raiseIf_eq_ok.mp agrees), rfl⟩
        | none =>
            rw [found] at decided
            obtain ⟨rfl, rfl⟩ := Prod.mk.inj (Except.ok.inj decided)
            exact .inr ⟨rfl, rfl, rfl⟩
  · rintro ⟨hashed, id, parsed, created⟩
    refine bind_eq_ok.mpr ⟨_, hashed, bind_eq_ok.mpr
      ⟨(), raiseIf_eq_ok.mpr (not_not.mpr rfl), ?_⟩⟩
    rw [parsed]
    dsimp only
    rcases created with ⟨existing, found, read, same, agrees, rfl⟩ |
      ⟨missing, rfl, rfl⟩
    · rw [found]
      exact bind_eq_ok.mpr ⟨_, read, bind_eq_ok.mpr
        ⟨(), raiseIf_eq_ok.mpr (not_not.mpr same), bind_eq_ok.mpr
          ⟨(), raiseIf_eq_ok.mpr (not_not.mpr agrees), rfl⟩⟩⟩
    · rw [missing]
      rfl

/-- The rows of a snapshot that has just been registered. -/
theorem artifactsOf_register {id : Uuid}
    (missing : database.snapshots.get? id = none)
    (snapshot : EmbeddingSnapshot) (chunks : List ChunkEmbeddingInput) :
    (database.register id snapshot chunks).artifactsOf id =
      chunks.map (newArtifact id) := by
  have none : database.artifactsOf id = [] := by
    refine List.filter_eq_nil_iff.mpr fun row member => ?_
    rw [decide_eq_true_eq]
    rintro rfl
    obtain ⟨entry, among, same⟩ :=
      List.mem_map.mp (database.registered row member)
    have found : database.snapshots.get? row.embeddingSnapshotId =
        some entry.2 :=
      (Dict.get?_eq_some_iff _).mpr (same ▸ among)
    rw [found] at missing
    cases missing
  unfold artifactsOf register
  rw [List.filter_append]
  change database.artifactsOf id ++ _ = _
  rw [none, List.nil_append, List.filter_eq_self]
  intro row member
  obtain ⟨chunk, -, rfl⟩ := List.mem_map.mp member
  exact decide_eq_true rfl

theorem evidence_newArtifact (id : Uuid)
    (chunks : List ChunkEmbeddingInput) :
    evidence (chunks.map (newArtifact id)) = expected chunks := by
  unfold evidence expected
  rw [List.map_map]
  rfl

/-- A new row is read back as the snapshot, which is not complete. -/
theorem fromRow_newRow {id : Uuid} {snapshot : EmbeddingSnapshot}
    (named : snapshot.snapshotId = libraries.uuidText id)
    (fresh : snapshot.complete = false ∧ snapshot.indexName = none ∧
      snapshot.indexState = "pending") :
    fromRow libraries (newRow id snapshot) = .ok snapshot := by
  refine embeddingSnapshot_ok.mpr ⟨?_, fresh.1, fresh.2.1, fresh.2.2⟩
  change _ = { snapshot.toSnapshotIdentity with
    snapshotId := libraries.uuidText id }
  rw [← named]

theorem createSnapshot_again
    (same : second.toSnapshotIdentity = first.toSnapshotIdentity)
    {id : Uuid} (named : first.snapshotId = libraries.uuidText id)
    (fresh : first.complete = false ∧ first.indexName = none ∧
      first.indexState = "pending")
    (created : createSnapshot libraries database first chunks =
      .ok (stored, after)) :
    createSnapshot libraries after second chunks = .ok (stored, after) := by
  obtain ⟨hashed, other, parsed, created⟩ := createSnapshot_ok.mp created
  rw [named, libraries.parseUuid_text] at parsed
  obtain rfl := Option.some.inj parsed
  have renamed : second.snapshotId = first.snapshotId :=
    congrArg SnapshotIdentity.snapshotId same
  have manifest : second.artifactManifestHash = first.artifactManifestHash :=
    congrArg SnapshotIdentity.artifactManifestHash same
  refine createSnapshot_ok.mpr ⟨manifest ▸ hashed, id, ?_, .inl ?_⟩
  · rw [renamed, named, libraries.parseUuid_text]
  · rcases created with ⟨existing, found, read, identical, agrees, rfl⟩ |
      ⟨missing, rfl, rfl⟩
    · exact ⟨existing, found, read, identical.trans same.symm, agrees, rfl⟩
    · refine ⟨_, Dict.get?_set_self _ _ _, fromRow_newRow named fresh,
        same.symm, ?_, rfl⟩
      rw [artifactsOf_register missing, evidence_newArtifact]
      exact Dict.agrees_iff.mpr fun _ => rfl

end EmbeddingDatabase

/-! ## Two plans of one dataset -/

section Plans

variable {libraries : EmbeddingLibraries} {arguments : BuildArguments}
  {dataset : DatasetFile} {plan : EmbeddingBuildPlan}

theorem planIdentity_manifest {payload : Bytes} {dimension : ℤ}
    {planned : PlannedIdentity}
    (read : planIdentity libraries payload dimension = .ok planned) :
    chunkManifestHash libraries.toPlatform planned.chunks =
      .ok planned.manifestHash := by
  obtain ⟨_, -, read⟩ := bind_eq_ok.mp read
  obtain ⟨⟨⟩, -, read⟩ := bind_eq_ok.mp read
  obtain ⟨_, -, read⟩ := bind_eq_ok.mp read
  obtain ⟨_, -, read⟩ := bind_eq_ok.mp read
  obtain ⟨_, -, read⟩ := bind_eq_ok.mp read
  obtain ⟨⟨⟩, -, read⟩ := bind_eq_ok.mp read
  obtain ⟨_, -, read⟩ := bind_eq_ok.mp read
  obtain ⟨⟨⟩, -, read⟩ := bind_eq_ok.mp read
  obtain ⟨manifest, hashed, read⟩ := bind_eq_ok.mp read
  obtain rfl := Except.ok.inj read
  exact hashed

/-- What a plan says, apart from its totals. -/
theorem buildPlan_inv
    (built : buildPlan libraries dataset arguments = .ok plan) :
    ∃ planned createdAt,
      planIdentity libraries dataset.payload arguments.dimension =
          .ok planned ∧
        libraries.canonicalJsonHash (planned.identity arguments) =
            .ok plan.planHash ∧
          libraries.fromTimestamp dataset.modified = .ok createdAt ∧
            plan.snapshot.toSnapshotIdentity =
                planned.snapshotIdentity libraries arguments plan.planHash
                  createdAt ∧
              (plan.snapshot.complete = false ∧
                plan.snapshot.indexName = none ∧
                  plan.snapshot.indexState = "pending") ∧
                plan.chunks = planned.chunks := by
  obtain ⟨⟨⟩, -, identified⟩ := bind_eq_ok.mp built
  obtain ⟨planned, read, hashing⟩ := bind_eq_ok.mp identified
  obtain ⟨planHash, hashed, dating⟩ := bind_eq_ok.mp hashing
  obtain ⟨createdAt, dated, making⟩ := bind_eq_ok.mp dating
  obtain ⟨snapshot, made, returned⟩ := bind_eq_ok.mp making
  obtain rfl := Except.ok.inj returned
  obtain ⟨identity, fresh⟩ := embeddingSnapshot_ok.mp made
  exact ⟨planned, createdAt, read, hashed, dated, identity, fresh, rfl⟩

end Plans

/-- Two plans of equal bytes under equal arguments resume each other if and
only if the datasets carry the same modification date. -/
theorem build_resumed_iff {libraries : EmbeddingLibraries}
    {arguments : BuildArguments} {dataset copy : DatasetFile}
    {first second : EmbeddingBuildPlan}
    (sameBytes : copy.payload = dataset.payload)
    (builtFirst : buildPlan libraries dataset arguments = .ok first)
    (builtSecond : buildPlan libraries copy arguments = .ok second) :
    first.ResumedBy libraries second ↔
      libraries.fromTimestamp copy.modified =
        libraries.fromTimestamp dataset.modified := by
  obtain ⟨planned, createdAt, read, hashed, dated, identity, fresh, chunks⟩ :=
    buildPlan_inv builtFirst
  obtain ⟨planned', createdAt', read', hashed', dated', identity', -,
    chunks'⟩ := buildPlan_inv builtSecond
  rw [sameBytes] at read'
  obtain rfl := Except.ok.inj (read.symm.trans read')
  have planHash : second.planHash = first.planHash :=
    Except.ok.inj (hashed'.symm.trans hashed)
  have named : second.snapshot.snapshotId = first.snapshot.snapshotId := by
    have here := congrArg SnapshotIdentity.snapshotId identity
    have there := congrArg SnapshotIdentity.snapshotId identity'
    rw [planHash] at there
    exact there.trans here.symm
  have sameChunks : second.chunks = first.chunks := chunks'.trans chunks.symm
  have dates : second.snapshot.toSnapshotIdentity =
      first.snapshot.toSnapshotIdentity ↔ createdAt' = createdAt := by
    rw [identity, identity', planHash]
    constructor
    · exact congrArg SnapshotIdentity.createdAt
    · rintro rfl
      rfl
  rw [dated, dated', Except.ok.injEq, ← dates]
  constructor
  · intro resumed
    have manifest : chunkManifestHash libraries.toPlatform first.chunks =
        .ok first.snapshot.artifactManifestHash := by
      rw [chunks, planIdentity_manifest read]
      exact congrArg (Except.ok ∘ SnapshotIdentity.artifactManifestHash)
        identity.symm
    obtain ⟨after, stored⟩ : ∃ after,
        MemoryEmbeddingRepository.createSnapshot libraries.toPlatform .empty
          first.snapshot first.chunks = .ok (first.snapshot, after) :=
      ⟨_, MemoryEmbeddingRepository.createSnapshot_ok.mpr
        ⟨manifest, .inr ⟨rfl, rfl, rfl⟩⟩⟩
    exact MemoryEmbeddingRepository.createSnapshot_identity named stored
      (resumed.memory .empty _ _ stored)
  · intro same
    have uuid := congrArg SnapshotIdentity.snapshotId identity
    refine
      { planHash_eq := planHash
        snapshotId_eq := named
        memory := ?_
        database := ?_ }
    · intro repository stored after created
      rw [sameChunks]
      exact MemoryEmbeddingRepository.createSnapshot_again same created
    · intro database stored after created
      rw [sameChunks]
      exact EmbeddingDatabase.createSnapshot_again same uuid fresh created

/-! ## A copied dataset -/

/-- Digests tell arrays from objects. -/
def sampleLibraries : EmbeddingLibraries :=
  { samplePlatform with
    canonicalJsonHash := fun
      | .array _ => .ok (String.ofList (List.replicate 64 'a'))
      | _ => .ok (String.ofList (List.replicate 64 'b'))
    loads := JsonReader.loads JsonReader.sampleReader
    str := Json.pyStr sampleFloats String.toList
    fromTimestamp := fun seconds => .ok ⌊seconds * 1000000⌋
    uuid5 := fun name => ⟨name.length⟩
    parseUuid := fun text => (JsonReader.readNat text.toList).map Uuid.mk
    parseUuid_text := by
      intro id
      change (JsonReader.readNat (toString id.value).toList).map Uuid.mk = _
      rw [natText_toList, JsonReader.readNat_toDigits]
      rfl
    uuidHex := fun id => toString id.value
    norm := fun vector => vector.headD (.finite 0)
    divide := fun value _ => value }

def sampleDataset (path : String) (modified : ℚ) : DatasetFile :=
  { path := path
    isFile := true
    isSymlink := false
    payload := utf8 ("\x7b\"chunk_id\": \"c\", \"document_id\": \"d\", " ++
      "\"parse_snapshot_id\": \"p\", \"strategy\": \"s\", " ++
      "\"content\": \"text\", \"token_count\": 1\x7d").toList
    modified := modified }

def sampleArguments : BuildArguments :=
  { corpusSnapshotId := "corpus"
    modelId := "passage"
    queryModelId := "query"
    dimension := 1 }

/-- The plan of a dataset that was modified at the given time. -/
def samplePlan (path : String) (modified : ℚ) :
    Except PyException EmbeddingBuildPlan :=
  buildPlan sampleLibraries (sampleDataset path modified) sampleArguments

/-- The copy is one second younger. -/
theorem younger_copy_refused :
    ∃ first second stored after,
      samplePlan "chunks.jsonl" 0 = .ok first ∧
        samplePlan "copy.jsonl" 1 = .ok second ∧
          MemoryEmbeddingRepository.createSnapshot
            sampleLibraries.toPlatform .empty first.snapshot
              first.chunks = .ok (stored, after) ∧
            ∀ accepted,
              MemoryEmbeddingRepository.createSnapshot
                sampleLibraries.toPlatform after second.snapshot
                second.chunks ≠ .ok accepted := by
  have computed : ∃ first ∈ (samplePlan "chunks.jsonl" 0).toOption,
      ∃ second ∈ (samplePlan "copy.jsonl" 1).toOption,
        ∃ stored ∈ (MemoryEmbeddingRepository.createSnapshot
            sampleLibraries.toPlatform .empty first.snapshot
            first.chunks).toOption,
          (MemoryEmbeddingRepository.createSnapshot
            sampleLibraries.toPlatform stored.2 second.snapshot
            second.chunks).toOption.isNone := by
    decide +kernel
  obtain ⟨first, builtFirst, second, builtSecond, ⟨stored, after⟩, created,
    refused⟩ := computed
  rw [Option.mem_def, toOption_eq_some] at builtFirst builtSecond created
  refine ⟨first, second, stored, after, builtFirst, builtSecond, created,
    fun accepted again => ?_⟩
  rw [again] at refused
  cases refused

/-- The copy keeps the modification date. -/
theorem build_resumed_iff_dated :
    ∃ first second,
      samplePlan "chunks.jsonl" 0 = .ok first ∧
        samplePlan "copy.jsonl" 0 = .ok second ∧
          first.ResumedBy sampleLibraries second := by
  have computed : (samplePlan "chunks.jsonl" 0).toOption.isSome ∧
      (samplePlan "copy.jsonl" 0).toOption.isSome := by
    decide +kernel
  obtain ⟨first, builtFirst⟩ := Option.isSome_iff_exists.mp computed.1
  obtain ⟨second, builtSecond⟩ := Option.isSome_iff_exists.mp computed.2
  rw [toOption_eq_some] at builtFirst builtSecond
  exact ⟨first, second, builtFirst, builtSecond,
    (build_resumed_iff rfl builtFirst builtSecond).mpr rfl⟩

end RagBench
