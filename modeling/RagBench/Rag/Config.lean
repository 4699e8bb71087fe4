import RagBench.PyText
import RagBench.Rag.FrozenParams
import RagBench.Rag.Prompts

/-!
# Configurations of answers

A configuration is validated and keeps a frozen copy of its provider
parameters.  Building it again from its own fields freezes that copy again.
-/

namespace RagBench

/-- A `Mapping[str, Any]`. -/
inductive ParamMapping where
  | dict (entries : List (ParamKey × ParamValue))
  | mappingProxy (entries : List (ParamKey × ParamValue))

namespace ParamMapping

/-- `dict(mapping)`. -/
def entries : ParamMapping → List (ParamKey × ParamValue)
  | .dict entries => entries
  | .mappingProxy entries => entries

def value : ParamMapping → ParamValue
  | .dict entries => .dict entries
  | .mappingProxy entries => .mappingProxy entries

end ParamMapping

/-- `value` when `isinstance(value, Mapping)`. -/
def ParamValue.asMapping : ParamValue → Option ParamMapping
  | .dict entries => some (.dict entries)
  | .mappingProxy entries => some (.mappingProxy entries)
  | _ => Option.none

theorem ParamMapping.value_asMapping (mapping : ParamMapping) :
    mapping.value.asMapping = some mapping := by
  cases mapping <;> rfl

theorem ParamValue.eq_of_asMapping {value : ParamValue}
    {mapping : ParamMapping} (found : value.asMapping = some mapping) :
    value = mapping.value := by
  cases value with
  | dict entries | mappingProxy entries =>
      cases found
      rfl
  | none | bool | int | float | str | list | tuple | other => cases found

/-- `_provider_params_dict`. -/
def providerParamsDict (mapping : ParamMapping) :
    Except PyException (List (ParamKey × ParamValue)) :=
  match thawJson mapping.value with
  | .dict entries => .ok entries
  | _ => .error (.typeError "provider_params must be a JSON object")

/-- A mapping thaws to a dictionary. -/
theorem providerParamsDict_eq_ok (mapping : ParamMapping) :
    providerParamsDict mapping = .ok (thawEntries mapping.entries) := by
  cases mapping <;> rfl

/-- The thawed parameters, as a request has them. -/
def providerParamsJson (mapping : ParamMapping) :
    Except PyException JsonObject := do
  return Json.ofEntryParams (← providerParamsDict mapping)

/-- What a configuration is built from. -/
structure RagConfigFields where
  searchFilter : SearchFilter
  modelId : String
  /-- `none` for what is not a version. -/
  promptVersion : Option PromptVersion
  topK : ParamValue
  contextTokenBudget : ParamValue
  maxOutputTokens : ParamValue
  experimentId : String
  configId : String
  providerParams : ParamMapping := .dict []

structure RagConfig where
  searchFilter : SearchFilter
  modelId : String
  promptVersion : PromptVersion
  topK : ℤ
  contextTokenBudget : ℤ
  maxOutputTokens : ℤ
  experimentId : String
  configId : String
  providerParams : ParamMapping
  identified : ∀ value ∈ [modelId, experimentId, configId], strip value ≠ ""
  bounded : 0 < topK ∧ 0 ≤ contextTokenBudget ∧ 0 < maxOutputTokens
  frozen : ∃ entries, freezeJson (.dict entries) = .ok providerParams.value

/-- The parameters of a configuration thaw to a JSON object. -/
theorem RagConfig.providerParamsJson_ok (config : RagConfig) :
    ∃ params, providerParamsJson config.providerParams = .ok params ∧
      Json.entryParams params =
        thawEntries config.providerParams.entries := by
  obtain ⟨entries, freezes⟩ := config.frozen
  have thawed := Json.param_ofParam_thaw _ freezes
  refine ⟨Json.ofEntryParams (thawEntries config.providerParams.entries),
    ?_, ?_⟩
  · rw [providerParamsJson, providerParamsDict_eq_ok]
    rfl
  · cases params : config.providerParams with
    | dict found | mappingProxy found =>
        rw [params] at thawed
        exact ParamValue.dict.inj thawed

/-- The checks of a bounded integer; booleans do not count. -/
def integerFrom (least : ℤ) (message : String) :
    ParamValue → Except PyException { number : ℤ // least ≤ number }
  | .int number =>
      if bounded : least ≤ number then .ok ⟨number, bounded⟩
      else .error (.valueError message)
  | _ => .error (.valueError message)

/-- The frozen copy of a mapping. -/
def frozenParams (params : ParamMapping) : Except PyException
    { frozen : ParamMapping //
      ∃ entries, freezeJson (.dict entries) = .ok frozen.value } :=
  match freezes : freezeJson (.dict params.entries) with
  | .error error => .error error
  | .ok frozen =>
      match mapped : frozen.asMapping with
      | none => .error (.typeError "provider_params must be a JSON object")
      | some mapping => .ok ⟨mapping, params.entries,
          freezes.trans
            (congrArg Except.ok (ParamValue.eq_of_asMapping mapped))⟩

theorem integerFrom_eq_ok {least : ℤ} {message : String} {value : ParamValue}
    {number : { number : ℤ // least ≤ number }} :
    integerFrom least message value = .ok number ↔ value = .int number.val := by
  cases value with
  | int found =>
      unfold integerFrom
      obtain ⟨number, bounded⟩ := number
      simp only [ParamValue.int.injEq]
      constructor
      · intro success
        split_ifs at success
        cases success
        rfl
      · rintro rfl
        exact dif_pos bounded
  | none | bool | float | str | list | tuple | dict | mappingProxy | other =>
      simp [integerFrom]

theorem frozenParams_eq_ok {params : ParamMapping}
    {frozen : { frozen : ParamMapping //
      ∃ entries, freezeJson (.dict entries) = .ok frozen.value }} :
    frozenParams params = .ok frozen ↔
      freezeJson (.dict params.entries) = .ok frozen.val.value := by
  unfold frozenParams
  split
  · rename_i error failed
    refine ⟨fun success => ?_, fun success => ?_⟩
    · cases success
    · rw [failed] at success
      cases success
  · rename_i value freezes
    have same : value = frozen.val.value ↔
        freezeJson (.dict params.entries) = .ok frozen.val.value := by
      rw [freezes, Except.ok.injEq]
    rw [← same]
    split
    · rename_i missing
      refine ⟨fun success => ?_, fun equal => ?_⟩
      · cases success
      · rw [equal, ParamMapping.value_asMapping] at missing
        cases missing
    · rename_i mapping mapped
      constructor
      · intro success
        cases success
        exact ParamValue.eq_of_asMapping mapped
      · intro equal
        rw [equal, ParamMapping.value_asMapping, Option.some_inj] at mapped
        exact congrArg Except.ok (Subtype.ext mapped.symm)

/-- A frozen dictionary is a mapping, so only freezing it can fail. -/
theorem frozenParams_eq_error {params : ParamMapping}
    {error : PyException} :
    frozenParams params = .error error ↔
      freezeJson (.dict params.entries) = .error error := by
  unfold frozenParams
  split
  · rename_i other failed
    rw [failed]
    simp
  · rename_i value freezes
    refine iff_of_false ?_ fun fails => ?_
    · have mapping := freezes
      rw [freezeJson] at mapping
      obtain ⟨_, -, mapping⟩ := bind_eq_ok.mp mapping
      obtain ⟨entries, -, mapping⟩ := bind_eq_ok.mp mapping
      cases mapping
      intro failed
      cases failed
    · rw [freezes] at fails
      cases fails

namespace RagConfig

/-- `RagConfig.__post_init__`. -/
def create (fields : RagConfigFields) : Except PyException RagConfig :=
  match fields.promptVersion with
  | none => .error (.valueError "unknown prompt version")
  | some promptVersion =>
      if blank : ∃ value ∈ [fields.modelId, fields.experimentId,
          fields.configId], strip value = "" then
        .error (.valueError
          "model, experiment, and config identities cannot be blank")
      else do
        let topK ← integerFrom 1 "top_k must be a positive integer"
          fields.topK
        let contextTokenBudget ← integerFrom 0
          "context_token_budget must be a nonnegative integer"
          fields.contextTokenBudget
        let maxOutputTokens ← integerFrom 1
          "max_output_tokens must be a positive integer"
          fields.maxOutputTokens
        let providerParams ← frozenParams fields.providerParams
        return {
          searchFilter := fields.searchFilter
          modelId := fields.modelId
          promptVersion := promptVersion
          topK := topK.val
          contextTokenBudget := contextTokenBudget.val
          maxOutputTokens := maxOutputTokens.val
          experimentId := fields.experimentId
          configId := fields.configId
          providerParams := providerParams.val
          identified := fun value member empty =>
            blank ⟨value, member, empty⟩
          bounded := ⟨topK.property, contextTokenBudget.property,
            maxOutputTokens.property⟩
          frozen := providerParams.property }

/-- The fields of a configuration, as `dataclasses.replace` passes them. -/
def fields (config : RagConfig) : RagConfigFields where
  searchFilter := config.searchFilter
  modelId := config.modelId
  promptVersion := some config.promptVersion
  topK := .int config.topK
  contextTokenBudget := .int config.contextTokenBudget
  maxOutputTokens := .int config.maxOutputTokens
  experimentId := config.experimentId
  configId := config.configId
  providerParams := config.providerParams

/-- The fields of a configuration pass their checks again, and what is left is
to freeze the parameters. -/
theorem create_fields (config : RagConfig) (params : ParamMapping) :
    create { config.fields with providerParams := params } = do
      let frozen ← frozenParams params
      return { config with
        providerParams := frozen.val
        frozen := frozen.property } := by
  have topK : integerFrom 1 "top_k must be a positive integer"
      (.int config.topK) = .ok ⟨config.topK, config.bounded.1⟩ :=
    integerFrom_eq_ok.mpr rfl
  have budget : integerFrom 0
      "context_token_budget must be a nonnegative integer"
      (.int config.contextTokenBudget) =
        .ok ⟨config.contextTokenBudget, config.bounded.2.1⟩ :=
    integerFrom_eq_ok.mpr rfl
  have tokens : integerFrom 1 "max_output_tokens must be a positive integer"
      (.int config.maxOutputTokens) =
        .ok ⟨config.maxOutputTokens, config.bounded.2.2⟩ :=
    integerFrom_eq_ok.mpr rfl
  have identified : ¬∃ value ∈ [config.modelId, config.experimentId,
      config.configId], strip value = "" := by
    rintro ⟨value, member, empty⟩
    exact config.identified value member empty
  unfold create
  refine (dif_neg identified).trans ?_
  change (integerFrom 1 _ (.int config.topK) >>= fun _ =>
    integerFrom 0 _ (.int config.contextTokenBudget) >>= fun _ =>
      integerFrom 1 _ (.int config.maxOutputTokens) >>= fun _ => _) = _
  rw [topK, budget, tokens]
  rfl

/-- A configuration is built from its fields, and freezes the parameters. -/
theorem create_eq_ok {fields : RagConfigFields} {config : RagConfig} :
    create fields = .ok config ↔
      { fields with providerParams := config.providerParams } =
          config.fields ∧
        freezeJson (.dict fields.providerParams.entries) =
          .ok config.providerParams.value := by
  constructor
  · intro success
    obtain ⟨searchFilter, modelId, version, topK, contextTokenBudget,
      maxOutputTokens, experimentId, configId, providerParams⟩ := fields
    unfold create at success
    cases version with
    | none => cases success
    | some version =>
        simp only at success
        split_ifs at success
        obtain ⟨first, topK_eq, success⟩ := bind_eq_ok.mp success
        obtain ⟨second, budget_eq, success⟩ := bind_eq_ok.mp success
        obtain ⟨third, tokens_eq, success⟩ := bind_eq_ok.mp success
        obtain ⟨frozen, freezes, success⟩ := bind_eq_ok.mp success
        cases success
        rw [integerFrom_eq_ok] at topK_eq budget_eq tokens_eq
        subst topK_eq budget_eq tokens_eq
        exact ⟨rfl, frozenParams_eq_ok.mp freezes⟩
  · rintro ⟨same, freezes⟩
    have again : fields =
        { config.fields with providerParams := fields.providerParams } := by
      rw [← same]
    rw [again, create_fields]
    exact bind_eq_ok.mpr ⟨⟨config.providerParams, config.frozen⟩,
      frozenParams_eq_ok.mpr freezes, rfl⟩

/-- The parameters of a configuration are accepted again, with the fields of
any other configuration, and stay the same. -/
def Replaces (config : RagConfig) (changed : RagConfigFields) : Prop :=
  ∃ rebuilt, create { changed with providerParams := config.providerParams } =
      .ok rebuilt ∧
    rebuilt.providerParams = config.providerParams

theorem replaces_iff {config other : RagConfig} {changed : RagConfigFields}
    (accepted : create changed = .ok other) :
    config.Replaces changed ↔
      freezeJson (.dict config.providerParams.entries) =
        .ok config.providerParams.value := by
  constructor
  · rintro ⟨rebuilt, success, same⟩
    rw [← same]
    have freezes := (create_eq_ok.mp success).2
    rwa [← same] at freezes
  · intro freezes
    refine ⟨{ other with
      providerParams := config.providerParams, frozen := config.frozen },
      create_eq_ok.mpr ⟨?_, freezes⟩, rfl⟩
    exact congrArg (fun fields : RagConfigFields =>
      { fields with providerParams := config.providerParams })
      (create_eq_ok.mp accepted).1

end RagConfig

/-! ## Reversible parameters -/

theorem ParamMapping.value_injective : Function.Injective value := by
  intro left right same
  cases left <;> cases right <;> cases same <;> rfl

/-- What a configuration keeps of decoded parameters. -/
theorem RagConfig.providerParams_of_create {value : Json}
    {fields : RagConfigFields} {config : RagConfig}
    (decoded : fields.providerParams.value = value.param)
    (accepted : create fields = .ok config) :
    ∃ entries, value = .object entries ∧
      config.providerParams = .mappingProxy (Json.frozenEntries entries) := by
  have freezes := (create_eq_ok.mp accepted).2
  cases params : fields.providerParams with
  | mappingProxy found =>
      rw [params] at decoded
      cases value <;> cases decoded
  | dict found =>
      rw [params] at decoded freezes
      cases value with
      | object entries =>
          cases decoded
          refine ⟨entries, rfl, ParamMapping.value_injective ?_⟩
          have known := Json.freezeJson_param (.object entries)
          exact Except.ok.inj (freezes.symm.trans known)
      | null | bool | int | float | str | array => cases decoded

/-- Freezing can be undone, but only what has no object in it can be frozen
again: a configuration with nested objects cannot be built from its own
fields. -/
theorem RagConfig.frozen_reversible (value : Json) :
    (∃ frozen, freezeJson value.param = .ok frozen ∧
      thawJson frozen = value.param ∧
      (freezeJson frozen = .ok frozen ↔ value.objectFree)) ∧
    ∀ fields config, fields.providerParams.value = value.param →
      create fields = .ok config →
      thawJson config.providerParams.value = value.param ∧
        (config.Replaces config.fields ↔ value.flat) ∧
        ∀ changed other, create changed = .ok other →
          (config.Replaces changed ↔ value.flat) := by
  constructor
  · refine ⟨value.frozen, Json.freezeJson_param value,
      Json.thawJson_frozen value, ?_⟩
    rw [Json.freezeJson_frozen]
    cases value.objectFree <;> simp
  · intro fields config decoded accepted
    obtain ⟨entries, rfl, params⟩ := providerParams_of_create decoded accepted
    have refreezes : freezeJson (.dict config.providerParams.entries) =
        .ok config.providerParams.value ↔ (Json.object entries).flat := by
      rw [params]
      change freezeJson (.dict (Json.frozenEntries entries)) =
        .ok (Json.object entries).frozen ↔ _
      rw [Json.freezeJson_frozenEntries]
      cases (Json.object entries).flat <;> simp
    refine ⟨?_, ?_, fun changed other success =>
      (replaces_iff success).trans refreezes⟩
    · rw [params]
      exact Json.thawJson_frozen (.object entries)
    · have own := (create_eq_ok.mp accepted).1
      have same : config.Replaces config.fields ↔ config.Replaces fields := by
        rw [← own]
        rfl
      exact same.trans ((replaces_iff accepted).trans refreezes)

theorem RagConfig.nested_params_not_rebuilt :
    ∃ (fields : RagConfigFields) (config : RagConfig),
      fields.providerParams = .dict (Json.entryParams
        [("temperature", .int 0),
          ("response", .object [("format", .str "json")])]) ∧
      create fields = .ok config ∧
      freezeJson config.providerParams.value = .error incompatibleParam ∧
      create config.fields = .error incompatibleParam := by
  let entries : List (String × Json) := [("temperature", .int 0),
    ("response", .object [("format", .str "json")])]
  let searchFilter : SearchFilter :=
    ⟨"corpus", "parse", "heading", "embed", []⟩
  let config : RagConfig := ⟨searchFilter, "solar-pro4", .v3, 2, 1000, 200,
    "experiment-7", "config-11", .mappingProxy (Json.frozenEntries entries),
    by decide +kernel, by decide, _, Json.freezeJson_param (.object entries)⟩
  refine ⟨⟨searchFilter, "solar-pro4", some .v3, .int 2, .int 1000, .int 200,
    "experiment-7", "config-11", .dict (Json.entryParams entries)⟩, config,
    rfl, ?_, rfl, ?_⟩
  · exact create_eq_ok.mpr ⟨rfl, Json.freezeJson_param (.object entries)⟩
  · rw [show config.fields = { config.fields with
      providerParams := config.providerParams } from rfl, create_fields]
    exact bind_eq_error.mpr (.inl (frozenParams_eq_error.mpr rfl))

end RagBench
