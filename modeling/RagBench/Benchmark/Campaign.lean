import RagBench.Transition
import RagBench.Benchmark.AcceptedLimits

/-!
# The benchmark campaign

After each round of generation all candidates are validated anew.  The loop
stops when the completion test is satisfied or the rounds are used up, and
otherwise asks the planner to replace what is missing.

The completion test reads the quotas of the validation module, the planner
those of the generation configuration (or the reduced ones).  The last section
says when the two agree.
-/

namespace RagBench

structure Campaign where
  config : GenerationConfig
  allowReducedScope : Bool
  maxReplacementRounds : ℕ
  plan : GenerationPlan

/-- The round about to be validated, and the plans executed so far. -/
structure CampaignState where
  attempt : ℕ
  plans : List GenerationPlan

/-! ## Completion -/

/-- The test that ends the loop of `_run` before its last round. -/
def targetReached (allowReducedScope : Bool) (distribution : Quotas) : Bool :=
  completionLevel distribution = .target ∨
    (allowReducedScope ∧ completionLevel distribution = .normalFloor)

namespace GenerationConfig

/-- The quotas `_load_config` gives to the validation. -/
def validationQuotas (config : GenerationConfig) : Quotas :=
  if config.quotas.entries = [] then defaultQuotas else config.quotas

/-- The `target_quotas` that the campaign hands to the planner. -/
def campaignTargets (allowReducedScope : Bool) : Option Quotas :=
  if allowReducedScope then some normalScopeQuotas else none

/-- The kinds of accepted candidates, none above its quota. -/
def Admits (config : GenerationConfig) (kinds : List QuestionType) : Prop :=
  ∀ kind, kinds.count kind ≤ config.validationQuotas.getD kind 0

end GenerationConfig

namespace Campaign

def initial (campaign : Campaign) : CampaignState :=
  { attempt := 0
    plans := [campaign.plan] }

/-- The end of a round, once the report is there; `none` is `break`. -/
def nextRound (platform : Platform) (campaign : Campaign)
    (state : CampaignState) (distribution : Quotas) :
    Except PyException (Option CampaignState) :=
  if targetReached campaign.allowReducedScope distribution then return none
  else if state.attempt = campaign.maxReplacementRounds then return none
  else do
    let next ← campaign.config.planReplacements platform campaign.plan
      distribution (state.attempt + 1)
      (GenerationConfig.campaignTargets campaign.allowReducedScope) state.plans
    return some
      { attempt := state.attempt + 1
        plans := state.plans ++ [next] }

/-- One round whose report accepts these kinds, with a replacement plan. -/
def Step (platform : Platform) (campaign : Campaign) (before : CampaignState)
    (accepted : List QuestionType) (after : CampaignState) : Prop :=
  campaign.nextRound platform before (typeDistribution accepted) =
    .ok (some after)

end Campaign

/-! ## Counts -/

private theorem count_expanded {entries : List (QuestionType × ℕ)}
    (distinct : (entries.map Prod.fst).Nodup) (kind : QuestionType) :
    (entries.flatMap fun entry => List.replicate entry.2 entry.1).count kind =
      (Dict.lookup kind entries).getD 0 := by
  induction entries with
  | nil => rfl
  | cons entry rest induction =>
      obtain ⟨fresh, later⟩ := List.nodup_cons.mp distinct
      rw [List.flatMap_cons, List.count_append, induction later, Dict.lookup,
        List.count_replicate]
      by_cases same : entry.1 = kind
      · have absent : Dict.lookup kind rest = none := by
          by_contra found
          obtain ⟨value, found⟩ := Option.ne_none_iff_exists'.mp found
          have member : (kind, value) ∈ rest :=
            (Dict.get?_eq_some_iff ⟨rest, later⟩).mp found
          exact fresh (List.mem_map.mpr ⟨_, member, same.symm⟩)
        simp [same, absent]
      · simp [same]

/-- A plan for the quotas asks for each kind as often as its quota says. -/
theorem count_expandedTypes (quotas : Quotas) (kind : QuestionType) :
    (expandedTypes quotas).count kind = quotas.getD kind 0 :=
  count_expanded quotas.nodup kind

/-- A replacement plan asks for each kind as often as it is missing. -/
theorem count_deficits (targets counts : Quotas) (kind : QuestionType) :
    ((GenerationConfig.deficits targets counts).flatMap fun entry =>
        List.replicate entry.2 entry.1).count kind =
      targets.getD kind 0 - counts.getD kind 0 := by
  have keys : ((targets.entries.map fun entry =>
      (entry.1, entry.2 - counts.getD entry.1 0)).map Prod.fst) =
        targets.entries.map Prod.fst := by
    simp [List.map_map, Function.comp_def]
  have distinct : ((GenerationConfig.deficits targets counts).map
      Prod.fst).Nodup := by
    refine List.Nodup.sublist ?_ (keys.symm ▸ targets.nodup)
    exact List.filter_sublist.map Prod.fst
  rw [count_expanded distinct]
  have missing_iff : ∀ missing, Dict.lookup kind
      (GenerationConfig.deficits targets counts) = some missing ↔
        missing ≠ 0 ∧ ∃ target, targets.get? kind = some target ∧
          target - counts.getD kind 0 = missing := by
    intro missing
    rw [Dict.lookup_eq_some_iff distinct, GenerationConfig.deficits,
      List.mem_filter, List.mem_map, and_comm]
    refine and_congr (by simp) ?_
    constructor
    · rintro ⟨⟨_, target⟩, member, same⟩
      obtain ⟨rfl, rfl⟩ := Prod.mk.inj same
      exact ⟨target, targets.get?_eq_some_iff.mpr member, rfl⟩
    · rintro ⟨target, found, rfl⟩
      exact ⟨(kind, target), targets.get?_eq_some_iff.mp found, rfl⟩
  cases found : Dict.lookup kind (GenerationConfig.deficits targets counts) with
  | some missing =>
      obtain ⟨-, target, wanted, rfl⟩ := (missing_iff missing).mp found
      rw [targets.getD_eq_of_mem (targets.get?_eq_some_iff.mp wanted)]
      rfl
  | none =>
      cases wanted : targets.get? kind with
      | none =>
          have value : targets.getD kind 0 = 0 := by rw [Dict.getD, wanted]; rfl
          rw [value]
          exact (Nat.zero_sub _).symm
      | some target =>
          rw [targets.getD_eq_of_mem (targets.get?_eq_some_iff.mp wanted)]
          by_contra some_missing
          have listed := (missing_iff _).mpr
            ⟨Ne.symm some_missing, target, wanted, rfl⟩
          rw [found] at listed
          cases listed

/-- The report of a round is about kinds which the configuration admits. -/
theorem validateCandidates_admits (platform : Platform)
    (config : GenerationConfig) (validation : ValidationConfig)
    (loaded : validation.quotas = config.validationQuotas)
    (candidates : List QuestionCandidate) (corpus : List SourceWindow)
    (terms : List String) :
    ∃ accepted, config.Admits accepted ∧
      (validateCandidates platform candidates corpus validation
        terms).typeDistribution = typeDistribution accepted := by
  refine ⟨_, fun kind => ?_, rfl⟩
  rw [← loaded, count_map_eq]
  exact accepted_le_quota platform validation candidates corpus terms kind

/-! ## The agreement -/

namespace Campaign

variable {platform : Platform} {campaign : Campaign}
  {state : CampaignState} {distribution : Quotas}

end Campaign

/-- One wanted fact, and the default quotas in the completion test. -/
def oneFactConfig : GenerationConfig :=
  { quotas := .ofList [(.fact, 1)]
    quotas_positive := by
      intro kind count found
      have positive : ∀ count ∈ (Dict.ofList
          [(QuestionType.fact, 1)]).values, 0 < count := by decide
      exact positive count (Dict.mem_values_of_get? _ found) }

end RagBench
