import Mathlib.Algebra.Order.BigOperators.Group.List
import RagBench.Benchmark.Campaign
import RagBench.Benchmark.Grounding

/-!
# The projected cost of a campaign

A campaign is approved on the price of its initial plan, once for each round.
The replacement plans are priced in the same way when they are made, from
prompts that did not exist at the approval.  The projection bounds their total
as long as the prompts of every replacement plan are no longer than distinct
prompts of the initial plan.
-/

namespace RagBench

/-! ## Prices of batches -/

section Prices

variable {platform : Platform} {config : GenerationConfig}
  {priceBook : PriceBook} {modelId : String}

theorem batchPrice_ok {tokens : ℕ} {price : ℚ} :
    batchPrice platform config priceBook modelId tokens = .ok price ↔
      ∃ rates, priceBook.generationRates modelId = .ok rates ∧
        platform.context.quantize 6 .ceiling
          (PriceBook.generationTotal platform.context rates.1 rates.2 tokens
            config.maxOutputTokens) = some price := by
  unfold batchPrice
  rw [PriceBook.estimate_generate, if_neg (by omega), bind_eq_ok]
  simp only [money, quantizeMoney_ok]

theorem batchPrice_nonneg {tokens : ℕ} {price : ℚ}
    (nonneg : priceBook.Nonneg)
    (priced : batchPrice platform config priceBook modelId tokens =
      .ok price) : 0 ≤ price := by
  obtain ⟨rates, known, rounded⟩ := batchPrice_ok.mp priced
  obtain ⟨input, output⟩ := PriceBook.generationRates_nonneg _ nonneg known
  exact Decimal.Context.quantize_nonneg
    (PriceBook.generationTotal_nonneg _ input output (by omega) (by omega))
    rounded

/-- A shorter prompt has a price, and no higher one. -/
theorem batchPrice_mono {tokens bound : ℕ} {limit : ℚ}
    (nonneg : priceBook.Nonneg) (shorter : tokens ≤ bound)
    (priced : batchPrice platform config priceBook modelId bound =
      .ok limit) :
    ∃ price, batchPrice platform config priceBook modelId tokens =
      .ok price ∧ price ≤ limit := by
  obtain ⟨rates, known, rounded⟩ := batchPrice_ok.mp priced
  obtain ⟨input, output⟩ := PriceBook.generationRates_nonneg _ nonneg known
  have totals := PriceBook.generationTotal_mono platform.context input output
    (Int.ofNat_le.mpr shorter) (le_refl (config.maxOutputTokens : ℤ))
  have total : 0 ≤ PriceBook.generationTotal platform.context rates.1 rates.2
      tokens config.maxOutputTokens :=
    PriceBook.generationTotal_nonneg _ input output (by omega) (by omega)
  obtain ⟨price, lower⟩ :=
    Decimal.Context.quantize_isSome_of_le total totals rounded
  exact ⟨price, batchPrice_ok.mpr ⟨rates, known, lower⟩,
    Decimal.Context.quantize_mono totals lower rounded⟩

/-- Prompts matched with longer ones, some of which may be left over, cost no
more than these. -/
private theorem prices_le {tokens bounds : List ℕ} {limits : List ℚ}
    (nonneg : priceBook.Nonneg)
    (within : List.SublistForall₂ (· ≤ ·) tokens bounds)
    (priced : List.Forall₂ (fun bound limit => batchPrice platform config
      priceBook modelId bound = .ok limit) bounds limits) :
    ∃ prices, List.Forall₂ (fun token price => batchPrice platform config
        priceBook modelId token = .ok price) tokens prices ∧
      prices.sum ≤ limits.sum := by
  induction within generalizing limits with
  | nil =>
      refine ⟨[], .nil, List.sum_nonneg ?_⟩
      intro limit member
      obtain ⟨index, here, rfl⟩ := List.getElem_of_mem member
      have length := priced.length_eq
      exact batchPrice_nonneg nonneg (priced.get (by omega) here)
  | cons shorter _ induction =>
      cases priced with
      | cons first rest =>
          obtain ⟨price, exact, below⟩ := batchPrice_mono nonneg shorter first
          obtain ⟨prices, others, belowOthers⟩ := induction rest
          exact ⟨price :: prices, .cons exact others,
            by simpa using add_le_add below belowOthers⟩
  | cons_right _ induction =>
      cases priced with
      | cons first rest =>
          obtain ⟨prices, others, belowOthers⟩ := induction rest
          refine ⟨prices, others, belowOthers.trans ?_⟩
          simpa using batchPrice_nonneg nonneg first

end Prices

/-! ## Plans within the initial plan -/

/-- The prompts of the plan are no longer than distinct prompts of the initial
plan. -/
def GenerationPlan.FitsInto (platform : Platform)
    (plan initial : GenerationPlan) : Prop :=
  ∃ tokens bounds arranged,
    plan.batches.mapM (promptTokens platform plan) = .ok tokens ∧
      initial.batches.mapM (promptTokens platform initial) = .ok bounds ∧
        arranged.Perm bounds ∧ List.SublistForall₂ (· ≤ ·) tokens arranged

section Plans

variable {platform : Platform} {config : GenerationConfig}
  {priceBook : PriceBook} {multiplier : ℚ} {plan initial : GenerationPlan}

theorem projectedGenerationCost_ok {cost : ℚ} :
    projectedGenerationCost platform config priceBook multiplier plan =
        .ok cost ↔
      1 ≤ multiplier ∧ ∃ tokens prices,
        plan.batches.mapM (promptTokens platform plan) = .ok tokens ∧
          List.Forall₂ (fun token price => batchPrice platform config
            priceBook plan.modelId token = .ok price) tokens prices ∧
            prices.sum * multiplier = cost := by
  unfold projectedGenerationCost
  split_ifs with small
  · simp [not_le.mpr small, throw, throwThe, MonadExceptOf.throw, bind,
      Except.bind]
  · simp only [not_lt.mp small, true_and, ← mapM_eq_ok]
    constructor
    · intro success
      obtain ⟨prices, looped, returned⟩ := bind_eq_ok.mp success
      obtain ⟨tokens, counted, priced⟩ := mapM_bind_eq_ok.mp looped
      exact ⟨tokens, prices, counted, priced, Except.ok.inj returned⟩
    · rintro ⟨tokens, prices, counted, priced, rfl⟩
      exact bind_eq_ok.mpr
        ⟨prices, mapM_bind_eq_ok.mpr ⟨tokens, counted, priced⟩, rfl⟩

/-- A plan that fits costs no more than the initial plan. -/
theorem projectedGenerationCost_le {limit : ℚ}
    (nonneg : priceBook.Nonneg) (fits : plan.FitsInto platform initial)
    (sameModel : plan.modelId = initial.modelId)
    (projected : projectedGenerationCost platform config priceBook multiplier
      initial = .ok limit) :
    ∃ cost, projectedGenerationCost platform config priceBook multiplier
      plan = .ok cost ∧ cost ≤ limit := by
  obtain ⟨atLeastOne, bounds, limits, counted, priced, rfl⟩ :=
    projectedGenerationCost_ok.mp projected
  obtain ⟨tokens, same, arranged, planCounted, sameCounted, permuted, within⟩ :=
    fits
  obtain rfl : same = bounds := Except.ok.inj (sameCounted.symm.trans counted)
  obtain ⟨moved, arrangedPriced, movedPermuted⟩ :=
    List.perm_comp_forall₂ permuted priced
  obtain ⟨prices, planPriced, below⟩ := prices_le nonneg within arrangedPriced
  rw [← sameModel] at planPriced
  refine ⟨prices.sum * multiplier, projectedGenerationCost_ok.mpr
    ⟨atLeastOne, tokens, prices, planCounted, planPriced, rfl⟩, ?_⟩
  rw [← movedPermuted.sum_eq]
  exact mul_le_mul_of_nonneg_right below (by linarith)

theorem projectedGenerationCost_nonneg {cost : ℚ}
    (nonneg : priceBook.Nonneg)
    (projected : projectedGenerationCost platform config priceBook multiplier
      plan = .ok cost) : 0 ≤ cost := by
  obtain ⟨atLeastOne, tokens, prices, -, priced, rfl⟩ :=
    projectedGenerationCost_ok.mp projected
  obtain ⟨none, noPrices, below⟩ := prices_le nonneg .nil priced
  cases noPrices
  exact mul_nonneg below (by linarith)

end Plans

/-! ## Whole campaigns -/

namespace Campaign

variable (platform : Platform) (campaign : Campaign) (priceBook : PriceBook)
  (multiplier : ℚ)

/-- `projected_cost` of `_run`. -/
def projectedCost : Except PyException ℚ := do
  let initial ← projectedGenerationCost platform campaign.config priceBook
    multiplier campaign.plan
  return initial * (campaign.maxReplacementRounds + 1)

/-- The projected costs of the executed plans together. -/
def executedCost (state : CampaignState) : Except PyException ℚ := do
  let costs ← state.plans.mapM
    (projectedGenerationCost platform campaign.config priceBook multiplier)
  return costs.sum

/-- Whatever replaces what these kinds leave missing fits into the initial
plan. -/
def ReplacementFits (before : CampaignState)
    (accepted : List QuestionType) : Prop :=
  ∀ next, campaign.config.planReplacements platform campaign.plan
      (typeDistribution accepted) (before.attempt + 1)
      (GenerationConfig.campaignTargets campaign.allowReducedScope)
      before.plans = .ok next →
    next.FitsInto platform campaign.plan

/-- A round whose replacement plan fits. -/
def FittingStep (before : CampaignState) (accepted : List QuestionType)
    (after : CampaignState) : Prop :=
  campaign.Step platform before accepted after ∧
    campaign.ReplacementFits platform before accepted

variable {platform campaign priceBook multiplier}

/-- What a round does: it counts, and executes one more plan. -/
theorem step_inv {before after : CampaignState}
    {accepted : List QuestionType}
    (step : campaign.Step platform before accepted after) :
    before.attempt ≠ campaign.maxReplacementRounds ∧
      ∃ next, campaign.config.planReplacements platform campaign.plan
          (typeDistribution accepted) (before.attempt + 1)
          (GenerationConfig.campaignTargets campaign.allowReducedScope)
          before.plans = .ok next ∧
        after =
          { attempt := before.attempt + 1
            plans := before.plans ++ [next] } := by
  unfold Step nextRound at step
  split_ifs at step with reached exhausted
  · cases step
  · cases step
  · obtain ⟨next, planned, returned⟩ := bind_eq_ok.mp step
    cases returned
    exact ⟨exhausted, next, planned, rfl⟩

end Campaign

/-- The executed plans after some rounds: one for each round and the first,
all of which fit. -/
structure CampaignState.Within (platform : Platform) (campaign : Campaign)
    (state : CampaignState) : Prop where
  rounds : state.plans.length = state.attempt + 1
  bounded : state.attempt ≤ campaign.maxReplacementRounds
  fits : ∀ plan ∈ state.plans, plan = campaign.plan ∨
    (plan.FitsInto platform campaign.plan ∧
      plan.modelId = campaign.plan.modelId)

namespace Campaign

variable {platform : Platform} {campaign : Campaign} {priceBook : PriceBook}
  {multiplier : ℚ}

theorem initial_within (platform : Platform) (campaign : Campaign) :
    campaign.initial.Within platform campaign where
  rounds := rfl
  bounded := Nat.zero_le _
  fits _ member := .inl (List.mem_singleton.mp member)

theorem step_within {before after : CampaignState}
    {accepted : List QuestionType} (within : before.Within platform campaign)
    (step : campaign.FittingStep platform before accepted after) :
    after.Within platform campaign := by
  obtain ⟨exhausted, next, planned, rfl⟩ := step_inv step.1
  refine ⟨?_, ?_, ?_⟩
  · simp [within.rounds]
  · exact lt_of_le_of_ne within.bounded exhausted
  · intro plan member
    rcases List.mem_append.mp member with earlier | new
    · exact within.fits plan earlier
    · obtain rfl := List.mem_singleton.mp new
      obtain ⟨-, -, _, _, -, rfl⟩ :=
        GenerationConfig.planReplacements_ok planned
      exact .inr ⟨step.2 _ planned, rfl⟩

/-- Every executed plan costs at most as much as the initial one. -/
private theorem costs_le {state : CampaignState} {limit : ℚ}
    (nonneg : priceBook.Nonneg) (within : state.Within platform campaign)
    (projected : projectedGenerationCost platform campaign.config priceBook
      multiplier campaign.plan = .ok limit) :
    ∃ costs, state.plans.mapM (projectedGenerationCost platform
        campaign.config priceBook multiplier) = .ok costs ∧
      ∀ cost ∈ costs, cost ≤ limit := by
  have each : ∀ plan ∈ state.plans, ∃ cost,
      projectedGenerationCost platform campaign.config priceBook multiplier
        plan = .ok cost ∧ cost ≤ limit := by
    intro plan member
    rcases within.fits plan member with rfl | ⟨fits, sameModel⟩
    · exact ⟨limit, projected, le_rfl⟩
    · exact projectedGenerationCost_le nonneg fits sameModel projected
  simp only [mapM_eq_ok]
  generalize state.plans = plans at each
  induction plans with
  | nil => exact ⟨[], .nil, by simp⟩
  | cons plan rest induction =>
      obtain ⟨cost, priced, below⟩ := each plan List.mem_cons_self
      obtain ⟨costs, others, belowOthers⟩ := induction
        fun plan member => each plan (List.mem_cons_of_mem _ member)
      exact ⟨cost :: costs, .cons priced others,
        List.forall_mem_cons.mpr ⟨below, belowOthers⟩⟩

end Campaign

/-- The projection bounds every campaign whose replacement plans fit into its
initial plan. -/
theorem campaign_cost_bounded {platform : Platform} {campaign : Campaign}
    {priceBook : PriceBook} {multiplier projected : ℚ}
    {history : List (List QuestionType)} {state : CampaignState}
    (nonneg : priceBook.Nonneg)
    (approved : campaign.projectedCost platform priceBook multiplier =
      .ok projected)
    (run : Run (campaign.FittingStep platform) campaign.initial history
      state) :
    ∃ total, campaign.executedCost platform priceBook multiplier state =
      .ok total ∧ total ≤ projected := by
  obtain ⟨initial, priced, returned⟩ := bind_eq_ok.mp approved
  obtain rfl := Except.ok.inj returned
  have within := run.stateInvariant (CampaignState.Within platform campaign)
    (Campaign.initial_within platform campaign)
    fun _ _ _ within step => Campaign.step_within within step
  obtain ⟨costs, executed, each⟩ := Campaign.costs_le nonneg within priced
  have rounds : costs.length ≤ campaign.maxReplacementRounds + 1 := by
    rw [← (mapM_eq_ok.mp executed).length_eq, within.rounds]
    exact Nat.succ_le_succ within.bounded
  refine ⟨costs.sum, bind_eq_ok.mpr ⟨costs, executed, rfl⟩, ?_⟩
  calc costs.sum ≤ costs.length • initial :=
        List.sum_le_card_nsmul costs initial each
    _ = initial * costs.length := by rw [nsmul_eq_mul, mul_comm]
    _ ≤ initial * (campaign.maxReplacementRounds + 1) := by
        refine mul_le_mul_of_nonneg_left ?_
          (projectedGenerationCost_nonneg nonneg priced)
        exact_mod_cast rounds

/-! ## Two small campaigns -/

def onePageWindow : SourceWindow :=
  { windowId := "window"
    documentId := "document"
    documentTitle := "Report"
    pageStart := 1
    pageEnd := 1
    chunkIds := ["chunk"]
    content := "sales grew by 15 percent"
    sourceUnits := [⟨1, "chunk", "sales grew by 15 percent"⟩]
    pages_ordered := sampleWindow.pages_ordered
    units_within := sampleWindow.units_within }

/-- Every text counts as a hundred tokens. -/
def constantPlatform : Platform :=
  { samplePlatform with
    tokenCount := fun _ => .ok 100 }

/-- One wanted fact, room for many, and large batches. -/
def roomyConfig : GenerationConfig :=
  { oneFactConfig with
    perDocumentCap := 2000
    perPageCap := 2000
    batchSize := 100
    batchSize_positive := by decide }

def oneFactPlan : GenerationPlan :=
  { planHash := "hash"
    corpusSnapshotId := "snapshot"
    modelId := "model"
    promptVersion := "benchmark-v1"
    jobs := [⟨0, .fact, onePageWindow⟩]
    batches := [⟨"batch-0000", [⟨0, .fact, onePageWindow⟩]⟩] }

def oneFactCampaign (allowReducedScope : Bool) : Campaign :=
  { config := roomyConfig
    allowReducedScope := allowReducedScope
    maxReplacementRounds := 1
    plan := oneFactPlan }

example : roomyConfig.plan constantPlatform [onePageWindow] "snapshot"
    "model" = .ok oneFactPlan := by decide +kernel

/-- In the reduced scope one approved batch is followed by ten. -/
theorem reduced_scope_exceeds_projection :
    ∃ state projected executed,
      Run ((oneFactCampaign true).Step constantPlatform)
          (oneFactCampaign true).initial [[]] state ∧
        (oneFactCampaign true).projectedCost constantPlatform
            samplePriceBook 1 = .ok projected ∧
          (oneFactCampaign true).executedCost constantPlatform
              samplePriceBook 1 state = .ok executed ∧
            projected < executed := by
  have computed : ∃ next ∈ ((oneFactCampaign true).nextRound constantPlatform
        (oneFactCampaign true).initial (typeDistribution [])).toOption,
      ∃ state ∈ next,
        ∃ projected ∈ ((oneFactCampaign true).projectedCost constantPlatform
            samplePriceBook 1).toOption,
          ∃ executed ∈ ((oneFactCampaign true).executedCost constantPlatform
              samplePriceBook 1 state).toOption,
            projected < executed := by decide +kernel
  obtain ⟨next, round, state, stepped, projected, approved, executed, spent,
    exceeded⟩ := computed
  obtain rfl : next = some state := stepped
  exact ⟨state, projected, executed,
    Run.single (toOption_eq_some.mp round), toOption_eq_some.mp approved,
    toOption_eq_some.mp spent, exceeded⟩

def oneFactReplacement : GenerationPlan :=
  { planHash := "hash"
    corpusSnapshotId := "snapshot"
    modelId := "model"
    promptVersion := "benchmark-v1"
    jobs := [⟨1000000, .fact, onePageWindow⟩]
    batches :=
      [⟨"replacement-0001-0000", [⟨1000000, .fact, onePageWindow⟩]⟩] }

private theorem one_fact_replaced :
    roomyConfig.planReplacements constantPlatform oneFactPlan
      (typeDistribution []) 1 none [oneFactPlan] =
        .ok oneFactReplacement := by decide +kernel

theorem one_fact_cost_bounded :
    ∃ total, (oneFactCampaign false).executedCost constantPlatform
        samplePriceBook 1
          { attempt := 1
            plans := [oneFactPlan, oneFactReplacement] } = .ok total ∧
      total ≤ 16116 / 1000000 * 2 := by
  refine @campaign_cost_bounded constantPlatform (oneFactCampaign false)
    samplePriceBook 1 _ [[]] _ samplePriceBook_nonneg ?_
    (Run.single ⟨?_, ?_⟩)
  · decide +kernel
  · change (do
      let next ← roomyConfig.planReplacements constantPlatform oneFactPlan
        (typeDistribution []) 1 none [oneFactPlan]
      return some _ : Except PyException (Option CampaignState)) = _
    rw [one_fact_replaced]
    rfl
  · intro next planned
    obtain rfl := Except.ok.inj (one_fact_replaced.symm.trans planned)
    exact ⟨[116], [116], [116], by decide +kernel, by decide +kernel,
      .refl _, .cons le_rfl .nil⟩

end RagBench
