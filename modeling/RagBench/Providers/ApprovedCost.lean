import RagBench.Experiments.Planning
import RagBench.Ingestion.ParsePlanning
import RagBench.Providers.BudgetProtocol

/-!
# Approved worst cases against reservations

A plan rounds up once, over all its calls.  The gateway rounds the price of
each call half to even, after the multiplier.  All amounts are whole
micro-dollars, so a plan covers its calls exactly when what they gain by
rounding stays below one micro-dollar.
-/

namespace RagBench

open Decimal (Context halfEven)

/-! ## Amounts in micro-dollars -/

section Exact

variable {limit : ℕ}

end Exact

namespace UpstageGateway

variable {gateway : UpstageGateway} {limit : ℕ}

end UpstageGateway

/-! ## Dry-run plans -/

/-- What `generate` reserves for a request that is not cached. -/
def UpstageGateway.generateReservation (gateway : UpstageGateway)
    (request : GenerateRequest) : Except PyException ℚ := do
  let maxOutputTokens ← UpstageGateway.checkedOutputBound request
  gateway.generatePrice request.modelId request.inputTokens maxOutputTokens

/-- The reservations of any calls within the planned bounds, at most as many
as the plan is priced for, stay within the approved worst case. -/
def DryRunPlan.Covers (gateway : UpstageGateway) (config : ExperimentConfig)
    (plan : DryRunPlan) : Prop :=
  ∀ requests : List GenerateRequest, requests.length ≤ plan.pricedCalls →
    (∀ request ∈ requests, request.modelId = plan.modelId ∧
      request.inputTokens ≤ config.generation.worstCaseInputTokens ∧
      ∀ maxOutputTokens, request.maxOutputTokens = some maxOutputTokens →
        maxOutputTokens ≤ config.generation.maxOutputTokens) →
    ∀ amounts, requests.mapM gateway.generateReservation = .ok amounts →
      amounts.sum ≤ plan.grossWorstCostUsd

section Reservations

variable {gateway : UpstageGateway} {limit : ℕ} {config : ExperimentConfig}
  {rates : ℚ × ℚ}

end Reservations

/-- The reservations of any of the calls of a plan stay within the approved
worst case; cached calls reserve nothing. -/
def ParsePlan.Covers (gateway : UpstageGateway) (plan : ParsePlan) : Prop :=
  ∀ calls : List ℕ, calls.Sublist plan.callPages →
    ∀ amounts, calls.mapM (fun pages : ℕ =>
        gateway.parsePrice plan.modelId plan.mode.value pages) = .ok amounts →
      amounts.sum ≤ plan.worstCaseCostUsd

end RagBench
