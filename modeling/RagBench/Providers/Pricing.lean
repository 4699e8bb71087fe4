import RagBench.Providers.Messages

/-!
# Price snapshots and upper-bound estimates

A price book is the loaded snapshot with its rates already read as decimals;
an entry the snapshot lacks is `none`.  Prices are rounded up to six places.
Only the embedding price depends on the time of the request.
-/

namespace RagBench

open Decimal (Context)

/-- `PriceBookError(ValueError)`. -/
def priceBookErrorClass : ExceptionClass :=
  .derived "PriceBookError" .valueError

def priceBookError (message : String) : PyException :=
  ⟨priceBookErrorClass, message⟩

structure PricingRequest where
  operation : Operation
  modelId : String
  inputTokens : ℤ := 0
  outputTokens : ℤ := 0
  billablePages : ℤ := 0
  mode : String := "standard"
  requestedAt : Option Timestamp := none

structure GenerationRates where
  inputUsdPerMillion : Option ℚ
  outputUsdPerMillion : Option ℚ

structure EmbeddingPromotion where
  inputUsdPerMillion : Option ℚ
  endsAtExclusive : Option Timestamp

structure EmbeddingRates where
  inputUsdPerMillion : Option ℚ
  promotion : Option EmbeddingPromotion

/-- `modes` maps a parse mode to its `usd_per_page`. -/
structure ModelPrices where
  modes : Option (Dict String (Option ℚ))
  generation : Option GenerationRates
  embedding : Option EmbeddingRates

structure PriceBook where
  models : Dict String ModelPrices

/-- `_mapping(value, key)`. -/
def mapping {α : Type} (key : String) : Option α → Except PyException α
  | some item => .ok item
  | none =>
      .error (priceBookError
        ("price snapshot field '" ++ key ++ "' must be a mapping"))

/-- `rates[key]`. -/
def entry {α : Type} (key : String) : Option α → Except PyException α
  | some item => .ok item
  | none => .error (.keyError ("'" ++ key ++ "'"))

/-- `value.quantize(Decimal("0.000001"), rounding)`. -/
def quantizeMoney (context : Context) (rounding : Decimal.Rounding)
    (value : ℚ) : Except PyException ℚ :=
  match context.quantize 6 rounding value with
  | some result => .ok result
  | none => .error .invalidOperation

theorem quantizeMoney_ok {context : Context} {rounding : Decimal.Rounding}
    {value result : ℚ} :
    quantizeMoney context rounding value = .ok result ↔
      context.quantize 6 rounding value = some result := by
  unfold quantizeMoney
  cases context.quantize 6 rounding value <;> simp

theorem quantizeMoney_error {context : Context}
    {rounding : Decimal.Rounding} {value : ℚ} {error : PyException}
    (failed : quantizeMoney context rounding value = .error error) :
    error = .invalidOperation := by
  unfold quantizeMoney at failed
  split at failed
  · cases failed
  · cases failed
    rfl

/-- `_money`: up to the next six-place amount. -/
def money (context : Context) (value : ℚ) : Except PyException ℚ :=
  quantizeMoney context .ceiling value

structure GenerationRates.Nonneg (rates : GenerationRates) : Prop where
  input : ∀ rate, rates.inputUsdPerMillion = some rate → 0 ≤ rate
  output : ∀ rate, rates.outputUsdPerMillion = some rate → 0 ≤ rate

structure EmbeddingRates.Nonneg (rates : EmbeddingRates) : Prop where
  input : ∀ rate, rates.inputUsdPerMillion = some rate → 0 ≤ rate
  promotion : ∀ promotion rate, rates.promotion = some promotion →
    promotion.inputUsdPerMillion = some rate → 0 ≤ rate

structure ModelPrices.Nonneg (model : ModelPrices) : Prop where
  modes : ∀ modes mode rate, model.modes = some modes →
    modes.get? mode = some (some rate) → 0 ≤ rate
  generation : ∀ rates, model.generation = some rates → rates.Nonneg
  embedding : ∀ rates, model.embedding = some rates → rates.Nonneg

namespace PriceBook

variable (context : Context) (book : PriceBook)

/-- `models[model_id]`. -/
def model (modelId : String) : Except PyException ModelPrices :=
  match book.models.get? modelId with
  | some model => .ok model
  | none => .error (priceBookError ("unknown priced model: " ++ modelId))

/-- The unrounded price of a generation call. -/
def generationTotal (inputRate outputRate : ℚ)
    (inputTokens outputTokens : ℤ) : ℚ :=
  context.fix
    (context.fix
      (context.fix (inputRate * inputTokens) +
        context.fix (outputRate * outputTokens)) / 1000000)

/-- `PriceBook.estimate`; `now` is the current time. -/
def estimate (now : Timestamp) (request : PricingRequest) :
    Except PyException ℚ := do
  if min (min request.inputTokens request.outputTokens)
      request.billablePages < 0 then
    throw (priceBookError "usage counts cannot be negative")
  let model ← book.model request.modelId
  match request.operation with
  | .parse =>
      let modes ← mapping "modes" model.modes
      let rates ← mapping request.mode (modes.get? request.mode)
      let rate ← entry "usd_per_page" rates
      money context (context.fix (rate * request.billablePages))
  | .generate =>
      let rates ← mapping "generation" model.generation
      let inputRate ← entry "input_usd_per_million" rates.inputUsdPerMillion
      let outputRate ←
        entry "output_usd_per_million" rates.outputUsdPerMillion
      money context (generationTotal context inputRate outputRate
        request.inputTokens request.outputTokens)
  | .embed =>
      let rates ← mapping "embedding" model.embedding
      let requestedAt := request.requestedAt.getD now
      let promotion ← mapping "promotion" rates.promotion
      let endsAt ← entry "ends_at_exclusive" promotion.endsAtExclusive
      let rate ←
        if requestedAt < endsAt then
          entry "input_usd_per_million" promotion.inputUsdPerMillion
        else entry "input_usd_per_million" rates.inputUsdPerMillion
      money context
        (context.fix (context.fix (rate * request.inputTokens) / 1000000))
  | .other name =>
      throw (priceBookError ("unsupported priced operation: " ++ name))

/-- No rate of the price book is negative. -/
def Nonneg (book : PriceBook) : Prop :=
  ∀ modelId model, book.models.get? modelId = some model → model.Nonneg

/-! ## Generation prices -/

/-- The rates `estimate` looks up for a generation call. -/
def generationRates (modelId : String) : Except PyException (ℚ × ℚ) := do
  let model ← book.model modelId
  let rates ← mapping "generation" model.generation
  let inputRate ← entry "input_usd_per_million" rates.inputUsdPerMillion
  let outputRate ← entry "output_usd_per_million" rates.outputUsdPerMillion
  return (inputRate, outputRate)

theorem mapping_ok {α : Type} {key : String} {item : Option α} {value : α}
    (success : mapping key item = .ok value) : item = some value := by
  cases item with
  | none => cases success
  | some item => cases success; rfl

theorem entry_ok {α : Type} {key : String} {item : Option α} {value : α}
    (success : entry key item = .ok value) : item = some value := by
  cases item with
  | none => cases success
  | some item => cases success; rfl

theorem model_ok {modelId : String} {model : ModelPrices}
    (found : book.model modelId = .ok model) :
    book.models.get? modelId = some model := by
  unfold PriceBook.model at found
  split at found <;> cases found
  assumption

theorem estimate_generate (now : Timestamp) (modelId : String)
    (inputTokens outputTokens : ℤ) :
    book.estimate context now
        { operation := .generate
          modelId := modelId
          inputTokens := inputTokens
          outputTokens := outputTokens } =
      if min inputTokens outputTokens < 0 then
        .error (priceBookError "usage counts cannot be negative")
      else
        book.generationRates modelId >>= fun rates =>
          money context (generationTotal context rates.1 rates.2
            inputTokens outputTokens) := by
  have least : min (min inputTokens outputTokens) 0 < 0 ↔
      min inputTokens outputTokens < 0 := by omega
  simp only [estimate, least, generationRates, bind_assoc, pure_bind]
  split_ifs <;> rfl

theorem generationRates_nonneg {modelId : String} {inputRate outputRate : ℚ}
    (nonneg : book.Nonneg)
    (success : book.generationRates modelId = .ok (inputRate, outputRate)) :
    0 ≤ inputRate ∧ 0 ≤ outputRate := by
  obtain ⟨model, found, success⟩ := bind_eq_ok.mp success
  obtain ⟨rates, generation, success⟩ := bind_eq_ok.mp success
  obtain ⟨input, inputEntry, success⟩ := bind_eq_ok.mp success
  obtain ⟨output, outputEntry, success⟩ := bind_eq_ok.mp success
  have bounds := (nonneg modelId model (book.model_ok found)).generation
    rates (mapping_ok generation)
  cases success
  exact ⟨bounds.input _ (entry_ok inputEntry),
    bounds.output _ (entry_ok outputEntry)⟩

theorem generationTotal_mono {inputRate outputRate : ℚ}
    (inputNonneg : 0 ≤ inputRate) (outputNonneg : 0 ≤ outputRate)
    {inputTokens outputTokens inputBound outputBound : ℤ}
    (inputLe : inputTokens ≤ inputBound)
    (outputLe : outputTokens ≤ outputBound) :
    generationTotal context inputRate outputRate inputTokens outputTokens ≤
      generationTotal context inputRate outputRate inputBound outputBound := by
  have input : inputRate * (inputTokens : ℚ) ≤ inputRate * inputBound :=
    mul_le_mul_of_nonneg_left (by exact_mod_cast inputLe) inputNonneg
  have output : outputRate * (outputTokens : ℚ) ≤ outputRate * outputBound :=
    mul_le_mul_of_nonneg_left (by exact_mod_cast outputLe) outputNonneg
  unfold generationTotal
  apply context.fix_mono
  apply div_le_div_of_nonneg_right _ (by norm_num)
  apply context.fix_mono
  exact add_le_add (context.fix_mono input) (context.fix_mono output)

theorem generationTotal_nonneg {inputRate outputRate : ℚ}
    (inputNonneg : 0 ≤ inputRate) (outputNonneg : 0 ≤ outputRate)
    {inputTokens outputTokens : ℤ}
    (inputTokensNonneg : 0 ≤ inputTokens)
    (outputTokensNonneg : 0 ≤ outputTokens) :
    0 ≤ generationTotal context inputRate outputRate inputTokens
      outputTokens := by
  have bound := generationTotal_mono context inputNonneg outputNonneg
    inputTokensNonneg outputTokensNonneg
  simpa [generationTotal, context.fix_zero] using bound

end PriceBook

/-- A cent a page, one and two dollars for a million tokens. -/
def samplePriceBook : PriceBook :=
  { models := .ofList
      [("model",
        { modes := some (.ofList [("standard", some (1 / 100))])
          generation := some
            { inputUsdPerMillion := some 1
              outputUsdPerMillion := some 2 }
          embedding := none })] }

theorem samplePriceBook_nonneg : samplePriceBook.Nonneg := by
  intro modelId model found
  have entries := (Dict.get?_eq_some_iff _).mp found
  obtain ⟨rfl, rfl⟩ : modelId = "model" ∧ model = _ := by
    simpa [samplePriceBook, Dict.ofList, Dict.set, Dict.assign, Dict.empty]
      using entries
  refine ⟨?_, fun rates same => ?_, fun _ none => ?_⟩
  · rintro modes mode rate ⟨⟩ priced
    have modeEntries := (Dict.get?_eq_some_iff _).mp priced
    obtain ⟨-, rfl⟩ : mode = "standard" ∧ rate = 1 / 100 := by
      simpa [Dict.ofList, Dict.set, Dict.assign, Dict.empty] using modeEntries
    norm_num
  · cases same
    exact ⟨fun rate same => by cases same; norm_num,
      fun rate same => by cases same; norm_num⟩
  · cases none

end RagBench
