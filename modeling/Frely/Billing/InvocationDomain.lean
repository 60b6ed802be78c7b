import Frely.Core.RelayError

/-!
# Charges of one Provider invocation

The arithmetic of the billing package on token counts and frozen unit prices: the largest charge
an admission can lead to (`maximumInvocationChargeUnits`), the charge of a reported usage
(`actualInvocationChargeUnits`) and the checks both make.  Amounts are integers in millionths of
a credit, prices are amounts for a million tokens, and all of them have to fit a non-negative
signed 64-bit column.
-/

namespace Frely.Billing

open Checked

/-- Billing units in one credit, which is also the number of tokens a unit price is for. -/
def usdUnitsPerCredit : Int := 1000000

def billingMaxInt64 : Int := 9223372036854775807

/-- The unit prices frozen with an attempt; without a cache-write price the input price counts. -/
structure FrozenPriceUnits where
  inputPriceUnitsPer1M : Int
  cachedInputPriceUnitsPer1M : Int
  cacheWritePriceUnitsPer1M : Option Int
  outputPriceUnitsPer1M : Int
deriving DecidableEq, Repr

inductive UsageSource where
  | provider
  | response
deriving DecidableEq, Repr

/-- The token usage a Provider reported for one attempt. -/
structure InvocationUsageUnits where
  inputTokens : Int
  cachedInputTokens : Int
  cacheWriteTokens : Int
  outputTokens : Int
  totalTokens : Int
  source : UsageSource
deriving DecidableEq, Repr

/-- The range of a non-negative signed 64-bit column. -/
def FitsInt64 (value : Int) : Prop := 0 ≤ value ∧ value ≤ billingMaxInt64

instance (value : Int) : Decidable (FitsInt64 value) :=
  inferInstanceAs (Decidable (0 ≤ value ∧ value ≤ billingMaxInt64))

def assertNonNegative (value : Int) (field : String) : Except RelayError Unit :=
  rejectIf (value < 0 ∨ billingMaxInt64 < value)
    ⟨"invalid_provider_usage", field ++ " must fit a non-negative signed 64-bit integer", 500⟩

def checkedBillingAdd (left right : Int) : Except RelayError Int := do
  let result := left + right
  rejectIf (left < 0 ∨ right < 0 ∨ billingMaxInt64 < result)
    ⟨"invalid_integer_charge", "Calculated charge exceeds signed 64-bit Billing units", 500⟩
  return result

def checkedTokenAdd (left right : Int) : Except RelayError Int := do
  let result := left + right
  rejectIf (left < 0 ∨ right < 0 ∨ billingMaxInt64 < result)
    ⟨"invalid_provider_usage", "Provider token usage exceeds signed 64-bit storage", 500⟩
  return result

/-- The price of some tokens, rounded up to a whole unit. -/
def tokenChargeUnits (tokens priceUnitsPer1M : Int) : Except RelayError Int := do
  rejectIf (tokens < 0 ∨ billingMaxInt64 < tokens ∨ priceUnitsPer1M < 0 ∨
      billingMaxInt64 < priceUnitsPer1M)
    ⟨"invalid_integer_charge",
      "Tokens and price units must fit non-negative signed 64-bit integers", 500⟩
  if tokens = 0 ∨ priceUnitsPer1M = 0 then
    return 0
  let result := (tokens * priceUnitsPer1M + usdUnitsPerCredit - 1) / usdUnitsPerCredit
  rejectIf (billingMaxInt64 < result)
    ⟨"invalid_integer_charge", "Calculated charge exceeds signed 64-bit Billing units", 500⟩
  return result

namespace FrozenPriceUnits

/-- The price cache-write tokens are charged at. -/
def cacheWriteOrInput (price : FrozenPriceUnits) : Int :=
  price.cacheWritePriceUnitsPer1M.getD price.inputPriceUnitsPer1M

/-- The largest price an input token can be charged at. -/
def worstInputPrice (price : FrozenPriceUnits) : Int :=
  [price.inputPriceUnitsPer1M, price.cachedInputPriceUnitsPer1M, price.cacheWriteOrInput].foldl
    (fun maximum candidate => if candidate > maximum then candidate else maximum) 0

end FrozenPriceUnits

/-- The charge admission holds: every input token at the worst input price, rounded up once. -/
def maximumInvocationChargeUnits (inputTokens maxOutputTokens : Int) (price : FrozenPriceUnits) :
    Except RelayError Int := do
  assertNonNegative inputTokens "inputTokens"
  assertNonNegative maxOutputTokens "maxOutputTokens"
  let inputUnits ← tokenChargeUnits inputTokens price.worstInputPrice
  let outputUnits ← tokenChargeUnits maxOutputTokens price.outputPriceUnitsPer1M
  checkedBillingAdd inputUnits outputUnits

def validateUsage (usage : InvocationUsageUnits) : Except RelayError Unit := do
  assertNonNegative usage.inputTokens "inputTokens"
  assertNonNegative usage.cachedInputTokens "cachedInputTokens"
  assertNonNegative usage.cacheWriteTokens "cacheWriteTokens"
  assertNonNegative usage.outputTokens "outputTokens"
  assertNonNegative usage.totalTokens "totalTokens"
  let total ← checkedTokenAdd usage.inputTokens usage.outputTokens
  rejectIf (usage.totalTokens ≠ total)
    ⟨"invalid_provider_usage", "Provider total tokens must equal input plus output tokens", 500⟩
  rejectIf (usage.inputTokens < usage.cachedInputTokens + usage.cacheWriteTokens)
    ⟨"invalid_provider_usage", "Input token billing partitions exceed input tokens", 500⟩

/-- The input tokens that were neither read from nor written to a cache. -/
def InvocationUsageUnits.uncachedInputTokens (usage : InvocationUsageUnits) : Int :=
  usage.inputTokens - usage.cachedInputTokens - usage.cacheWriteTokens

/-- The charge settlement books: every partition at its own price, each rounded up by itself. -/
def actualInvocationChargeUnits (usage : InvocationUsageUnits) (price : FrozenPriceUnits) :
    Except RelayError Int := do
  validateUsage usage
  rejectIf (usage.uncachedInputTokens < 0)
    ⟨"invalid_provider_usage", "Input token billing partitions exceed input tokens", 500⟩
  let uncached ← tokenChargeUnits usage.uncachedInputTokens price.inputPriceUnitsPer1M
  let cached ← tokenChargeUnits usage.cachedInputTokens price.cachedInputPriceUnitsPer1M
  let cacheWrite ← tokenChargeUnits usage.cacheWriteTokens price.cacheWriteOrInput
  let output ← tokenChargeUnits usage.outputTokens price.outputPriceUnitsPer1M
  [uncached, cached, cacheWrite, output].foldlM checkedBillingAdd 0

end Frely.Billing
