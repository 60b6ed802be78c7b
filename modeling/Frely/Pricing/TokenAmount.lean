import Frely.Lib.Double
import Frely.Pricing.SelectPrice

/-!
# What a usage costs

`calculateTokenAmount` of the pricing package and the amounts built on it.  Counts of tokens are
integers; amounts are numbers, rounded after every quotient, product, sum and difference.
-/

namespace Frely.Pricing

open Checked

structure PriceUsageInput where
  inputTokens : Int
  cachedInputTokens : Int
  cacheWriteTokens : Option Int := none
  outputTokens : Int
deriving DecidableEq

variable (localeCompare : String → String → Ordering)

end Frely.Pricing
