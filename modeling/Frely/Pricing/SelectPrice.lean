import Frely.Core.RelayError
import Frely.Core.Text
import Frely.Lib.StableSort

/-!
# The price of a quote

`selectPriceForUsage` of the pricing package picks the tier a quote is calculated with.  Prices
are only passed through, so their type is a parameter; token counts are integers, on which the
source's `Math.floor` does nothing.  An absent cache-write price differs from a `null` one: `none`
is absent, `some none` is `null`.
-/

namespace Frely.Pricing

open Checked StableSort

inductive PriceServiceTier where
  | standard
  | batch
  | flex
  | priority
deriving DecidableEq, Repr

def PriceServiceTier.text : PriceServiceTier → String
  | standard => "standard"
  | batch => "batch"
  | flex => "flex"
  | priority => "priority"

structure PriceTierLike (α : Type) where
  serviceTier : Option String
  tierKey : String
  minInputTokens : Int
  maxInputTokens : Option Int
  inputPer1M : α
  cachedInputPer1M : α
  cacheWritePer1M : Option (Option α)
  outputPer1M : α
  status : Option String
deriving DecidableEq, Repr

/-- A price row as the pricing package reads it. -/
structure PriceProfile (α : Type) where
  inputPer1M : α
  cachedInputPer1M : α
  cacheWritePer1M : Option (Option α)
  outputPer1M : α
  tiers : Option (List (PriceTierLike α))
deriving DecidableEq, Repr

structure SelectedPriceTier (α : Type) where
  serviceTier : PriceServiceTier
  tierKey : String
  minInputTokens : Int
  maxInputTokens : Option Int
  inputPer1M : α
  cachedInputPer1M : α
  cacheWritePer1M : Option α
  outputPer1M : α
deriving DecidableEq, Repr

structure SelectedPrice (α : Type) where
  price : PriceProfile α
  selectedServiceTier : PriceServiceTier
  selectedTierKey : String
  selectedTier : SelectedPriceTier α
  effectiveTiers : List (SelectedPriceTier α)
deriving DecidableEq, Repr

variable {α : Type}

/-- The tier of a request, where `fast` means priority. -/
def normalizeRuntimePriceServiceTier (value : Option String) : PriceServiceTier :=
  let normalized := normalizedWord (value.getD "standard")
  if normalized = "priority" ∨ normalized = "fast" then .priority else .standard

/-- The tier of a stored price. -/
def normalizeStoredPriceServiceTier (value : Option String) : PriceServiceTier :=
  let normalized := normalizedWord (value.getD "standard")
  if normalized = "priority" then .priority
  else if normalized = "batch" then .batch
  else if normalized = "flex" then .flex
  else .standard

inductive PriceStatus where
  | enabled
  | disabled
deriving DecidableEq, Repr

def normalizeStatus (value : Option String) : PriceStatus :=
  if value ∈ [some "disabled", some "inactive", some "archived", some "paused"] then .disabled
  else .enabled

/-- An absent cache-write price is the input price; a `null` one stays `null`. -/
def cacheWriteOrInput (cacheWritePer1M : Option (Option α)) (inputPer1M : α) : Option α :=
  cacheWritePer1M.getD (some inputPer1M)

/-- The base price as a tier of its own. -/
def implicitStandardTier (price : PriceProfile α) (maxInputTokens : Option Int) :
    SelectedPriceTier α where
  serviceTier := .standard
  tierKey := "short_context"
  minInputTokens := 0
  maxInputTokens := maxInputTokens
  inputPer1M := price.inputPer1M
  cachedInputPer1M := price.cachedInputPer1M
  cacheWritePer1M := cacheWriteOrInput price.cacheWritePer1M price.inputPer1M
  outputPer1M := price.outputPer1M

def PriceTierLike.selected (tier : PriceTierLike α) (serviceTier : PriceServiceTier) :
    SelectedPriceTier α where
  serviceTier := serviceTier
  tierKey := tier.tierKey
  minInputTokens := tier.minInputTokens
  maxInputTokens := tier.maxInputTokens
  inputPer1M := tier.inputPer1M
  cachedInputPer1M := tier.cachedInputPer1M
  cacheWritePer1M := cacheWriteOrInput tier.cacheWritePer1M tier.inputPer1M
  outputPer1M := tier.outputPer1M

def SelectedPriceTier.covers (tier : SelectedPriceTier α) (normalizedInputTokens : Int) : Bool :=
  tier.minInputTokens ≤ normalizedInputTokens &&
    tier.maxInputTokens.all (normalizedInputTokens ≤ ·)

/-- The first tier that covers the count. -/
def findTierForInputTokens (tiers : List (SelectedPriceTier α)) (inputTokens : Int) :
    Option (SelectedPriceTier α) :=
  tiers.find? (·.covers (max 0 inputTokens))

section Collation

variable (localeCompare : String → String → Ordering)

/-- The order of a service tier's profile: the lowest lower bound first. -/
def compareSelectedTiers (left right : SelectedPriceTier α) : Ordering :=
  (compare left.minInputTokens right.minInputTokens).then
    (localeCompare left.tierKey right.tierKey)

/-- The enabled tiers of one service tier, sorted. -/
def enabledTiers (price : PriceProfile α) (serviceTier : PriceServiceTier) :
    List (SelectedPriceTier α) :=
  sortBy (compareSelectedTiers localeCompare)
    (((price.tiers.getD []).filter fun tier =>
        normalizeStoredPriceServiceTier tier.serviceTier = serviceTier &&
          normalizeStatus tier.status = .enabled).map (·.selected serviceTier))

section Bounds

variable (before : Int → Int)

/-- Where `before low` is the number `low - 1`, which is rounded for large bounds. -/
def serviceTierProfile (price : PriceProfile α) (serviceTier : PriceServiceTier)
    (includeImplicitStandard : Bool) : List (SelectedPriceTier α) :=
  let enabledTiers := enabledTiers localeCompare price serviceTier
  if serviceTier ≠ .standard ∨ ¬includeImplicitStandard then enabledTiers
  else match enabledTiers with
    | [] => [implicitStandardTier price none]
    | first :: _ =>
      if 0 < first.minInputTokens then
        implicitStandardTier price (some (before first.minInputTokens)) :: enabledTiers
      else enabledTiers

def selectPrice (price : PriceProfile α) (inputTokens : Int) (serviceTier : Option String)
    (requireServiceTier : Bool) : Except RelayError (SelectedPrice α) := do
  let requestedServiceTier := normalizeRuntimePriceServiceTier serviceTier
  let standardProfile := serviceTierProfile localeCompare before price .standard true
  let requestedProfile :=
    if requestedServiceTier = .standard then standardProfile
    else serviceTierProfile localeCompare before price requestedServiceTier false
  let requestedTier := findTierForInputTokens requestedProfile inputTokens
  rejectIf (requireServiceTier ∧ requestedServiceTier ≠ .standard ∧ requestedTier.isNone)
    ⟨"service_tier_price_not_configured",
      "No " ++ requestedServiceTier.text ++ " price tier is configured for this request", 500⟩
  match requestedTier <|> findTierForInputTokens standardProfile inputTokens with
  | none =>
    throw ⟨"price_tier_not_available", "No enabled price tier is available for this request", 500⟩
  | some selectedTier =>
    let effectiveTiers :=
      if requestedProfile ≠ [] ∧ (findTierForInputTokens requestedProfile inputTokens).isSome then
        requestedProfile
      else standardProfile
    return ⟨price, selectedTier.serviceTier, selectedTier.tierKey, selectedTier, effectiveTiers⟩

end Bounds

/-- The profile of a price whose bounds are safe integers. -/
def effectiveServiceTierProfile (price : PriceProfile α) (serviceTier : PriceServiceTier)
    (includeImplicitStandard : Bool) : List (SelectedPriceTier α) :=
  serviceTierProfile localeCompare (· - 1) price serviceTier includeImplicitStandard

/-- For bounds that are safe integers. -/
def selectPriceForUsage (price : PriceProfile α) (inputTokens : Int) (serviceTier : Option String)
    (requireServiceTier : Bool) : Except RelayError (SelectedPrice α) :=
  selectPrice localeCompare (· - 1) price inputTokens serviceTier requireServiceTier

end Collation

end Frely.Pricing
