import Frely.Core.Numbers
import Frely.Lib.Double
import Frely.Pricing.SelectPrice

/-!
# Drafts of prices

The price editor of the admin app: a draft holds the texts of the form, and `validatePriceDraft`
turns it into the prices that are saved, or says what is wrong with it.

How numbers are rounded is a parameter: `Double.round`, or `some` where all of them are exact.
-/

namespace Frely.Admin

open StableSort

/-- The service tiers that the editor knows. -/
inductive PriceServiceTier where
  | standard
  | priority
deriving DecidableEq, Repr

def PriceServiceTier.text : PriceServiceTier → String
  | standard => "standard"
  | priority => "priority"

structure PriceTierDraft where
  serviceTier : PriceServiceTier
  tierKey : String
  minInputTokensDisplay : String
  maxInputTokensDisplay : String
  inputPer1M : String
  cachedInputPer1M : String
  cacheWritePer1M : String
  outputPer1M : String
deriving DecidableEq

structure PriceDraft where
  inputPerMillionDisplay : String
  cachedInputPerMillionDisplay : String
  cacheWritePerMillionDisplay : String
  outputPerMillionDisplay : String
  tiers : List PriceTierDraft
deriving DecidableEq

structure NumericPriceTierPayload where
  serviceTier : PriceServiceTier
  tierKey : String
  minInputTokens : Int
  maxInputTokens : Option Int
  inputPer1M : Rat
  cachedInputPer1M : Rat
  cacheWritePer1M : Option Rat
  outputPer1M : Rat
deriving DecidableEq

structure NumericPricePayload where
  inputPer1M : Rat
  cachedInputPer1M : Rat
  cacheWritePer1M : Option Rat
  outputPer1M : Rat
  tiers : Option (List NumericPriceTierPayload)
deriving DecidableEq

structure PriceDraftValidation where
  payload : Option NumericPricePayload
  errors : List String
deriving DecidableEq

/-! ### Reading the fields -/

section Numbers

variable (round : Rat → Option Rat)

/-- A configured price, `some none` when it is unavailable, and the errors that reading it adds. -/
def parseConfiguredPrice (value label : String) (allowUnavailable : Bool) :
    Option (Option Rat) × List String :=
  if isBlank value then (none, [label ++ " is required."])
  else if allowUnavailable &&
      (trimmed value.toList).map Char.toLower = "unavailable".toList then (some none, [])
  else
    let error := label ++ " must be a non-negative number" ++
      (if allowUnavailable then " or Unavailable" else "") ++ "."
    match (number value).rounded round with
    | .finite parsed => if parsed < 0 then (none, [error]) else (some (some parsed), [])
    | _ => (none, [error])

/-- The values of the price dimensions. -/
structure UnitPrices where
  inputPer1M : Rat
  cachedInputPer1M : Rat
  cacheWritePer1M : Option Rat
  outputPer1M : Rat
deriving DecidableEq

/-- The four configured prices under a label; only the cache write price can be unavailable. -/
def parseConfiguredPrices (inputText cachedInputText cacheWriteText outputText label : String) :
    Option UnitPrices × List String :=
  let input := parseConfiguredPrice round inputText (label ++ " Input") false
  let cachedInput := parseConfiguredPrice round cachedInputText (label ++ " Cache read") false
  let cacheWrite := parseConfiguredPrice round cacheWriteText (label ++ " Cache write") true
  let output := parseConfiguredPrice round outputText (label ++ " Output") false
  let prices := match input.1, cachedInput.1, cacheWrite.1, output.1 with
    | some (some inputPer1M), some (some cachedInputPer1M), some cacheWritePer1M,
        some (some outputPer1M) =>
      some ⟨inputPer1M, cachedInputPer1M, cacheWritePer1M, outputPer1M⟩
    | _, _, _, _ => none
  (prices, input.2 ++ cachedInput.2 ++ cacheWrite.2 ++ output.2)

/-- A token boundary that a text gives. -/
def tokenBoundary (value : String) : Option Int :=
  ((number value).rounded round).integer?.filter (0 ≤ ·)

def parseRequiredTokenBoundary (value label : String) : Option Int × List String :=
  if isBlank value then (none, [label ++ " must be a non-negative integer."])
  else match tokenBoundary round value with
    | none => (none, [label ++ " must be a non-negative integer."])
    | some parsed => (some parsed, [])

def parseOptionalTokenBoundary (value label : String) : Option Int × List String :=
  if isBlank value then (none, [])
  else match tokenBoundary round value with
    | none =>
      (none, [label ++ " must be a non-negative integer or blank for no upper bound."])
    | some parsed => (some parsed, [])

/-! ### The tiers -/

def PriceTierDraft.label (tier : PriceTierDraft) : String :=
  tier.serviceTier.text ++ " / " ++ tier.tierKey

def PriceTierDraft.priceDisplays (tier : PriceTierDraft) : List String :=
  [tier.inputPer1M, tier.cachedInputPer1M, tier.cacheWritePer1M, tier.outputPer1M]

/-- A tier whose price fields are filled. -/
def validateFilledTier (tier : PriceTierDraft) : Option NumericPriceTierPayload × List String :=
  let prices := parseConfiguredPrices round tier.inputPer1M tier.cachedInputPer1M
    tier.cacheWritePer1M
    tier.outputPer1M tier.label
  let minInputTokens := parseRequiredTokenBoundary round tier.minInputTokensDisplay
    (tier.label ++ " minimum input tokens")
  let maxInputTokens := parseOptionalTokenBoundary round tier.maxInputTokensDisplay
    (tier.label ++ " maximum input tokens")
  let rangeErrors := match minInputTokens.1, maxInputTokens.1 with
    | some low, some high =>
      if high < low then
        [tier.label ++ ": maximum input tokens must be greater than or equal to the minimum."]
      else []
    | _, _ => []
  let payload := match prices.1, minInputTokens.1 with
    | some prices, some low => some {
        serviceTier := tier.serviceTier
        tierKey := tier.tierKey
        minInputTokens := low
        maxInputTokens := maxInputTokens.1
        inputPer1M := prices.inputPer1M
        cachedInputPer1M := prices.cachedInputPer1M
        cacheWritePer1M := prices.cacheWritePer1M
        outputPer1M := prices.outputPer1M }
    | _, _ => none
  (payload, prices.2 ++ minInputTokens.2 ++ maxInputTokens.2 ++ rangeErrors)

/-- A turn of the loop over the tiers of a draft: the tier that is saved, and the errors. -/
def validateTier (tier : PriceTierDraft) : Option NumericPriceTierPayload × List String :=
  if tier.priceDisplays.all isBlank then (none, [])
  else if tier.priceDisplays.any isBlank then
    (none, [tier.label ++ ": fill all four price fields or leave the entire profile empty."])
  else validateFilledTier round tier

def neighbourError (serviceTier : PriceServiceTier) (previous current : NumericPriceTierPayload) :
    List String :=
  let overlap := serviceTier.text ++ " profiles overlap at " ++ current.tierKey ++ "."
  match previous.maxInputTokens with
  | none => [overlap]
  | some high =>
    if current.minInputTokens ≤ high then [overlap]
    else if round (high + 1) ≠ some (current.minInputTokens : Rat) then
      [serviceTier.text ++ " profiles have a gap before " ++ current.tierKey ++ "."]
    else []

/-- The errors of neighbours in the sorted tiers of a service tier. -/
def neighbourErrors (serviceTier : PriceServiceTier) :
    List NumericPriceTierPayload → List String
  | previous :: current :: rest =>
    neighbourError round serviceTier previous current ++
      neighbourErrors serviceTier (current :: rest)
  | _ => []

def serviceTiers (tiers : List NumericPriceTierPayload) (serviceTier : PriceServiceTier) :
    List NumericPriceTierPayload :=
  sortBy (fun left right => compare left.minInputTokens right.minInputTokens)
    (tiers.filter (·.serviceTier = serviceTier))

def validateServiceTier (tiers : List NumericPriceTierPayload) (serviceTier : PriceServiceTier) :
    List String :=
  let sorted := serviceTiers tiers serviceTier
  neighbourErrors round serviceTier sorted ++
    if serviceTier = .standard ∧ ∃ last ∈ sorted.getLast?, last.maxInputTokens ≠ none then
      ["standard profiles must cover the terminal unbounded range."]
    else []

def validateTierRanges (tiers : List NumericPriceTierPayload) : List String :=
  [PriceServiceTier.standard, .priority].flatMap (validateServiceTier round tiers)

def validatePriceDraft (draft : PriceDraft) : PriceDraftValidation :=
  let base := parseConfiguredPrices round draft.inputPerMillionDisplay
    draft.cachedInputPerMillionDisplay draft.cacheWritePerMillionDisplay
    draft.outputPerMillionDisplay "standard / short_context"
  let payloadTiers := draft.tiers.filterMap fun tier => (validateTier round tier).1
  let errors := base.2 ++ draft.tiers.flatMap (fun tier => (validateTier round tier).2) ++
    validateTierRanges round payloadTiers
  match errors, base.1 with
  | [], some prices => {
      payload := some {
        inputPer1M := prices.inputPer1M
        cachedInputPer1M := prices.cachedInputPer1M
        cacheWritePer1M := prices.cacheWritePer1M
        outputPer1M := prices.outputPer1M
        tiers := if payloadTiers = [] then none else some payloadTiers }
      errors := [] }
  | errors, _ => ⟨none, errors⟩

/-! ### Loading a price -/

/-- A tier of a price as the editor reads it. -/
structure PriceTierLike where
  serviceTier : Option String
  tierKey : String
  minInputTokens : Int
  maxInputTokens : Option Int
  inputPer1M : Rat
  cachedInputPer1M : Rat
  cacheWritePer1M : Option Rat
  outputPer1M : Rat
  status : Option String
deriving DecidableEq

structure PriceRecordLike where
  inputPer1M : Rat
  cachedInputPer1M : Rat
  cacheWritePer1M : Option Rat
  outputPer1M : Rat
  tiers : Option (List PriceTierLike)
deriving DecidableEq

def draftNumber (value : Rat) : String :=
  if value.den = 1 then toString value.num
  else String.ofList (withoutTrailingPoint (withoutTrailingZeros (toFixed value 6)))

def draftNullablePrice (value : Option Rat) : String :=
  match value with
  | none => "Unavailable"
  | some value => draftNumber value

def createTierDraft (serviceTier : PriceServiceTier) (tierKey : String) : PriceTierDraft where
  serviceTier := serviceTier
  tierKey := tierKey
  minInputTokensDisplay := if tierKey = "short_context" then "0" else ""
  maxInputTokensDisplay := ""
  inputPer1M := ""
  cachedInputPer1M := ""
  cacheWritePer1M := ""
  outputPer1M := ""

def createDefaultPriceDraft : PriceDraft where
  inputPerMillionDisplay := ""
  cachedInputPerMillionDisplay := ""
  cacheWritePerMillionDisplay := ""
  outputPerMillionDisplay := ""
  tiers := [createTierDraft .priority "short_context"]

def PriceTierLike.isEnabled (tier : PriceTierLike) : Bool :=
  tier.status = none || tier.status = some "enabled"

/-- The tier in whose place the editor shows the base price. -/
def PriceTierLike.isBase (tier : PriceTierLike) : Bool :=
  tier.serviceTier.getD "standard" = "standard" && tier.tierKey = "short_context" &&
    tier.minInputTokens = 0

def enabledTierLikes (tiers : Option (List PriceTierLike)) : List PriceTierLike :=
  ((tiers.getD []).filter (·.isEnabled)).filter (!·.isBase)

def draftServiceTier (serviceTier : Option String) : PriceServiceTier :=
  if serviceTier = some "priority" then .priority else .standard

def tierDraftFromPriceTier (tier : PriceTierLike) : PriceTierDraft where
  serviceTier := draftServiceTier tier.serviceTier
  tierKey := tier.tierKey
  minInputTokensDisplay := toString tier.minInputTokens
  maxInputTokensDisplay := match tier.maxInputTokens with
    | none => ""
    | some high => toString high
  inputPer1M := draftNumber tier.inputPer1M
  cachedInputPer1M := draftNumber tier.cachedInputPer1M
  cacheWritePer1M := draftNullablePrice tier.cacheWritePer1M
  outputPer1M := draftNumber tier.outputPer1M

/-- The place of a boundary's text, `Number.MAX_SAFE_INTEGER` if it is none. -/
def boundarySortValue (value : String) : Int := (tokenBoundary round value).getD 9007199254740991

def serviceOrder : PriceServiceTier → Nat
  | .standard => 0
  | .priority => 1

section Collation

variable (localeCompare : String → String → Ordering)

def compareDraftTiers (left right : PriceTierDraft) : Ordering :=
  ((compare (serviceOrder left.serviceTier) (serviceOrder right.serviceTier)).then
    (compare (boundarySortValue round left.minInputTokensDisplay)
      (boundarySortValue round right.minInputTokensDisplay))).then
    (localeCompare left.tierKey right.tierKey)

def sortDraftTiers (tiers : List PriceTierDraft) : List PriceTierDraft :=
  sortBy (compareDraftTiers round localeCompare) tiers

/-- The draft of an enabled price, which always has a row for the priority tier. -/
def createPriceDraftFromEnabled (price : Option PriceRecordLike) : PriceDraft :=
  match price with
  | none => createDefaultPriceDraft
  | some price =>
    let tiers := (enabledTierLikes price.tiers).map tierDraftFromPriceTier
    let tiers :=
      if tiers.any fun tier => tier.serviceTier = .priority && tier.tierKey = "short_context" then
        tiers
      else tiers ++ [createTierDraft .priority "short_context"]
    { inputPerMillionDisplay := draftNumber price.inputPer1M
      cachedInputPerMillionDisplay := draftNumber price.cachedInputPer1M
      cacheWritePerMillionDisplay := draftNullablePrice price.cacheWritePer1M
      outputPerMillionDisplay := draftNumber price.outputPer1M
      tiers := sortDraftTiers round localeCompare tiers }

end Collation

end Numbers

/-! ### Prices as the pricing package reads them -/

/-- The number `low - 1`. -/
def numberBefore (low : Int) : Int := ⌊Double.nearest (low - 1)⌋

def PriceTierLike.like (tier : PriceTierLike) : Pricing.PriceTierLike Rat where
  serviceTier := tier.serviceTier
  tierKey := tier.tierKey
  minInputTokens := tier.minInputTokens
  maxInputTokens := tier.maxInputTokens
  inputPer1M := tier.inputPer1M
  cachedInputPer1M := tier.cachedInputPer1M
  cacheWritePer1M := some tier.cacheWritePer1M
  outputPer1M := tier.outputPer1M
  status := tier.status

def PriceRecordLike.profile (price : PriceRecordLike) : Pricing.PriceProfile Rat where
  inputPer1M := price.inputPer1M
  cachedInputPer1M := price.cachedInputPer1M
  cacheWritePer1M := some price.cacheWritePer1M
  outputPer1M := price.outputPer1M
  tiers := price.tiers.map (·.map (·.like))

def NumericPriceTierPayload.like (tier : NumericPriceTierPayload) : Pricing.PriceTierLike Rat where
  serviceTier := some tier.serviceTier.text
  tierKey := tier.tierKey
  minInputTokens := tier.minInputTokens
  maxInputTokens := tier.maxInputTokens
  inputPer1M := tier.inputPer1M
  cachedInputPer1M := tier.cachedInputPer1M
  cacheWritePer1M := some tier.cacheWritePer1M
  outputPer1M := tier.outputPer1M
  status := none

def NumericPricePayload.profile (payload : NumericPricePayload) : Pricing.PriceProfile Rat where
  inputPer1M := payload.inputPer1M
  cachedInputPer1M := payload.cachedInputPer1M
  cacheWritePer1M := some payload.cacheWritePer1M
  outputPer1M := payload.outputPer1M
  tiers := payload.tiers.map (·.map (·.like))

end Frely.Admin
