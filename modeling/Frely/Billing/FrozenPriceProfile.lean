import Frely.Billing.InvocationDomain
import Frely.Core.Text
import Frely.Lib.StableSort

/-!
# Frozen price profiles

The price profile frozen with an admission: `encodeFrozenPriceProfile` writes the enabled tiers of
a price row down, sorted, and `selectFrozenPriceProfile` picks the unit prices a usage is settled
at.  A stored profile is the document its JSON text encodes; amounts and bounds are decimal
strings in it, read back by `bigintField`.  `localeCompare` is the comparison of the runtime's
collation, which the sorts break ties with.
-/

namespace Frely.Billing

open Checked StableSort

structure InvocationPriceProfileTierInput extends FrozenPriceUnits where
  status : String
  serviceTier : String
  tierKey : String
  minInputTokens : Int
  maxInputTokens : Option Int
deriving DecidableEq, Repr

structure InvocationPriceProfileInput extends FrozenPriceUnits where
  status : String
  tiers : List InvocationPriceProfileTierInput
deriving DecidableEq, Repr

/-- The service tiers a frozen profile knows. -/
inductive ProfileServiceTier where
  | standard
  | priority
deriving DecidableEq, Repr

def ProfileServiceTier.text : ProfileServiceTier → String
  | standard => "standard"
  | priority => "priority"

/-! ### Stored documents -/

structure FrozenPriceUnitsDocument where
  inputPriceUnitsPer1M : String
  cachedInputPriceUnitsPer1M : String
  cacheWritePriceUnitsPer1M : Option String
  outputPriceUnitsPer1M : String
deriving DecidableEq, Repr

structure FrozenPriceTierDocument extends FrozenPriceUnitsDocument where
  serviceTier : String
  tierKey : String
  minInputTokens : String
  maxInputTokens : Option String
deriving DecidableEq, Repr

structure FrozenPriceProfileDocument where
  schemaVersion : Nat
  currency : String
  precision : Nat
  base : FrozenPriceUnitsDocument
  tiers : List FrozenPriceTierDocument
deriving DecidableEq, Repr

/-- The snapshot of the selected unit prices. -/
structure FrozenPriceSnapshotDocument extends FrozenPriceUnitsDocument where
  schemaVersion : Nat
  currency : String
  precision : Nat
  serviceTier : String
  tierKey : String
deriving DecidableEq, Repr

/-- `value.toString()` of an integer. -/
def decimalString (value : Int) : String := toString value

/-- The decimal digits of a stored amount, as `/^\d+$/u` and `BigInt` read them. -/
def bigintField (value : String) (field : String) : Except RelayError Int := do
  rejectIf (value.toList = [] ∨ ¬value.toList.all Char.isDigit)
    ⟨"invalid_price_snapshot", field ++ " is invalid", 500⟩
  return (Nat.ofDigitChars 10 value.toList 0 : Nat)

def optionalBigintField (value : Option String) (field : String) :
    Except RelayError (Option Int) :=
  match value with
  | none => .ok none
  | some value => do return some (← bigintField value field)

def frozenPriceUnitsDocument (units : FrozenPriceUnits) : FrozenPriceUnitsDocument where
  inputPriceUnitsPer1M := decimalString units.inputPriceUnitsPer1M
  cachedInputPriceUnitsPer1M := decimalString units.cachedInputPriceUnitsPer1M
  cacheWritePriceUnitsPer1M := units.cacheWritePriceUnitsPer1M.map decimalString
  outputPriceUnitsPer1M := decimalString units.outputPriceUnitsPer1M

def encodeFrozenPriceUnits (units : FrozenPriceUnits) (serviceTier tierKey : String) :
    FrozenPriceSnapshotDocument where
  schemaVersion := 1
  currency := "USD"
  precision := 6
  serviceTier := serviceTier
  tierKey := tierKey
  toFrozenPriceUnitsDocument := frozenPriceUnitsDocument units

def parseFrozenPriceUnits (document : FrozenPriceUnitsDocument) :
    Except RelayError FrozenPriceUnits := do
  let input ← bigintField document.inputPriceUnitsPer1M "inputPriceUnitsPer1M"
  let cached ← bigintField document.cachedInputPriceUnitsPer1M "cachedInputPriceUnitsPer1M"
  let cacheWrite ←
    optionalBigintField document.cacheWritePriceUnitsPer1M "cacheWritePriceUnitsPer1M"
  let output ← bigintField document.outputPriceUnitsPer1M "outputPriceUnitsPer1M"
  return ⟨input, cached, cacheWrite, output⟩

/-! ### Encoding -/

def validatedFrozenUnits (input : FrozenPriceUnits) : Except RelayError FrozenPriceUnits := do
  rejectIf (¬(FitsInt64 input.inputPriceUnitsPer1M ∧ FitsInt64 input.cachedInputPriceUnitsPer1M ∧
      FitsInt64 input.outputPriceUnitsPer1M))
    ⟨"invalid_price_profile",
      "Frozen price units must fit a non-negative signed 64-bit integer", 500⟩
  rejectIf (¬∀ units ∈ input.cacheWritePriceUnitsPer1M, FitsInt64 units)
    ⟨"invalid_price_profile",
      "Frozen Cache write price units must be null or fit a non-negative signed 64-bit integer",
      500⟩
  return input

def normalizedProfileServiceTier (value : String) : ProfileServiceTier :=
  if normalizedWord value = "priority" then .priority else .standard

def storedProfileServiceTier (value : String) : Option ProfileServiceTier :=
  if normalizedWord value = "standard" then some .standard
  else if normalizedWord value = "priority" then some .priority
  else none

/-- The document of one enabled tier; a tier of another service tier is left out. -/
def encodeFrozenPriceTier (tier : InvocationPriceProfileTierInput) :
    Except RelayError (List FrozenPriceTierDocument) :=
  match storedProfileServiceTier tier.serviceTier with
  | none => .ok []
  | some serviceTier => do
    rejectIf (tier.tierKey = "" ∨ 100 < utf16Length tier.tierKey ∨ tier.minInputTokens < 0 ∨
        ∃ maximum ∈ tier.maxInputTokens, maximum < tier.minInputTokens)
      ⟨"invalid_price_profile", "Frozen price tier identity or bounds are invalid", 500⟩
    let units ← validatedFrozenUnits tier.toFrozenPriceUnits
    return [{
      frozenPriceUnitsDocument units with
      serviceTier := serviceTier.text
      tierKey := tier.tierKey
      minInputTokens := decimalString tier.minInputTokens
      maxInputTokens := tier.maxInputTokens.map decimalString }]

section Collation

variable (localeCompare : String → String → Ordering)

def compareDecimalStrings (left right : String) : Ordering :=
  if left.length = right.length then localeCompare left right
  else compare left.length right.length

def compareFrozenTiers (left right : FrozenPriceTierDocument) : Ordering :=
  (localeCompare left.serviceTier right.serviceTier).then
    ((compareDecimalStrings localeCompare left.minInputTokens right.minInputTokens).then
      (localeCompare left.tierKey right.tierKey))

def encodeFrozenPriceProfile (input : InvocationPriceProfileInput) :
    Except RelayError FrozenPriceProfileDocument := do
  rejectIf (input.status ≠ "enabled")
    ⟨"billable_price_changed", "Billable price is no longer enabled", 409⟩
  let base ← validatedFrozenUnits input.toFrozenPriceUnits
  let tiers ← (input.tiers.filter (·.status = "enabled")).mapM encodeFrozenPriceTier
  return {
    schemaVersion := 1
    currency := "USD"
    precision := 6
    base := frozenPriceUnitsDocument base
    tiers := sortBy (compareFrozenTiers localeCompare) tiers.flatten }

/-! ### Selection -/

/-- A tier of a profile that was read back. -/
structure FrozenPriceTier where
  serviceTier : ProfileServiceTier
  tierKey : String
  minInputTokens : Int
  maxInputTokens : Option Int
  units : FrozenPriceUnits
deriving DecidableEq, Repr

structure FrozenPriceProfile where
  base : FrozenPriceUnits
  tiers : List FrozenPriceTier
deriving DecidableEq, Repr

structure SelectedFrozenPriceProfile where
  units : FrozenPriceUnits
  serviceTier : ProfileServiceTier
  tierKey : String
  snapshotJson : FrozenPriceSnapshotDocument
deriving DecidableEq, Repr

def frozenUnitsFrom (document : FrozenPriceUnitsDocument) : Except RelayError FrozenPriceUnits := do
  validatedFrozenUnits (← parseFrozenPriceUnits document)

def parseFrozenPriceTier (tier : FrozenPriceTierDocument) : Except RelayError FrozenPriceTier := do
  rejectIf ((tier.serviceTier ≠ "standard" ∧ tier.serviceTier ≠ "priority") ∨
      tier.tierKey = "" ∨ 100 < utf16Length tier.tierKey)
    ⟨"invalid_price_profile", "Frozen price tier identity is invalid", 500⟩
  let serviceTier := if tier.serviceTier = "priority" then .priority else .standard
  let minInputTokens ← bigintField tier.minInputTokens "minInputTokens"
  let maxInputTokens ← optionalBigintField tier.maxInputTokens "maxInputTokens"
  rejectIf (∃ maximum ∈ maxInputTokens, maximum < minInputTokens)
    ⟨"invalid_price_profile", "Frozen price tier bounds are invalid", 500⟩
  let units ← frozenUnitsFrom tier.toFrozenPriceUnitsDocument
  return ⟨serviceTier, tier.tierKey, minInputTokens, maxInputTokens, units⟩

def parseFrozenPriceProfile (document : FrozenPriceProfileDocument) :
    Except RelayError FrozenPriceProfile := do
  rejectIf (document.schemaVersion ≠ 1 ∨ document.currency ≠ "USD" ∨ document.precision ≠ 6)
    ⟨"invalid_price_profile", "Frozen price profile contract is invalid", 500⟩
  let tiers ← document.tiers.mapM parseFrozenPriceTier
  let base ← frozenUnitsFrom document.base
  return ⟨base, tiers⟩

/-- The order in which matching tiers are preferred: the highest lower bound first. -/
def compareMatchingTiers (left right : FrozenPriceTier) : Ordering :=
  (compare right.minInputTokens left.minInputTokens).then
    (localeCompare left.tierKey right.tierKey)

def FrozenPriceTier.covers (tier : FrozenPriceTier) (inputTokens : Int) : Bool :=
  tier.minInputTokens ≤ inputTokens && tier.maxInputTokens.all (inputTokens ≤ ·)

/-- The matching tier of a service tier that a usage is settled at. -/
def FrozenPriceProfile.matching (profile : FrozenPriceProfile) (serviceTier : ProfileServiceTier)
    (inputTokens : Int) : Option FrozenPriceTier :=
  (sortBy (compareMatchingTiers localeCompare) (profile.tiers.filter fun tier =>
    tier.serviceTier = serviceTier && tier.covers inputTokens)).head?

/-- One step of the search for the lowest bound. -/
def lowerInput (minimum : Option Int) (tier : FrozenPriceTier) : Option Int :=
  match minimum with
  | none => some tier.minInputTokens
  | some bound => if tier.minInputTokens < bound then some tier.minInputTokens else some bound

/-- The lowest bound at which a standard tier starts. -/
def FrozenPriceProfile.firstStandardInput (profile : FrozenPriceProfile) : Option Int :=
  (profile.tiers.filter (·.serviceTier = .standard)).foldl lowerInput none

def selectFrozenPriceProfile (document : FrozenPriceProfileDocument) (inputTokens : Int)
    (requestedServiceTier : String) (requireServiceTier : Bool) :
    Except RelayError SelectedFrozenPriceProfile := do
  assertNonNegative inputTokens "inputTokens"
  let profile ← parseFrozenPriceProfile document
  let requested := normalizedProfileServiceTier requestedServiceTier
  let requestedTier := profile.matching localeCompare requested inputTokens
  rejectIf (requireServiceTier ∧ requested = .priority ∧ requestedTier = none)
    ⟨"service_tier_price_not_configured",
      "No priority price tier is configured for this Provider usage", 500⟩
  let standardTier := profile.matching localeCompare .standard inputTokens
  let selected := requestedTier <|> standardTier
  -- below the first standard tier, or without one, the base price counts
  let belowStandard := profile.firstStandardInput.all (inputTokens < ·)
  let units := (selected.map (·.units)) <|> (if belowStandard then some profile.base else none)
  match units with
  | none =>
    throw ⟨"price_tier_not_available", "No enabled price tier covers the Provider usage", 500⟩
  | some units =>
    let serviceTier := (selected.map (·.serviceTier)).getD .standard
    let tierKey := (selected.map (·.tierKey)).getD "short_context"
    return ⟨units, serviceTier, tierKey,
      encodeFrozenPriceUnits units serviceTier.text tierKey⟩

end Collation

end Frely.Billing
