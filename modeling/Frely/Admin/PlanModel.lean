import Frely.Admin.PriceDraft

/-!
# The check of a price profile

`validatePriceProfile` of the plan editor, on the enabled tiers of a price.  It returns the first
error: of a base price, of a tier, or of the ranges of a service tier.
-/

namespace Frely.Admin

open StableSort

/-- The error of the first price that is negative.  Every `Rat` is finite. -/
def negativePrice (inputPer1M cachedInputPer1M outputPer1M : Rat) : Option String :=
  [("inputPer1M", inputPer1M), ("cachedInputPer1M", cachedInputPer1M),
    ("outputPer1M", outputPer1M)].findSome? fun (field, value) =>
      if value < 0 then some field else none

def isNegativeCacheWrite (cacheWritePer1M : Option Rat) : Bool := cacheWritePer1M.any (· < 0)

/-- `/^[a-z][a-z0-9_]{1,63}$/`. -/
def isStableTierKey (tierKey : String) : Bool :=
  match tierKey.toList with
  | [] => false
  | first :: rest => first.isLower && decide (1 ≤ rest.length) && decide (rest.length ≤ 63) &&
    rest.all fun c => c.isLower || c.isDigit || c = '_'

def PriceTierLike.profileServiceTier (tier : PriceTierLike) : String :=
  normalizedWord (tier.serviceTier.getD "standard")

def PriceTierLike.uniqueKey (tier : PriceTierLike) : String :=
  tier.profileServiceTier ++ ":" ++ tier.tierKey

def PriceTierLike.hasValidRange (tier : PriceTierLike) : Bool :=
  0 ≤ tier.minInputTokens && tier.maxInputTokens.all (tier.minInputTokens ≤ ·)

def profileTierError (seenTierKeys : List String) (tier : PriceTierLike) : Option String :=
  if tier.profileServiceTier ∉ ["standard", "batch", "flex", "priority"] then
    some ("tier " ++ tier.tierKey ++ " has an invalid service tier.")
  else if !isStableTierKey tier.tierKey then
    some ("tier " ++ (if tier.tierKey = "" then "(missing)" else tier.tierKey) ++
      " must use a stable snake_case key.")
  else if tier.uniqueKey ∈ seenTierKeys then some ("tier " ++ tier.uniqueKey ++ " is duplicated.")
  else if !tier.hasValidRange then
    some ("tier " ++ tier.tierKey ++ " has an invalid token range.")
  else match negativePrice tier.inputPer1M tier.cachedInputPer1M tier.outputPer1M with
    | some field => some ("tier " ++ tier.tierKey ++ " " ++ field ++
        " must be a finite non-negative number.")
    | none =>
      if isNegativeCacheWrite tier.cacheWritePer1M then
        some ("tier " ++ tier.tierKey ++
          " cacheWritePer1M must be null or a finite non-negative number.")
      else none

/-- The first error in the tiers after those whose keys are seen. -/
def profileTierErrors (seenTierKeys : List String) : List PriceTierLike → Option String
  | [] => none
  | tier :: rest =>
    (profileTierError seenTierKeys tier).or
      (profileTierErrors (tier.uniqueKey :: seenTierKeys) rest)

/-- The loop over the sorted tiers of a service tier. -/
def profileRangeError (serviceTier : String) (expectedMin : Int) :
    List PriceTierLike → Option String
  | [] => none
  | tier :: rest =>
    if tier.minInputTokens ≠ expectedMin then
      some (serviceTier ++ " tiers overlap or leave a gap near " ++ tier.tierKey ++ ".")
    else match tier.maxInputTokens with
      | none =>
        if rest ≠ [] then
          some ("unbounded tier " ++ tier.tierKey ++ " must be last for " ++ serviceTier ++ ".")
        else none
      | some high => profileRangeError serviceTier (high + 1) rest

section Collation

variable (localeCompare : String → String → Ordering)

def compareProfileTiers (left right : PriceTierLike) : Ordering :=
  (compare left.minInputTokens right.minInputTokens).then
    (localeCompare left.tierKey right.tierKey)

/-- The sorted tiers of a service tier. -/
def profileTiers (tiers : List PriceTierLike) (serviceTier : String) : List PriceTierLike :=
  sortBy (compareProfileTiers localeCompare)
    (tiers.filter (·.profileServiceTier = serviceTier))

def expectedStart (serviceTier : String) (ordered : List PriceTierLike) : Int :=
  match ordered with
  | [] => 0
  | first :: _ =>
    if serviceTier = "standard" ∧ 0 < first.minInputTokens then first.minInputTokens else 0

def profileServiceTierError (tiers : List PriceTierLike) (serviceTier : String) :
    Option String :=
  let ordered := profileTiers localeCompare tiers serviceTier
  (profileRangeError serviceTier (expectedStart serviceTier ordered) ordered).or
    (if serviceTier ≠ "priority" ∧ ∃ last ∈ ordered.getLast?, last.maxInputTokens ≠ none then
      some (serviceTier ++ " tiers must cover the terminal unbounded range.")
    else none)

def validatePriceProfile (profile : PriceRecordLike) : Option String :=
  let tiers := profile.tiers.getD []
  match negativePrice profile.inputPer1M profile.cachedInputPer1M profile.outputPer1M with
  | some field => some (field ++ " must be a finite non-negative number.")
  | none =>
    if isNegativeCacheWrite profile.cacheWritePer1M then
      some "cacheWritePer1M must be null or a finite non-negative number."
    else (profileTierErrors [] tiers).or
      ((tiers.map (·.profileServiceTier)).eraseDups.findSome?
        (profileServiceTierError localeCompare tiers))

end Collation

end Frely.Admin
