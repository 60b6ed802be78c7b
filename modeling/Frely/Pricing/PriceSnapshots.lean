import Frely.Core.Numbers
import Frely.Lib.Checked
import Frely.Lib.Json

/-!
# Price snapshots

The compact JSON documents in which a billing event freezes its price.
`encodeBillablePriceSnapshot` and `encodeCostPriceSnapshot` write version 4; the decoders read the
versions 1 to 4.  Versions 1 and 2 have no price for cache writes, which cost as much as input
there.
-/

namespace Frely.Pricing

open Checked

/-- The doubles: their JSON texts, which of them are finite and which are integers. -/
structure SnapshotNumbers (ν : Type) where
  format : Json.NumberFormat ν
  isFinite : ν → Bool
  isInteger : ν → Bool
  isFinite_of_isInteger : ∀ n, isInteger n = true → isFinite n = true
  isInteger_ofNat : ∀ n, isInteger (format.ofNat n) = true

section Snapshots

variable {ν : Type}

structure PriceTierSnapshotLike (ν : Type) where
  serviceTier : Option String
  tierKey : String
  minInputTokens : ν
  maxInputTokens : Option ν
  inputPer1M : ν
  cachedInputPer1M : ν
  cacheWritePer1M : Option ν
  outputPer1M : ν
deriving DecidableEq

/-- What prices and costs have in common. -/
structure PriceLike (ν : Type) where
  inputPer1M : ν
  cachedInputPer1M : ν
  cacheWritePer1M : Option ν
  outputPer1M : ν
  selectedServiceTier : Option String := none
  selectedTierKey : Option String := none
  selectedTier : Option (PriceTierSnapshotLike ν) := none
  effectiveTiers : Option (List (PriceTierSnapshotLike ν)) := none

structure AccessPointPriceLike (ν : Type) extends PriceLike ν where
  id : String
  accessPointId : String

structure ProviderModelCostLike (ν : Type) extends PriceLike ν where
  id : String
  providerId : String
  providerModelName : String
  source : String

structure PriceTierSnapshot (ν : Type) where
  serviceTier : String
  tierKey : String
  minInputTokens : ν
  maxInputTokens : Option ν
  inputPer1M : ν
  cachedInputPer1M : ν
  cacheWritePer1M : Option ν
  outputPer1M : ν
deriving DecidableEq

/-- The selected tier of a document of version 2 to 4, and all its tiers. -/
structure SnapshotTiers (ν : Type) where
  selectedServiceTier : String
  selectedTierKey : String
  selectedTier : PriceTierSnapshot ν
  tiers : List (PriceTierSnapshot ν)
deriving DecidableEq

/-- The prices of a document of version 1. -/
structure SnapshotPrices (ν : Type) where
  input : ν
  cin : ν
  cacheWritePer1M : ν
  out : ν
deriving DecidableEq

structure BillableLabels where
  id : String
  ap : String
deriving DecidableEq

structure CostLabels where
  id : String
  p : String
  m : String
  src : String
deriving DecidableEq

/-- A decoded document, with the labels that it has. -/
inductive PriceSnapshot (ν κ : Type) where
  | flat (labels : κ) (prices : SnapshotPrices ν)
  | tiered (v : Nat) (labels : κ) (tiers : SnapshotTiers ν)
deriving DecidableEq

/-! ### Encoding -/

variable (numbers : SnapshotNumbers ν)

def flatTier (price : PriceLike ν) : PriceTierSnapshotLike ν where
  serviceTier := some "standard"
  tierKey := "short_context"
  minInputTokens := numbers.format.ofNat 0
  maxInputTokens := none
  inputPer1M := price.inputPer1M
  cachedInputPer1M := price.cachedInputPer1M
  cacheWritePer1M := price.cacheWritePer1M
  outputPer1M := price.outputPer1M

def snapshotTier (tier : PriceTierSnapshotLike ν) : PriceTierSnapshot ν where
  serviceTier := tier.serviceTier.getD "standard"
  tierKey := tier.tierKey
  minInputTokens := tier.minInputTokens
  maxInputTokens := tier.maxInputTokens
  inputPer1M := tier.inputPer1M
  cachedInputPer1M := tier.cachedInputPer1M
  cacheWritePer1M := tier.cacheWritePer1M
  outputPer1M := tier.outputPer1M

/-- What is written of the tiers of a price. -/
def snapshotTiers (price : PriceLike ν) : SnapshotTiers ν :=
  let selectedTier := price.selectedTier.getD (flatTier numbers price)
  { selectedServiceTier := price.selectedServiceTier.getD "standard"
    selectedTierKey := price.selectedTierKey.getD "short_context"
    selectedTier := snapshotTier selectedTier
    tiers := (price.effectiveTiers.getD [selectedTier]).map snapshotTier }

/-- `JSON.stringify` writes numbers that are not finite as `null`. -/
def numberJson (n : ν) : Json ν := if numbers.isFinite n then .number n else .null

def nullableJson (n : Option ν) : Json ν := n.elim .null (numberJson numbers)

def tierJson (tier : PriceTierSnapshot ν) : Json ν :=
  .object [("serviceTier", .string tier.serviceTier), ("tierKey", .string tier.tierKey),
    ("minInputTokens", numberJson numbers tier.minInputTokens),
    ("maxInputTokens", nullableJson numbers tier.maxInputTokens),
    ("inputPer1M", numberJson numbers tier.inputPer1M),
    ("cachedInputPer1M", numberJson numbers tier.cachedInputPer1M),
    ("cacheWritePer1M", nullableJson numbers tier.cacheWritePer1M),
    ("outputPer1M", numberJson numbers tier.outputPer1M)]

/-- A document of version 4, with the members that hold its labels. -/
def snapshotJson (labels : List (String × Json ν)) (tiers : SnapshotTiers ν) : Json ν :=
  .object (("v", .number (numbers.format.ofNat 4)) :: labels ++
    [("selectedServiceTier", .string tiers.selectedServiceTier),
      ("selectedTierKey", .string tiers.selectedTierKey),
      ("selectedTier", tierJson numbers tiers.selectedTier),
      ("tiers", .array (tiers.tiers.map (tierJson numbers)))])

def encodeBillablePriceSnapshot (price : AccessPointPriceLike ν) : List Char :=
  Json.stringify numbers.format (snapshotJson numbers
    [("id", .string price.id), ("ap", .string price.accessPointId)]
    (snapshotTiers numbers price.toPriceLike))

def encodeCostPriceSnapshot (cost : ProviderModelCostLike ν) : List Char :=
  Json.stringify numbers.format (snapshotJson numbers
    [("id", .string cost.id), ("p", .string cost.providerId),
      ("m", .string cost.providerModelName), ("src", .string cost.source)]
    (snapshotTiers numbers cost.toPriceLike))

/-! ### Decoding -/

/-- A `RelayError` of status 500. -/
structure SnapshotError where
  code : String
  message : String
deriving DecidableEq

mutual

/-- `String(value)`. -/
def textOfJson : Json ν → String
  | .null => "null"
  | .bool value => if value then "true" else "false"
  | .number n => .ofList (numbers.format.print n)
  | .string text => text
  | .array items => ",".intercalate (textsOfItems items)
  | .object _ => "[object Object]"

def textsOfItems : List (Json ν) → List String
  | [] => []
  | .null :: rest => "" :: textsOfItems rest
  | item :: rest => textOfJson item :: textsOfItems rest

end

def supportedVersions : List Nat := [1, 2, 3, 4]

/-- `Number(value)` where `Number` gives a supported version. -/
def versionOf : Json ν → Option Nat
  | .number n => (numbers.format.toNat? n).filter (· ∈ supportedVersions)
  | .bool true => some 1
  | .null | .bool false | .object _ => none
  | value => supportedVersions.find? fun v =>
    Frely.number (textOfJson numbers value) = .finite v

/-- The version that `===` finds, which is 1 for everything else that is supported. -/
def tieredVersion (value : Option (Json ν)) : Option Nat :=
  match value with
  | some (.number n) => (numbers.format.toNat? n).filter (· ∈ [2, 3, 4])
  | _ => none

/-- `syntaxMessage` is what `JSON.parse` says of a text that is no JSON. -/
def parseSnapshot (syntaxMessage : List Char → String) (json : List Char) (code : String) :
    Except SnapshotError (List (String × Json ν)) :=
  match Json.parse numbers.format json with
  | some (.object members) => .ok members
  | some _ => .error ⟨code, "snapshot must be an object"⟩
  | none => .error ⟨code, syntaxMessage json⟩

def assertVersion (value : List (String × Json ν)) (code : String) : Except SnapshotError Unit :=
  rejectIf (((Json.member? value "v").bind (versionOf numbers)).isNone) ⟨code,
    "Unsupported price snapshot version: " ++
      ((Json.member? value "v").elim "undefined" (textOfJson numbers))⟩

def requiredString (value : List (String × Json ν)) (key code : String) :
    Except SnapshotError String :=
  match Json.member? value key with
  | some (.string field) =>
    if field = "" then
      .error ⟨code, "Price snapshot field " ++ key ++ " must be a non-empty string"⟩
    else .ok field
  | _ => .error ⟨code, "Price snapshot field " ++ key ++ " must be a non-empty string"⟩

/-- A number field that passes a test; `requirement` says which. -/
def requiredNumber (test : ν → Bool) (requirement : String) (value : List (String × Json ν))
    (key code : String) : Except SnapshotError ν :=
  match Json.member? value key with
  | some (.number field) =>
    if test field then .ok field
    else .error ⟨code, "Price snapshot field " ++ key ++ " must be " ++ requirement⟩
  | _ => .error ⟨code, "Price snapshot field " ++ key ++ " must be " ++ requirement⟩

def requiredFiniteNumber : List (String × Json ν) → String → String → Except SnapshotError ν :=
  requiredNumber numbers.isFinite "a finite number"

def requiredInteger : List (String × Json ν) → String → String → Except SnapshotError ν :=
  requiredNumber numbers.isInteger "an integer"

/-- A field that is null or what is read of it. -/
def nullable (read : List (String × Json ν) → String → String → Except SnapshotError ν)
    (value : List (String × Json ν)) (key code : String) : Except SnapshotError (Option ν) :=
  match Json.member? value key with
  | some .null => .ok none
  | _ => some <$> read value key code

def nullableFiniteNumber :
    List (String × Json ν) → String → String → Except SnapshotError (Option ν) :=
  nullable (requiredFiniteNumber numbers)

def nullableInteger :
    List (String × Json ν) → String → String → Except SnapshotError (Option ν) :=
  nullable (requiredNumber numbers.isInteger "null or an integer")

/-- The price of cache writes in a tier of a version. -/
def parseCacheWrite (record : List (String × Json ν)) (code : String) (version : Nat) :
    Except SnapshotError (Option ν) :=
  if 4 ≤ version then nullableFiniteNumber numbers record "cacheWritePer1M" code
  else if version = 3 then some <$> requiredFiniteNumber numbers record "cacheWritePer1M" code
  else some <$> requiredFiniteNumber numbers record "inputPer1M" code

def parseSnapshotTier (value : Option (Json ν)) (code : String) (version : Nat) :
    Except SnapshotError (PriceTierSnapshot ν) :=
  match value with
  | some (.object record) => do
    let serviceTier ← requiredString record "serviceTier" code
    let tierKey ← requiredString record "tierKey" code
    let minInputTokens ← requiredInteger numbers record "minInputTokens" code
    let maxInputTokens ← nullableInteger numbers record "maxInputTokens" code
    let inputPer1M ← requiredFiniteNumber numbers record "inputPer1M" code
    let cachedInputPer1M ← requiredFiniteNumber numbers record "cachedInputPer1M" code
    let cacheWritePer1M ← parseCacheWrite numbers record code version
    let outputPer1M ← requiredFiniteNumber numbers record "outputPer1M" code
    return { serviceTier, tierKey, minInputTokens, maxInputTokens, inputPer1M, cachedInputPer1M,
             cacheWritePer1M, outputPer1M }
  | _ => .error ⟨code, "Price snapshot tier must be an object"⟩

def parseSnapshotTierArray (value : Option (Json ν)) (code : String) (version : Nat) :
    Except SnapshotError (List (PriceTierSnapshot ν)) :=
  match value with
  | some (.array items) => items.mapM fun item => parseSnapshotTier numbers (some item) code version
  | _ => .error ⟨code, "Price snapshot tiers must be an array"⟩

variable (syntaxMessage : List Char → String)

def decodeBillablePriceSnapshot (json : List Char) :
    Except SnapshotError (PriceSnapshot ν BillableLabels) := do
  let code := "billable_price_snapshot_invalid"
  let value ← parseSnapshot numbers syntaxMessage json code
  assertVersion numbers value "billable_price_snapshot_version_unsupported"
  match tieredVersion numbers (Json.member? value "v") with
  | some v => do
    let selectedTier ← parseSnapshotTier numbers (Json.member? value "selectedTier") code v
    let id ← requiredString value "id" code
    let ap ← requiredString value "ap" code
    let selectedServiceTier ← requiredString value "selectedServiceTier" code
    let selectedTierKey ← requiredString value "selectedTierKey" code
    let tiers ← parseSnapshotTierArray numbers (Json.member? value "tiers") code v
    return .tiered v ⟨id, ap⟩ ⟨selectedServiceTier, selectedTierKey, selectedTier, tiers⟩
  | none => do
    let id ← requiredString value "id" code
    let ap ← requiredString value "ap" code
    let input ← requiredFiniteNumber numbers value "in" code
    let cin ← requiredFiniteNumber numbers value "cin" code
    let cacheWritePer1M ← requiredFiniteNumber numbers value "in" code
    let out ← requiredFiniteNumber numbers value "out" code
    return .flat ⟨id, ap⟩ ⟨input, cin, cacheWritePer1M, out⟩

def decodeCostPriceSnapshot (json : List Char) :
    Except SnapshotError (PriceSnapshot ν CostLabels) := do
  let code := "cost_price_snapshot_invalid"
  let value ← parseSnapshot numbers syntaxMessage json code
  assertVersion numbers value "cost_price_snapshot_version_unsupported"
  match tieredVersion numbers (Json.member? value "v") with
  | some v => do
    let selectedTier ← parseSnapshotTier numbers (Json.member? value "selectedTier") code v
    let id ← requiredString value "id" code
    let p ← requiredString value "p" code
    let m ← requiredString value "m" code
    let src ← requiredString value "src" code
    let selectedServiceTier ← requiredString value "selectedServiceTier" code
    let selectedTierKey ← requiredString value "selectedTierKey" code
    let tiers ← parseSnapshotTierArray numbers (Json.member? value "tiers") code v
    return .tiered v ⟨id, p, m, src⟩
      ⟨selectedServiceTier, selectedTierKey, selectedTier, tiers⟩
  | none => do
    let id ← requiredString value "id" code
    let p ← requiredString value "p" code
    let m ← requiredString value "m" code
    let input ← requiredFiniteNumber numbers value "in" code
    let cin ← requiredFiniteNumber numbers value "cin" code
    let cacheWritePer1M ← requiredFiniteNumber numbers value "in" code
    let out ← requiredFiniteNumber numbers value "out" code
    let src ← requiredString value "src" code
    return .flat ⟨id, p, m, src⟩ ⟨input, cin, cacheWritePer1M, out⟩

end Snapshots

end Frely.Pricing
