import Frely.ModelAccess.RoutingKernel

/-!
# Routing definitions

A routing definition as it is given with a command, its normal form, and the fingerprint that says
whether two definitions route alike.

`canonicalize` and the checks on request overrides are parameters (`CommandHost`): every result
holds whatever they do, unless it says otherwise.  A value of the host language that is only passed
on is given as its JSON text.
-/

namespace Frely.ModelAccess

open Frely.Postgres Frely.RequestExecution Checked StableSort

/-- A text that a condition reads as true. -/
abbrev NonEmptyText := { text : String // text ≠ "" }

/-! ### Definitions -/

structure RoutingTargetInput where
  id : Option String
  type : String
  targetAccessPointId : Option String
  targetProviderId : Option String
  targetProviderModelName : Option String
  position : Int
  status : Option String

structure RoutingDefinitionInput where
  selectorId : String
  behaviorVersion : Int
  config : Option Json
  requestOverrides : Option String
  targets : List RoutingTargetInput
  expectedRoutingRevision : Option Int

structure NormalizedRoutingTarget where
  id : Option String
  type : AccessPointTargetType
  targetAccessPointId : Option String
  targetProviderId : Option String
  targetProviderModelName : Option String
  position : Int
  status : String
deriving DecidableEq

structure NormalizedRoutingDefinition where
  ruleId : String
  behaviorVersion : Int
  config : AccessPointSelectorConfig
  configJson : String
  requestOverridesJson : String
  targets : List NormalizedRoutingTarget

/-- What the hash of a creation is computed of. -/
structure CreateAccessPointRequest where
  ownerId : String
  scopeRef : String
  name : String
  description : Option String
  apiFamily : String
  exposedModel : String
  targetModel : String
  routing : NormalizedRoutingDefinition
  priority : Int
  weight : Int
  fallbackOrder : Int
  personalProviderSlotId : Option String

/-- What the commands use of the host language and of libraries besides `Host`. -/
structure CommandHost extends Host where
  /-- `canonicalize` on a configuration -/
  canonicalizeConfig : AccessPointSelectorConfig → String
  /-- `canonicalize(JSON.parse(text))`, where the text is JSON -/
  canonicalizeText : String → Option String
  /-- `canonicalize(normalizeAccessPointRequestOverrides(JSON.parse(text)))`, or the message -/
  normalizeRequestOverrides : String → Except String String
  idempotencyKeyHash : String → String
  createRequestHash : CreateAccessPointRequest → String

/-! ### Normalization -/

/-- The word for a failure class in a configuration. -/
def failureClassText : ProviderFailureClass → String
  | .connectError => "connect_error"
  | .timeout => "timeout"
  | .rateLimited => "rate_limited"
  | .upstream5xx => "upstream_5xx"
  | .nonRetryable => "non_retryable"

/-- A configuration as a JSON value. -/
def AccessPointSelectorConfig.json : AccessPointSelectorConfig → Json
  | .direct => .object []
  | .orderedFallback maxAttempts retryOn => .object
      [("maxAttempts", .number (some maxAttempts)),
        ("retryOn", .array (retryOn.map fun failureClass =>
          .string (failureClassText failureClass)))]

def requiredTrimmed (code : String) (value : Option String) (name : String) :
    Except RelayError String :=
  let text := String.ofList (trimmed (value.getD "").toList)
  if text = "" then .error ⟨code, name ++ " is required", 400⟩ else .ok text

def invalidRouting (message : String) : RelayError := ⟨"invalid_access_point_routing", message, 400⟩

/-- The reference of a target: to an AccessPoint, or to a model of a provider. -/
def normalizeReference (targetModel : String) (index : Nat) (candidate : RoutingTargetInput) :
    Except RelayError NormalizedRoutingTarget :=
  if candidate.type = "access-point" then do
    let targetAccessPointId ← requiredTrimmed "invalid_access_point_routing"
      candidate.targetAccessPointId s!"routing.targets[{index}].targetAccessPointId"
    rejectIf (truthy candidate.targetProviderId ≠ none ∨
        truthy candidate.targetProviderModelName ≠ none)
      (invalidRouting "AccessPoint target cannot contain Provider identity")
    return ⟨truthy candidate.id, .accessPoint, some targetAccessPointId, none, none,
      candidate.position, candidate.status.getD "enabled"⟩
  else do
    rejectIf (candidate.type ≠ "provider-model")
      ⟨"invalid_access_point_target",
        "Routing target type must be provider-model or access-point", 400⟩
    let targetProviderId ← requiredTrimmed "invalid_access_point_routing"
      candidate.targetProviderId s!"routing.targets[{index}].targetProviderId"
    let targetProviderModelName ← requiredTrimmed "invalid_access_point_routing"
      (some (candidate.targetProviderModelName.getD targetModel))
      s!"routing.targets[{index}].targetProviderModelName"
    rejectIf (targetProviderModelName ≠ targetModel) ⟨"access_point_target_model_mismatch",
      "targetProviderModelName must equal targetModel", 400⟩
    rejectIf (truthy candidate.targetAccessPointId ≠ none)
      (invalidRouting "Provider target cannot contain AccessPoint identity")
    return ⟨truthy candidate.id, .providerModel, none, some targetProviderId,
      some targetProviderModelName, candidate.position, candidate.status.getD "enabled"⟩

/-- The loop over the targets; `ids` and `positions` are those already taken. -/
def normalizeTargets (targetModel : String) :
    Nat → List String → List Int → List RoutingTargetInput →
      Except RelayError (List NormalizedRoutingTarget)
  | _, _, _, [] => .ok []
  | index, ids, positions, candidate :: rest => do
    rejectIf (¬IsSafeInteger candidate.position ∨ candidate.position < 0)
      (invalidRouting s!"routing.targets[{index}].position must be a non-negative integer")
    rejectIf (candidate.position ∈ positions)
      (invalidRouting s!"Routing target position {candidate.position} is duplicated")
    rejectIf (∃ id ∈ truthy candidate.id, id ∈ ids)
      (invalidRouting s!"Routing target id {candidate.id.getD default} is duplicated")
    let target ← normalizeReference targetModel index candidate
    let targets ← normalizeTargets targetModel (index + 1) ((truthy candidate.id).toList ++ ids)
      (candidate.position :: positions) rest
    return target :: targets

def sortTargets (host : Host) (targets : List NormalizedRoutingTarget) :
    List NormalizedRoutingTarget :=
  sortBy (fun left right => (compare left.position right.position).then
    (host.localeCompare (left.id.getD "") (right.id.getD ""))) targets

/-- `config ?? {}`. -/
def configInput : Option Json → Json
  | none | some .null => .object []
  | some config => config

def normalizeAccessPointSelectorConfig (id : String) (behaviorVersion : Int) (input : Json)
    (enabledTargetCount : Nat) : Except String AccessPointSelectorConfig := do
  let selector ← getAccessPointSelector id behaviorVersion
  selector.normalizeConfig input enabledTargetCount

def enabledTargetCount (targets : List NormalizedRoutingTarget) : Nat :=
  (targets.filter (·.status = "enabled")).length

def normalizeRoutingDefinition (host : CommandHost) (input : RoutingDefinitionInput)
    (targetModel : String) : Except RelayError NormalizedRoutingDefinition := do
  rejectIf (input.targets = []) (invalidRouting "AccessPoint requires at least one target")
  let unsorted ← normalizeTargets targetModel 0 [] [] input.targets
  let targets := sortTargets host.toHost unsorted
  let config ← Except.mapError (fun message => ⟨"invalid_access_point_routing_rule", message, 400⟩)
    (normalizeAccessPointSelectorConfig input.selectorId input.behaviorVersion
      (configInput input.config) (enabledTargetCount targets))
  let requestOverridesJson ←
    Except.mapError (fun message => ⟨"invalid_access_point_request_overrides", message, 400⟩)
      (host.normalizeRequestOverrides (input.requestOverrides.getD "\x7b\x7d"))
  return { ruleId := input.selectorId
           behaviorVersion := input.behaviorVersion
           config
           configJson := host.canonicalizeConfig config
           requestOverridesJson
           targets }

/-! ### Fingerprints -/

/-- A target of an AccessPoint as it is stored, with its identifier and its references. -/
structure ResolvedTarget where
  id : String
  targetType : AccessPointTargetType
  targetAccessPointId : Option String
  targetProviderId : Option String
  targetProviderModelName : Option String
  targetProviderModelId : Option String
  position : Int
  status : String
  removedAt : Option NonEmptyText
deriving DecidableEq

structure FingerprintTarget where
  id : String
  type : AccessPointTargetType
  targetAccessPointId : Option String
  targetProviderId : Option String
  targetProviderModelName : Option String
  targetProviderModelId : Option String
  position : Int
deriving DecidableEq

/-- The record whose canonical text the fingerprint is; texts of such records are equal when the
records are. -/
structure RoutingFingerprint where
  exposedModel : String
  targetModel : String
  ruleId : String
  behaviorVersion : Int
  config : String
  requestOverrides : String
  enabledTargets : List FingerprintTarget
deriving DecidableEq

def fingerprintTarget (target : ResolvedTarget) : FingerprintTarget where
  id := target.id
  type := target.targetType
  targetAccessPointId := target.targetAccessPointId
  targetProviderId := target.targetProviderId
  targetProviderModelName := target.targetProviderModelName
  targetProviderModelId := target.targetProviderModelId
  position := target.position

def fingerprintTargets (host : Host) (targets : List ResolvedTarget) : List FingerprintTarget :=
  sortBy (fun left right =>
      (compare left.position right.position).then (host.localeCompare left.id right.id))
    ((targets.filter fun target => target.status = "enabled" ∧ target.removedAt = none).map
      fingerprintTarget)

/-- `JSON.parse` and then `canonicalize`; a text that is no JSON is an error of the language. -/
def canonicalJson (host : CommandHost) (text : String) : Except RelayError String :=
  match host.canonicalizeText text with
  | some canonical => .ok canonical
  | none => .error ⟨"internal_error", "Unexpected token in JSON", 500⟩

def routingSemanticFingerprint (host : CommandHost)
    (exposedModel targetModel ruleId : String) (behaviorVersion : Int)
    (configJson requestOverridesJson : String) (targets : List ResolvedTarget) :
    Except RelayError RoutingFingerprint := do
  let config ← canonicalJson host configJson
  let requestOverrides ← canonicalJson host requestOverridesJson
  return { exposedModel, targetModel, ruleId, behaviorVersion, config, requestOverrides
           enabledTargets := fingerprintTargets host.toHost targets }

def targetIdentityEquals (current : ResolvedTarget) (next : NormalizedRoutingTarget) : Bool :=
  current.targetType = next.type && current.targetAccessPointId = next.targetAccessPointId &&
    current.targetProviderId = next.targetProviderId &&
    current.targetProviderModelName = next.targetProviderModelName

/-! ### Descriptions -/

def accessPointDescriptionMaxLength : Nat := 500

def normalizeAccessPointDescription (value : Option String) : Except RelayError (Option String) :=
  let normalized := truthy (value.map fun text => String.ofList (trimmed text.toList))
  match normalized with
  | none => .ok none
  | some text => do
    rejectIf (accessPointDescriptionMaxLength < text.length) ⟨"invalid_access_point_description",
      s!"AccessPoint description must be {accessPointDescriptionMaxLength} Unicode code points or fewer",
      400⟩
    return some text

end Frely.ModelAccess
