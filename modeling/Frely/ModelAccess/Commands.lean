import Frely.Core.ScopeRef
import Frely.Lib.DepthFirst
import Frely.Lib.Transaction
import Frely.ModelAccess.RoutingDefinition

/-!
# Commands on AccessPoints

Creating, changing and removing AccessPoints, each in a transaction of its own that ends with a
check of the whole graph.  A lock serializes the transactions, so that a step of the system is a
transaction.

What a command reads besides the graph is its `CommandEnvironment`, which may be another one at
every step.  The constraints of the database besides its primary keys only stop more commands, as a
lost connection does.
-/

namespace Frely.ModelAccess

open Frely.Postgres Checked Transaction

/-! ### The stored graph -/

structure AccessPointRow where
  id : String
  ownerId : String
  scopeRef : String
  name : String
  description : Option String
  apiFamily : String
  exposedModel : String
  targetModel : String
  routingRuleId : String
  routingRuleBehaviorVersion : Int
  routingRuleConfigJson : String
  requestOverridesJson : String
  routingRevision : Int
  priority : Int
  weight : Int
  fallbackOrder : Int
  status : String
  personalProviderSlotId : Option String
  removedAt : Option NonEmptyText
  createIdempotencyKeyHash : Option String
  createRequestHash : Option String
deriving DecidableEq

structure AccessPointTargetRow extends ResolvedTarget where
  accessPointId : String
deriving DecidableEq

instance : Keyed AccessPointRow String := ⟨AccessPointRow.id⟩

instance : Keyed AccessPointTargetRow String := ⟨fun row => row.id⟩

structure RoutingStore where
  accessPoints : Table AccessPointRow
  targets : Table AccessPointTargetRow
  providerModels : Table RoutingGraphProviderModel

namespace RoutingStore

/-- The targets of an AccessPoint, removed ones included. -/
def targetsOf (store : RoutingStore) (id : String) : List ResolvedTarget :=
  (store.targets.rows.filter (·.accessPointId = id)).map AccessPointTargetRow.toResolvedTarget

def unremovedTargetsOf (store : RoutingStore) (id : String) : List ResolvedTarget :=
  (store.targetsOf id).filter (·.removedAt = none)

/-- The AccessPoint of an identifier, unless it is removed. -/
def findUnremoved (store : RoutingStore) (id : String) : Option AccessPointRow :=
  (store.accessPoints.find? id).filter (·.removedAt = none)

end RoutingStore

/-! ### The surroundings of a command -/

structure CommandEnvironment where
  now : NonEmptyText
  providers : String → Option Provider
  /-- a model of a provider has an enabled cost -/
  enabledCost : String → String → Bool
  /-- an AccessPoint has an enabled price -/
  enabledPrice : String → Bool
  scopeExists : ScopeType → String → Bool
  apiKeyUser : String → Option String
  teamMember : String → String → Bool
  /-- a Plan that is not disabled and includes an AccessPoint -/
  referencedPlan : String → Option String

variable (env : CommandEnvironment)

def requireScopeRef (value : String) : Except RelayError String := do
  rejectIf (¬isRuntimeScopeRef value) ⟨"invalid_scope_ref", "Invalid scope_ref: " ++ value, 400⟩
  return value

def lockScope (scopeRef : String) : Except RelayError Unit := do
  let (scopeType, scopeId) ← parseScopeRef scopeRef
  rejectIf (scopeType ≠ .global ∧ ¬env.scopeExists scopeType scopeId)
    ⟨"scope_not_found", "Scope " ++ scopeRef ++ " not found", 404⟩

/-- What a user sees, through a key of theirs or not. -/
def userCanSee (userId : Option String) (source target : ScopeType × String) : Bool :=
  match truthy userId with
  | none => false
  | some userId => match target.1 with
    | .user => target.2 = userId
    | .key => source.1 = .key && target.2 = source.2
    | .team => env.teamMember target.2 userId
    | .global => false

def scopeCanSee (sourceScopeRef targetScopeRef : String) : Except RelayError Bool :=
  if targetScopeRef = "global:" ∨ sourceScopeRef = targetScopeRef then .ok true
  else do
    let source ← parseScopeRef sourceScopeRef
    let target ← parseScopeRef targetScopeRef
    return match source.1 with
      | .global => false
      | .team => target.1 = .team && source.2 = target.2
      | .user => userCanSee env (some source.2) source target
      | .key => userCanSee env (env.apiKeyUser source.2) source target

def invalidAccessPoint (message : String) : RelayError := ⟨"invalid_access_point", message, 400⟩

def integerOrDefault (value : Option Int) (fallback : Int) (name : String) :
    Except RelayError Int := do
  let resolved := value.getD fallback
  rejectIf (¬IsSafeInteger resolved) (invalidAccessPoint (name ++ " must be an integer"))
  return resolved

/-! ### Targets -/

/-- What the targets of a definition are checked against. -/
structure RoutingSource where
  sourceId : String
  sourceScopeRef : String
  targetModel : String
  sourceStatus : String

/-- The stable identifiers of the models of providers that a definition names. -/
abbrev ProviderModelIds := List ((String × String) × String)

def validateProviderTarget (store : RoutingStore) (source : RoutingSource)
    (target : NormalizedRoutingTarget) : Except RelayError ((String × String) × String) :=
  let providerId := target.targetProviderId.getD ""
  let name := target.targetProviderModelName.getD ""
  let unknown := invalidAccessPoint ("Unknown or invisible Provider: " ++ providerId)
  match env.providers providerId with
  | none => .error unknown
  | some provider => do
    let visible ← scopeCanSee env source.sourceScopeRef provider.scopeRef
    rejectIf (¬visible) unknown
    match store.providerModels.rows.find? fun model =>
        model.providerId = providerId ∧ model.providerModelName = name with
    | none => .error ⟨"provider_model_not_found",
        "Provider model " ++ providerId ++ ":" ++ name ++ " not found", 404⟩
    | some model => do
      rejectIf (¬env.enabledCost providerId name) ⟨"provider_model_cost_not_configured",
        "Provider model " ++ providerId ++ ":" ++ name ++ " has no enabled cost", 409⟩
      return ((providerId, name), model.id)

def validateAccessPointTarget (store : RoutingStore) (source : RoutingSource)
    (target : NormalizedRoutingTarget) : Except RelayError Unit :=
  let targetId := target.targetAccessPointId.getD ""
  match store.findUnremoved targetId with
  | none => .error (invalidAccessPoint ("Unknown AccessPoint: " ++ targetId))
  | some targetAccessPoint => do
    rejectIf (targetAccessPoint.id = source.sourceId)
      (invalidAccessPoint "AccessPoint cannot target itself")
    rejectIf (targetAccessPoint.exposedModel ≠ source.targetModel)
      ⟨"access_point_target_model_mismatch", "Target AccessPoint " ++ targetAccessPoint.id ++
        " does not expose " ++ source.targetModel, 400⟩
    let visible ← scopeCanSee env source.sourceScopeRef targetAccessPoint.scopeRef
    rejectIf (¬visible) ⟨"access_point_source_not_authorized", "Target AccessPoint " ++
      targetAccessPoint.id ++ " is not visible from " ++ source.sourceScopeRef, 403⟩
    rejectIf (source.sourceStatus = "enabled" ∧ target.status = "enabled" ∧
        targetAccessPoint.status ≠ "enabled")
      ⟨"access_point_target_disabled",
        "Target AccessPoint " ++ targetAccessPoint.id ++ " must be enabled first", 409⟩

def validateRoutingTargets (store : RoutingStore) (source : RoutingSource) :
    List NormalizedRoutingTarget → Except RelayError ProviderModelIds
  | [] => .ok []
  | target :: rest => match target.type with
    | .providerModel => do
      let entry ← validateProviderTarget env store source target
      let entries ← validateRoutingTargets store source rest
      return entry :: entries
    | .accessPoint => do
      validateAccessPointTarget env store source target
      validateRoutingTargets store source rest

/-- A later entry of one key replaces an earlier one. -/
def stableProviderModelId (target : NormalizedRoutingTarget) (providerModelIds : ProviderModelIds) :
    Except RelayError (Option String) :=
  match target.type with
  | .accessPoint => .ok none
  | .providerModel =>
    let key := (target.targetProviderId.getD "", target.targetProviderModelName.getD "")
    match truthy ((providerModelIds.reverse.find? (·.1 = key)).map (·.2)) with
    | some id => .ok (some id)
    | none => .error ⟨"provider_model_reference_missing",
        "ProviderModel stable reference was not resolved", 500⟩

def newResolvedTarget (target : NormalizedRoutingTarget) (id : String)
    (targetProviderModelId : Option String) : ResolvedTarget where
  id := id
  targetType := target.type
  targetAccessPointId := target.targetAccessPointId
  targetProviderId := target.targetProviderId
  targetProviderModelName := target.targetProviderModelName
  targetProviderModelId := targetProviderModelId
  position := target.position
  status := target.status
  removedAt := none

def resolvedTarget (existing : List ResolvedTarget) (providerModelIds : ProviderModelIds)
    (target : NormalizedRoutingTarget) (id : String) : Except RelayError ResolvedTarget := do
  let current := existing.find? (·.id = id)
  let targetProviderModelId ← stableProviderModelId target providerModelIds
  rejectIf (∃ row ∈ current, row.removedAt ≠ none)
    ⟨"access_point_target_removed", "Removed target " ++ id ++ " cannot be restored", 409⟩
  rejectIf (∃ row ∈ current, ¬targetIdentityEquals row target)
    ⟨"access_point_target_identity_immutable", "Target identity " ++ id ++ " cannot be changed",
      409⟩
  rejectIf (∃ row ∈ current, row.targetProviderModelId ≠ targetProviderModelId)
    ⟨"provider_model_reference_mismatch",
      "Target " ++ id ++ " has an inconsistent ProviderModelId", 500⟩
  return newResolvedTarget target id targetProviderModelId

/-! ### The check of the graph -/

def findUnremovedIds (store : RoutingStore) : List String :=
  (store.accessPoints.rows.filter (·.removedAt = none)).map AccessPointRow.id

/-- The AccessPoints that enabled targets of an AccessPoint refer to. -/
def enabledTargetIds (store : RoutingStore) (id : String) : List String :=
  ((store.unremovedTargetsOf id).filter fun target =>
    target.status = "enabled" ∧ target.targetType = .accessPoint).filterMap fun target =>
      truthy target.targetAccessPointId

/-- Those of them that are not removed; from a removed AccessPoint there is no way. -/
def unremovedTargetIds (store : RoutingStore) (id : String) : List String :=
  if store.findUnremoved id = none then []
  else (enabledTargetIds store id).filter fun target => store.findUnremoved target ≠ none

def accessPointCycle : RelayError :=
  ⟨"access_point_cycle", "AccessPoint routing graph contains a cycle", 409⟩

def multipleFallbackRules : RelayError :=
  ⟨"access_point_multiple_fallback_rules",
    "An enabled routing path may contain at most one ordered-fallback@1 rule", 409⟩

def stackExceeded : RelayError := ⟨"internal_error", "Maximum call stack size exceeded", 500⟩

def isEnabled (store : RoutingStore) (id : String) : Bool :=
  (store.findUnremoved id).any (·.status = "enabled")

def fallbackCount (store : RoutingStore) (id : String) : Nat :=
  if (store.findUnremoved id).any (·.routingRuleId = "ordered-fallback") then 1 else 0

def visitCycle (store : RoutingStore) (visited : List String) (id : String) :
    Except RelayError (List String) :=
  DepthFirst.visit (unremovedTargetIds store) (fun _ => accessPointCycle) stackExceeded
    ((findUnremovedIds store).length + 1) [] visited id

def visitFallbackCount (store : RoutingStore) (id : String) : Except RelayError Unit :=
  DepthFirst.measure (enabledTargetIds store) (isEnabled store) (fallbackCount store) 1
    (fun _ => multipleFallbackRules) stackExceeded ((findUnremovedIds store).length + 1) [] 0 id

def validateProspectiveGraph (store : RoutingStore) : Except RelayError Unit := do
  let _ ← (findUnremovedIds store).foldlM (visitCycle store) []
  forAll (findUnremovedIds store) (visitFallbackCount store)

/-! ### Creating -/

abbrev RoutingTxn := Txn RoutingStore RelayError

structure AccessPointCommandResult where
  id : String
  routingRevision : Int
  routingChanged : Bool
  removed : Bool
  replayed : Bool
deriving DecidableEq

structure CreateAccessPointCommand where
  idempotencyKey : String
  ownerId : String
  scopeRef : String
  name : String
  description : Option String
  apiFamily : String
  exposedModel : String
  targetModel : String
  routing : RoutingDefinitionInput
  priority : Option Int
  weight : Option Int
  fallbackOrder : Option Int
  status : Option String

/-- What the admission of a creation is asked with. -/
structure AccessPointCreation where
  scopeRef : String
  ownerId : String
  personalProviderSlotId : Option String
  unremovedAccessPoints : Nat

abbrev AccessPointCreationAdmission := AccessPointCreation → Except RelayError Unit

def required (value name : String) : Except RelayError String :=
  requiredTrimmed "invalid_access_point" (some value) name

/-- What a creation stores, and the hash of its key. -/
def prepareCreation (host : CommandHost) (command : CreateAccessPointCommand)
    (personalProviderSlotId : Option String) :
    Except RelayError (CreateAccessPointRequest × String) := do
  let scopeRef ← requireScopeRef command.scopeRef
  lockScope env scopeRef
  rejectIf (command.status.getD "disabled" ≠ "disabled")
    ⟨"access_point_create_must_be_disabled", "New AccessPoint must be created disabled", 409⟩
  let targetModel ← required command.targetModel "targetModel"
  let exposedModel ← required command.exposedModel "exposedModel"
  let routing ← normalizeRoutingDefinition host command.routing targetModel
  let ownerId ← required command.ownerId "ownerId"
  let idempotencyKey ← required command.idempotencyKey "Idempotency-Key"
  let name ← required command.name "name"
  let description ← normalizeAccessPointDescription command.description
  let apiFamily ← required command.apiFamily "apiFamily"
  let priority ← integerOrDefault command.priority 100 "priority"
  let weight ← integerOrDefault command.weight 1 "weight"
  let fallbackOrder ← integerOrDefault command.fallbackOrder 100 "fallbackOrder"
  return ({ ownerId, scopeRef, name, description, apiFamily, exposedModel, targetModel, routing,
            priority, weight, fallbackOrder, personalProviderSlotId },
    host.idempotencyKeyHash idempotencyKey)

/-- Whether the creation was made before. -/
def findPrior (store : RoutingStore) (scopeRef idempotencyKeyHash : String) :
    Option AccessPointRow :=
  store.accessPoints.rows.find? fun row =>
    row.scopeRef = scopeRef ∧ row.createIdempotencyKeyHash = some idempotencyKeyHash

def replayedCreation (prior : AccessPointRow) (requestHash : String) :
    Except RelayError AccessPointCommandResult := do
  rejectIf (prior.createRequestHash ≠ some requestHash) ⟨"access_point_idempotency_conflict",
    "Idempotency-Key was already used with different AccessPoint parameters", 409⟩
  return { id := prior.id
           routingRevision := prior.routingRevision
           routingChanged := false
           removed := prior.removedAt ≠ none
           replayed := true }

def countUnremovedAccessPoints (store : RoutingStore) (request : CreateAccessPointRequest) : Nat :=
  match request.personalProviderSlotId with
  | none => store.accessPoints.rows.countP fun row =>
      row.scopeRef = request.scopeRef ∧ row.removedAt = none
  | some slot => store.accessPoints.rows.countP fun row =>
      row.personalProviderSlotId = some slot ∧ row.removedAt = none

def admitCreation (admission : Option AccessPointCreationAdmission) (store : RoutingStore)
    (request : CreateAccessPointRequest) : Except RelayError Unit :=
  match admission with
  | none => .ok ()
  | some answer => answer {
      scopeRef := request.scopeRef
      ownerId := request.ownerId
      personalProviderSlotId := request.personalProviderSlotId
      unremovedAccessPoints := countUnremovedAccessPoints store request }

def assertNoSelfTarget (id : String) (routing : NormalizedRoutingDefinition) :
    Except RelayError Unit :=
  rejectIf (∃ target ∈ routing.targets, target.targetAccessPointId = some id)
    (invalidAccessPoint "AccessPoint cannot target itself")

def createdAccessPoint (host : CommandHost) (request : CreateAccessPointRequest)
    (idempotencyKeyHash id : String) : AccessPointRow where
  id := id
  ownerId := request.ownerId
  scopeRef := request.scopeRef
  name := request.name
  description := request.description
  apiFamily := request.apiFamily
  exposedModel := request.exposedModel
  targetModel := request.targetModel
  routingRuleId := request.routing.ruleId
  routingRuleBehaviorVersion := request.routing.behaviorVersion
  routingRuleConfigJson := request.routing.configJson
  requestOverridesJson := request.routing.requestOverridesJson
  routingRevision := 1
  priority := request.priority
  weight := request.weight
  fallbackOrder := request.fallbackOrder
  status := "disabled"
  personalProviderSlotId := request.personalProviderSlotId
  removedAt := none
  createIdempotencyKeyHash := some idempotencyKeyHash
  createRequestHash := some (host.createRequestHash request)

def givenOrCreatedTargetId : Option String → RoutingTxn String
  | some id => pure id
  | none => createId "ap_target"

def createTarget (providerModelIds : ProviderModelIds) (target : NormalizedRoutingTarget) :
    RoutingTxn ResolvedTarget := do
  let id ← givenOrCreatedTargetId target.id
  let targetProviderModelId ← check (stableProviderModelId target providerModelIds)
  return newResolvedTarget target id targetProviderModelId

def insertAccessPoint (row : AccessPointRow) : RoutingTxn Unit :=
  write fun store => (store.accessPoints.insert? row).map fun accessPoints =>
    { store with accessPoints }

def insertTarget (accessPointId : String) (target : ResolvedTarget) : RoutingTxn Unit :=
  write fun store => (store.targets.insert? ⟨target, accessPointId⟩).map fun targets =>
    { store with targets }

/-- The writes of a creation, and the check of the graph after them. -/
def storeCreation (host : CommandHost) (request : CreateAccessPointRequest)
    (idempotencyKeyHash : String) : RoutingTxn AccessPointCommandResult := do
  let id ← createId "ap"
  check (assertNoSelfTarget id request.routing)
  let providerModelIds ← read fun store => validateRoutingTargets env store
    ⟨id, request.scopeRef, request.targetModel, "disabled"⟩ request.routing.targets
  let targets ← Stateful.traverse (createTarget providerModelIds) request.routing.targets
  insertAccessPoint (createdAccessPoint host request idempotencyKeyHash id)
  forEach targets (insertTarget id)
  read validateProspectiveGraph
  return { id, routingRevision := 1, routingChanged := true, removed := false, replayed := false }

def createAccessPointRecord (host : CommandHost) (command : CreateAccessPointCommand)
    (personalProviderSlotId : Option String) (admission : Option AccessPointCreationAdmission) :
    RoutingTxn AccessPointCommandResult := do
  let (request, idempotencyKeyHash) ← check
    (prepareCreation env host command personalProviderSlotId)
  let prior ← read fun store => .ok (findPrior store request.scopeRef idempotencyKeyHash)
  match prior with
  | some prior => check (replayedCreation prior (host.createRequestHash request))
  | none => do
    read fun store => admitCreation admission store request
    storeCreation env host request idempotencyKeyHash

/-! ### Changing -/

/-- Fields that are missing keep their value; the description is missing, `null` or a text. -/
structure ChangeAccessPointCommand where
  ownerId : Option String
  scopeRef : Option String
  name : String
  description : Option (Option String)
  apiFamily : String
  exposedModel : String
  targetModel : String
  routing : Option RoutingDefinitionInput
  priority : Option Int
  weight : Option Int
  fallbackOrder : Option Int
  status : Option String

def accessPointNotFound (id : String) : RelayError :=
  ⟨"access_point_not_found", "AccessPoint " ++ id ++ " not found", 404⟩

def requireUnremoved (store : RoutingStore) (id : String) : Except RelayError AccessPointRow :=
  match store.findUnremoved id with
  | some row => .ok row
  | none => .error (accessPointNotFound id)

def targetInput (target : ResolvedTarget) : RoutingTargetInput where
  id := some target.id
  type := match target.targetType with
    | .accessPoint => "access-point"
    | .providerModel => "provider-model"
  targetAccessPointId := target.targetAccessPointId
  targetProviderId := target.targetProviderId
  targetProviderModelName := target.targetProviderModelName
  position := target.position
  status := some target.status

def parseStoredConfig (host : CommandHost) (text : String) : Except RelayError Json :=
  match host.parseJson text with
  | some config => .ok config
  | none => .error ⟨"invalid_access_point_routing_rule", "Stored routing config is invalid", 500⟩

/-- The stored routing of an AccessPoint as a definition. -/
def storedRouting (store : RoutingStore) (existing : AccessPointRow) (config : Json) :
    RoutingDefinitionInput where
  selectorId := existing.routingRuleId
  behaviorVersion := existing.routingRuleBehaviorVersion
  config := some config
  requestOverrides := some existing.requestOverridesJson
  targets := (store.unremovedTargetsOf existing.id).map targetInput
  expectedRoutingRevision := none

def routingFromRows (host : CommandHost) (store : RoutingStore) (existing : AccessPointRow) :
    Except RelayError NormalizedRoutingDefinition := do
  let config ← parseStoredConfig host existing.routingRuleConfigJson
  let _ ← parseStoredConfig host existing.requestOverridesJson
  normalizeRoutingDefinition host (storedRouting store existing config) existing.targetModel

structure PreparedChange where
  existing : AccessPointRow
  targetModel : String
  exposedModel : String
  status : String
  routing : NormalizedRoutingDefinition
  providerModelIds : ProviderModelIds

def nextStatus (id : String) (existing : AccessPointRow) (given : Option String) :
    Except RelayError String := do
  let status := given.getD existing.status
  rejectIf (status ≠ "enabled" ∧ status ≠ "disabled") ⟨"invalid_access_point_status",
    "AccessPoint status must be enabled or disabled", 400⟩
  rejectIf (existing.status ≠ "enabled" ∧ status = "enabled" ∧ ¬env.enabledPrice id)
    ⟨"access_point_price_not_configured",
      "AccessPoint requires an enabled sale price before it can be enabled", 409⟩
  return status

/-- The routing of a change: the given one, or the stored one, which is read in any case. -/
def changedRouting (host : CommandHost) (store : RoutingStore) (existing : AccessPointRow)
    (routing : Option RoutingDefinitionInput) (targetModel : String) :
    Except RelayError NormalizedRoutingDefinition := do
  rejectIf (∃ definition ∈ routing, ∃ revision ∈ definition.expectedRoutingRevision,
      revision ≠ existing.routingRevision)
    ⟨"access_point_routing_revision_conflict", "AccessPoint routing revision does not match", 409⟩
  let currentRouting ← routingFromRows host store existing
  match routing with
  | some definition => normalizeRoutingDefinition host definition targetModel
  | none => .ok currentRouting

def prepareChange (host : CommandHost) (store : RoutingStore) (id : String)
    (command : ChangeAccessPointCommand) : Except RelayError PreparedChange := do
  let existing ← requireUnremoved store id
  let scopeRef ← requireScopeRef (command.scopeRef.getD existing.scopeRef)
  rejectIf (scopeRef ≠ existing.scopeRef)
    ⟨"access_point_scope_immutable", "AccessPoint scope cannot change", 409⟩
  rejectIf (∃ ownerId ∈ command.ownerId, ownerId ≠ existing.ownerId)
    ⟨"access_point_owner_immutable", "AccessPoint owner cannot change", 409⟩
  lockScope env scopeRef
  let targetModel ← required command.targetModel "targetModel"
  let exposedModel ← required command.exposedModel "exposedModel"
  let status ← nextStatus env id existing command.status
  let routing ← changedRouting host store existing command.routing targetModel
  assertNoSelfTarget id routing
  let providerModelIds ← validateRoutingTargets env store ⟨id, scopeRef, targetModel, status⟩
    routing.targets
  return { existing, targetModel, exposedModel, status, routing, providerModelIds }

def resolveTarget (existing : List ResolvedTarget) (providerModelIds : ProviderModelIds)
    (target : NormalizedRoutingTarget) : RoutingTxn ResolvedTarget := do
  let id ← givenOrCreatedTargetId target.id
  check (resolvedTarget existing providerModelIds target id)

/-- Whether a change makes another routing of an AccessPoint. -/
def routingChanged (host : CommandHost) (store : RoutingStore) (change : PreparedChange)
    (targets : List ResolvedTarget) : Except RelayError Bool := do
  let previous ← routingSemanticFingerprint host change.existing.exposedModel
    change.existing.targetModel change.existing.routingRuleId
    change.existing.routingRuleBehaviorVersion change.existing.routingRuleConfigJson
    change.existing.requestOverridesJson (store.targetsOf change.existing.id)
  let next ← routingSemanticFingerprint host change.exposedModel change.targetModel
    change.routing.ruleId change.routing.behaviorVersion change.routing.configJson
    change.routing.requestOverridesJson targets
  return previous ≠ next

def putTarget (row : AccessPointTargetRow) : RoutingTxn Unit :=
  write fun store => some { store with targets := store.targets.put row }

/-- A stored target that the new routing does not keep is removed. -/
def retireTarget (now : NonEmptyText) (accessPointId : String) (retained : List String)
    (target : ResolvedTarget) : RoutingTxn Unit :=
  if target.removedAt ≠ none ∨ target.id ∈ retained then pure ()
  else
    let removed := { target with status := "disabled", removedAt := some now }
    putTarget ⟨removed, accessPointId⟩

def upsertTarget (accessPointId : String) (existing : List ResolvedTarget)
    (target : ResolvedTarget) : RoutingTxn Unit :=
  match existing.find? (·.id = target.id) with
  | some current =>
    let updated := { current with status := target.status, position := target.position }
    if current.status ≠ target.status ∨ current.position ≠ target.position then
      putTarget ⟨updated, accessPointId⟩
    else pure ()
  | none => insertTarget accessPointId target

def replaceTargets (now : NonEmptyText) (accessPointId : String)
    (existing targets : List ResolvedTarget) : RoutingTxn Unit := do
  forEach existing (retireTarget now accessPointId (targets.map ResolvedTarget.id))
  forEach targets (upsertTarget accessPointId existing)

def writeTargets (now : NonEmptyText) (accessPointId : String)
    (routing : Option RoutingDefinitionInput) (existing targets : List ResolvedTarget) :
    RoutingTxn Unit :=
  match routing with
  | some _ => replaceTargets now accessPointId existing targets
  | none => pure ()

def changedDescription (existing : AccessPointRow) (given : Option (Option String)) :
    Except RelayError (Option String) :=
  match given with
  | none => .ok existing.description
  | some description => normalizeAccessPointDescription description

/-- The row of a change as it is stored. -/
def changedAccessPoint (command : ChangeAccessPointCommand) (change : PreparedChange)
    (routingRevision : Int) : Except RelayError AccessPointRow := do
  let name ← required command.name "name"
  let description ← changedDescription change.existing command.description
  let apiFamily ← required command.apiFamily "apiFamily"
  let priority ← integerOrDefault command.priority change.existing.priority "priority"
  let weight ← integerOrDefault command.weight change.existing.weight "weight"
  let fallbackOrder ← integerOrDefault command.fallbackOrder change.existing.fallbackOrder
    "fallbackOrder"
  return { change.existing with
           name, description, apiFamily, routingRevision, priority, weight, fallbackOrder
           exposedModel := change.exposedModel
           targetModel := change.targetModel
           routingRuleId := change.routing.ruleId
           routingRuleBehaviorVersion := change.routing.behaviorVersion
           routingRuleConfigJson := change.routing.configJson
           requestOverridesJson := change.routing.requestOverridesJson
           status := change.status }

def putAccessPoint (row : AccessPointRow) : RoutingTxn Unit :=
  write fun store => some { store with accessPoints := store.accessPoints.put row }

def changeAccessPoint (host : CommandHost) (id : String) (command : ChangeAccessPointCommand) :
    RoutingTxn AccessPointCommandResult := do
  let store ← read .ok
  let change ← check (prepareChange env host store id command)
  let existing := store.targetsOf id
  let targets ← Stateful.traverse (resolveTarget existing change.providerModelIds)
    change.routing.targets
  let changed ← check (routingChanged host store change targets)
  let routingRevision := change.existing.routingRevision + if changed then 1 else 0
  writeTargets env.now id command.routing existing targets
  let row ← check (changedAccessPoint command change routingRevision)
  putAccessPoint row
  read validateProspectiveGraph
  return { id, routingRevision, routingChanged := changed, removed := false, replayed := false }

/-! ### Removing -/

def assertRemovable (store : RoutingStore) (existing : AccessPointRow) :
    Except RelayError Unit := do
  let scopeRef ← requireScopeRef existing.scopeRef
  lockScope env scopeRef
  rejectIf (existing.status ≠ "disabled")
    ⟨"access_point_must_be_disabled", "AccessPoint must be disabled before removal", 409⟩
  rejectIf (∃ target ∈ store.targets.rows,
      target.targetAccessPointId = some existing.id ∧ target.removedAt = none)
    ⟨"access_point_has_inbound_edge", "AccessPoint is referenced by an active routing edge", 409⟩
  rejectIf (env.referencedPlan existing.id ≠ none) ⟨"access_point_has_enabled_plan",
    "AccessPoint is referenced by a Plan and cannot be removed until every reference is disabled",
    409⟩

/-- An unremoved target of the AccessPoint as it is stored after the removal. -/
def removedTarget (now : NonEmptyText) (accessPointId : String) (row : AccessPointTargetRow) :
    AccessPointTargetRow :=
  if row.accessPointId = accessPointId ∧ row.removedAt = none then
    let removed := { row.toResolvedTarget with status := "disabled", removedAt := some now }
    ⟨removed, row.accessPointId⟩
  else row

theorem removedTarget_id (now : NonEmptyText) (accessPointId : String)
    (row : AccessPointTargetRow) : (removedTarget now accessPointId row).id = row.id := by
  unfold removedTarget
  split_ifs <;> rfl

def removeTargets (now : NonEmptyText) (accessPointId : String) : RoutingTxn Unit :=
  write fun store => some { store with
    targets := store.targets.updateAll (removedTarget now accessPointId)
      (removedTarget_id now accessPointId) }

def removedResult (existing : AccessPointRow) (replayed : Bool) : AccessPointCommandResult where
  id := existing.id
  routingRevision := existing.routingRevision
  routingChanged := false
  removed := true
  replayed := replayed

def removeExisting (existing : AccessPointRow) : RoutingTxn AccessPointCommandResult := do
  read fun store => assertRemovable env store existing
  removeTargets env.now existing.id
  putAccessPoint { existing with removedAt := some env.now }
  return removedResult existing false

def removeAccessPoint (id : String) : RoutingTxn AccessPointCommandResult := do
  let existing ← read fun store => .ok (store.accessPoints.find? id)
  match existing with
  | none => check (.error (accessPointNotFound id))
  | some existing =>
    if existing.removedAt ≠ none then return removedResult existing true
    else removeExisting env existing

/-! ### The system -/

inductive RoutingCommand where
  | createAccessPoint (command : CreateAccessPointCommand) (personalProviderSlotId : Option String)
      (admission : Option AccessPointCreationAdmission)
  | changeAccessPoint (id : String) (command : ChangeAccessPointCommand)
  | removeAccessPoint (id : String)

def runRoutingCommand (host : CommandHost) :
    RoutingCommand → RoutingTxn AccessPointCommandResult
  | .createAccessPoint command slot admission =>
    createAccessPointRecord env host command slot admission
  | .changeAccessPoint id command => changeAccessPoint env host id command
  | .removeAccessPoint id => removeAccessPoint env id

/-- A command with what it runs in: its surroundings, the identifiers that are drawn, and after how
many writes the connection is lost, if it is. -/
structure RoutingInput where
  environment : CommandEnvironment
  freshId : Nat → String
  writesLeft : Option Nat
  command : RoutingCommand

def routingStep (host : CommandHost) (input : RoutingInput) (store : RoutingStore) :
    Except (Failure RelayError) AccessPointCommandResult × RoutingStore :=
  commit (runRoutingCommand input.environment host input.command)
    ⟨store, input.freshId, 0, input.writesLeft⟩

/-! ### The graph that is compiled -/

def graphTarget (target : ResolvedTarget) : RoutingGraphTarget where
  id := target.id
  type := target.targetType
  targetAccessPointId := target.targetAccessPointId
  targetProviderModelId := target.targetProviderModelId
  targetProviderId := target.targetProviderId
  targetProviderModelName := target.targetProviderModelName
  position := target.position
  status := target.status
  removedAt := target.removedAt.map Subtype.val

theorem graphTargets_nodup (store : RoutingStore) (id : String) :
    (((store.targetsOf id).map graphTarget).map RoutingGraphTarget.id).Nodup := by
  rw [RoutingStore.targetsOf, List.map_map, List.map_map]
  exact store.targets.nodup.sublist (List.filter_sublist.map _)

def graphAccessPoint (store : RoutingStore) (row : AccessPointRow) : RoutingGraphAccessPoint where
  id := row.id
  exposedModel := row.exposedModel
  targetModel := row.targetModel
  routingRuleId := row.routingRuleId
  routingRuleBehaviorVersion := row.routingRuleBehaviorVersion
  routingRuleConfigJson := row.routingRuleConfigJson
  routingRevision := row.routingRevision
  removedAt := row.removedAt.map Subtype.val
  targets := (store.targetsOf row.id).map graphTarget
  targetIds := graphTargets_nodup store row.id

/-- The stored graph as a compilation reads it. -/
def RoutingStore.graph (store : RoutingStore) : RoutingGraphSnapshot where
  accessPoints := ⟨store.accessPoints.rows.map (graphAccessPoint store), by
    rw [List.map_map]
    exact store.accessPoints.nodup⟩
  providerModels := store.providerModels

end Frely.ModelAccess
