import Frely.Billing.Settlement
import Frely.RequestExecution.Server

/-!
# Admission of a Provider invocation

The two admission workflows: a protected invocation is priced, checked against budgets and balance
and claimed before it may start; a `cpa-basic@1` invocation only freezes its price profiles.  Both
answer a repeated command with the attempt it admitted, and refuse one that differs from it.

All reading and checking comes before the first write, so it is one function of the database here
(`inspectProtectedAdmission`, `inspectCpaBasicAdmission`), and the transaction writes what that
function prepared.
-/

namespace Frely.Application

open Frely.Billing Frely.Postgres Frely.RequestExecution Checked Transaction

/-- A protected admission, with the prices and bounds that it asks for. -/
structure AdmitProviderInvocationCommand extends ProviderAttemptAdmissionIdentity where
  planId : String
  planSubscriptionId : String
  apiKeyId : String
  userId : String
  inputTokens : Int
  maxOutputTokens : Int
  tokenizerId : String
  tokenizerVersion : Int
  preparationEvidenceId : String
  preparationEvidenceVersion : Int
  preparedPayloadId : String
  serviceTier : String
  billablePriceSource : BillablePriceSource
  billablePriceId : String
  providerModelCostId : String
  accessPointPriceIds : List String
  usageChargeAccountId : Option String

/-- The answer to a protected admission. -/
structure ProviderInvocationAdmission where
  providerAttemptId : String
  budgetClaimMaxTokens : Int
  budgetClaimMaxChargeUnits : Int
  usageReservationId : Option String
  reservationUnits : Option Int
  startedAt : Timestamp

/-- A CPA basic admission, which reserves nothing. -/
structure AdmitCpaBasicProviderInvocationCommand extends ProviderAttemptAdmissionIdentity where
  providerAttemptId : Option String
  planId : String
  planSubscriptionId : String
  apiKeyId : String
  userId : String
  requestedServiceTier : String
  requireServiceTier : Bool
  billablePriceSource : BillablePriceSource
  billablePriceId : String
  providerModelCostId : String
  accessPointPriceIds : List String
  usageChargeAccountId : Option String

/-- The answer to a CPA basic admission. -/
structure CpaBasicProviderInvocationAdmission where
  providerAttemptId : String
  startedAt : Timestamp
  replayed : Bool

/-- The request-execution side of an admission: only the first names its source. -/
def admissionCommand (identity : ProviderAttemptAdmissionIdentity) (planSubscriptionId : String) :
    AdmissionCommand :=
  { identity with
    selectedSourceRef := if identity.attemptIndex = 0 then some planSubscriptionId else none }

def admissionKind (identity : ProviderAttemptAdmissionIdentity) : AdmissionKind :=
  if identity.attemptIndex = 0 then .first else .fallback

/-! ### The frozen routing path -/

def accessConfigurationChanged (message : String) : RelayError :=
  ⟨"access_configuration_changed", message, 409⟩

/-- One AccessPoint of a path, with its edge and the AccessPoint the edge has to lead to. -/
structure PathStep where
  accessPointId : String
  edgeId : String
  nextAccessPointId : Option String

/-- The steps of a path: each AccessPoint with its edge and the AccessPoint behind it. -/
def pathSteps : List String → List String → List PathStep
  | [accessPointId], [edgeId] => [⟨accessPointId, edgeId, none⟩]
  | accessPointId :: next :: accessPointIds, edgeId :: edgeIds =>
    ⟨accessPointId, edgeId, some next⟩ :: pathSteps (next :: accessPointIds) edgeIds
  | _, _ => []

/-- The last edge leads to the Provider model, every other one to the next AccessPoint. -/
def edgeMatches (candidate : FrozenProviderCandidate) (edge : AccessPointTarget)
    (nextAccessPointId : Option String) : Bool :=
  match nextAccessPointId with
  | none => edge.targetType = .providerModel &&
      edge.targetProviderModelId = some candidate.providerModelId &&
      edge.targetProviderId = some candidate.providerId &&
      edge.targetProviderModelName = some candidate.providerModelName
  | some next => edge.targetType = .accessPoint && edge.targetAccessPointId = some next

/-- The revision a command expects of an AccessPoint: the last one it lists. -/
def expectedRevision (revisions : List RoutingRevisionExpectation) (accessPointId : String) :
    Option Int :=
  (revisions.reverse.find? (·.accessPointId = accessPointId)).map (·.routingRevision)

/-- A Provider model with its Provider and the binding of that. -/
def loadProviderTarget (configuration : Configuration) (providerModelId : String) :
    Option (ProviderModel × Provider × ProviderBinding) := do
  let model ← configuration.providerModels.find? (·.id = providerModelId)
  let provider ← configuration.providers.find? (·.id = model.providerId)
  let binding ← configuration.providerBindings.find? (·.providerId = provider.id)
  return (model, provider, binding)

/-- The owner scope of the Provider, when the whole target is in service. -/
def providerOwnerScopeRef (configuration : Configuration) (candidate : FrozenProviderCandidate)
    (message : String) : Except RelayError String :=
  match loadProviderTarget configuration candidate.providerModelId with
  | none => .error (accessConfigurationChanged message)
  | some (model, provider, binding) => do
    rejectIf (model.status ≠ "enabled" ∨ model.providerId ≠ candidate.providerId ∨
        model.providerModelName ≠ candidate.providerModelName ∨ provider.status ≠ "enabled" ∨
        binding.syncStatus ≠ "ready") (accessConfigurationChanged message)
    return provider.scopeRef

/-- What the path check has read. -/
structure FrozenRoutingPathFacts where
  accessPoints : List AccessPoint
  edges : List AccessPointTarget
  providerOwnerScopeRef : String

/-- An AccessPoint and its edge are what the plan was compiled from. -/
def assertPathStep (command : ProviderAttemptAdmissionIdentity) (accessPoints : List AccessPoint)
    (edges : List AccessPointTarget) (step : PathStep) : Except RelayError Unit :=
  match accessPoints.find? (·.id = step.accessPointId), edges.find? (·.id = step.edgeId) with
  | some accessPoint, some edge => do
    rejectIf (expectedRevision command.routing.routingRevisions step.accessPointId ≠
          some accessPoint.routingRevision ∨ edge.accessPointId ≠ step.accessPointId)
      (accessConfigurationChanged "AccessPoint path changed before Provider invocation admission")
    rejectIf (edgeMatches command.candidate edge step.nextAccessPointId = false)
      (accessConfigurationChanged "AccessPoint edge no longer identifies the frozen candidate")
  | _, _ => .error
      (accessConfigurationChanged "AccessPoint path changed before Provider invocation admission")

/-- The frozen path is still the one of the configuration. -/
def assertFrozenRoutingPath (configuration : Configuration)
    (command : ProviderAttemptAdmissionIdentity) : Except RelayError FrozenRoutingPathFacts := do
  let chain := command.routing.accessPointChainIds
  let edgeIds := command.routing.pathTargetEdgeIds
  rejectIf (chain = [] ∨ edgeIds.length ≠ chain.length ∨
      command.routing.routingRevisions.length ≠ chain.length ∨
      command.routing.selectorAccessPointId ∉ chain ∨
      ¬command.routing.routingRevisions.any
        (·.accessPointId = command.routing.selectorAccessPointId))
    (accessConfigurationChanged
      "AccessPoint path shape changed before Provider invocation admission")
  rejectIf (¬chain.Nodup ∨ ¬edgeIds.Nodup)
    (accessConfigurationChanged "AccessPoint path is not a simple frozen path")
  let accessPoints := configuration.accessPoints.filter fun accessPoint =>
    chain.contains accessPoint.id && accessPoint.removedAt.isNone &&
      accessPoint.status = "enabled"
  let edges := configuration.accessPointTargets.filter fun edge =>
    edgeIds.contains edge.id && edge.removedAt.isNone && edge.status = "enabled"
  forAll (pathSteps chain edgeIds) (assertPathStep command accessPoints edges)
  rejectIf (¬(edges.find? (·.id = command.routing.selectorTargetEdgeId)).any
      (·.accessPointId = command.routing.selectorAccessPointId))
    (accessConfigurationChanged "Selector edge changed before Provider invocation admission")
  let ownerScopeRef ← providerOwnerScopeRef configuration command.candidate
    "Provider or Provider binding changed before Provider invocation admission"
  return ⟨accessPoints, edges, ownerScopeRef⟩

/-- Every AccessPoint of the path sells to the one before it, the first to the billing scope. -/
def accessPointPriceContexts (accessPoints : List AccessPoint) (edges : List AccessPointTarget) :
    String → List PathStep → List String → Except RelayError (List AccessPointPriceContext)
  | buyerScopeRef, step :: steps, priceId :: priceIds =>
    match accessPoints.find? (·.id = step.accessPointId), edges.find? (·.id = step.edgeId) with
    | some accessPoint, some edge => do
      let contexts ← accessPointPriceContexts accessPoints edges accessPoint.scopeRef steps priceIds
      return ⟨step.accessPointId, edge.targetAccessPointId, buyerScopeRef, accessPoint.scopeRef,
        priceId⟩ :: contexts
    | _, _ => .error
        (accessConfigurationChanged "AccessPoint billing references changed before admission")
  | _, _, _ => .ok []

def loadInvocationBillingReferenceDecision (facts : FrozenRoutingPathFacts)
    (command : ProviderAttemptAdmissionIdentity) (accessPointPriceIds : List String)
    (billingScopeRef : String) : Except RelayError (List AccessPointPriceContext) := do
  rejectIf (accessPointPriceIds.length ≠ command.routing.accessPointChainIds.length)
    (accessConfigurationChanged "AccessPoint price chain does not match the admitted path")
  accessPointPriceContexts facts.accessPoints facts.edges billingScopeRef
    (pathSteps command.routing.accessPointChainIds command.routing.pathTargetEdgeIds)
    accessPointPriceIds

/-! ### Protected admission -/

def boundedPreparationIdentity (value : String) : Bool :=
  1 ≤ utf16Length value && utf16Length value ≤ 256

def assertAdmissionNumbers (command : AdmitProviderInvocationCommand) : Except RelayError Unit := do
  rejectIf (¬IsSafeInteger command.attemptIndex ∨ command.attemptIndex < 0)
    ⟨"invalid_provider_attempt", "ProviderAttempt index is invalid", 400⟩
  rejectIf (¬IsSafeInteger command.routing.selectorBehaviorVersion ∨
      ¬IsSafeInteger command.routing.routingRevision)
    ⟨"invalid_provider_attempt", "ProviderAttempt revisions are invalid", 400⟩
  rejectIf (command.inputTokens < 0 ∨ billingMaxInt64 < command.inputTokens ∨
      command.maxOutputTokens < 1 ∨ billingMaxInt64 < command.maxOutputTokens ∨
      billingMaxInt64 < command.inputTokens + command.maxOutputTokens)
    ⟨"invalid_provider_attempt",
      "ProviderAttempt requires a positive enforceable output cap and signed 64-bit token bounds",
      400⟩
  rejectIf (¬IsSafeInteger command.tokenizerVersion ∨ command.tokenizerVersion < 1 ∨
      ¬IsSafeInteger command.preparationEvidenceVersion ∨ command.preparationEvidenceVersion < 1 ∨
      ¬boundedPreparationIdentity command.tokenizerId ∨
      ¬boundedPreparationIdentity command.preparationEvidenceId ∨
      ¬boundedPreparationIdentity command.preparedPayloadId)
    ⟨"invalid_provider_attempt",
      "CPA preparation evidence identity, version, payload binding, or tokenizer identity is " ++
        "invalid", 400⟩

/-- A Plan source that is in force at a moment, with its Plan. -/
def loadPlanSource (configuration : Configuration) (planSubscriptionId planId : String)
    (now : Timestamp) (message : String) : Except RelayError (PlanSubscription × Plan) :=
  let unavailable : RelayError := ⟨"plan_subscription_unavailable", message, 402⟩
  match configuration.planSubscriptions.find? (·.id = planSubscriptionId) with
  | none => .error unavailable
  | some subscription =>
    match configuration.plans.find? (·.id = subscription.planId) with
    | none => .error unavailable
    | some plan => do
      rejectIf (subscription.planId ≠ planId ∨ subscription.subscriptionLifecycle ≠ "active" ∨
          (plan.planStatus ≠ "enabled" ∧ plan.planStatus ≠ "closed") ∨
          now < subscription.effectiveStart ∨
          ∃ effectiveEnd ∈ subscription.effectiveEnd, effectiveEnd ≤ now) unavailable
      return (subscription, plan)

/-- What a protected admission will write. -/
structure ProtectedAdmission where
  decision : NewAdmissionDecision
  terms : ProtectedInvocationTerms
  material : ProviderAttemptPersistenceMaterial
  serviceTier : String
  maximumTokens : Int
  maximumChargeUnits : Int

/-- The budgets an admission is checked against. -/
def admissionBudgetInput (command : AdmitProviderInvocationCommand)
    (subscription : PlanSubscription) (maximumChargeUnits : Int) (now : Timestamp) :
    InvocationBillingBudgetInput where
  planId := command.planId
  planSubscriptionId := command.planSubscriptionId
  apiKeyId := command.apiKeyId
  userId := command.userId
  subscriptionEffectiveStart := subscription.effectiveStart
  subscriptionEffectiveEnd := subscription.effectiveEnd
  maximumTokens := command.inputTokens + command.maxOutputTokens
  maximumChargeUnits := maximumChargeUnits
  occurredAt := now

/-- What the attempt of a protected admission records for its settlement. -/
def protectedTerms (command : AdmitProviderInvocationCommand)
    (billingTerms : InvocationBillingFinancialTerms) : ProtectedInvocationTerms where
  billablePriceTierKey := billingTerms.price.tierKey
  billablePriceSnapshotJson := billingTerms.price.snapshotJson
  inputTokens := command.inputTokens
  maxOutputTokens := command.maxOutputTokens
  tokenizerId := command.tokenizerId
  tokenizerVersion := command.tokenizerVersion
  preparationEvidenceId := command.preparationEvidenceId
  preparationEvidenceVersion := command.preparationEvidenceVersion
  preparedPayloadId := command.preparedPayloadId
  providerCostTierKey := billingTerms.providerCost.tierKey
  providerCostSnapshotJson := billingTerms.providerCost.snapshotJson
  accessPointPriceSnapshotsJson := billingTerms.accessPointPrices

def protectedMaterial (command : AdmitProviderInvocationCommand) (subscription : PlanSubscription)
    (plan : Plan) (ownerScopeRef : String) (terms : ProtectedInvocationTerms) :
    ProviderAttemptPersistenceMaterial where
  billablePriceSource := command.billablePriceSource
  billablePriceId := command.billablePriceId
  requestedServiceTier := command.serviceTier
  billingScopeRef := subscription.scopeRef
  planSellerScopeRef := plan.scopeRef
  planBillingMode := plan.billingMode
  subscriptionEffectiveStart := subscription.effectiveStart
  providerOwnerScopeRef := ownerScopeRef
  providerModelCostId := command.providerModelCostId
  terms := .protectedV1 terms

/-- The balance check of a PayGo admission; without an account there is none. -/
def assertPaygoCapacity (db : Database) (command : AdmitProviderInvocationCommand)
    (account : Option LockedCreditAccount) (maximumChargeUnits userPaygoConcurrencyLimit : Int) :
    Except RelayError Unit :=
  match truthy command.usageChargeAccountId, account with
  | some _, some account => assertInvocationBillingCapacity db account command.userId
      maximumChargeUnits userPaygoConcurrencyLimit
  | _, _ => .ok ()

/-- Every check of a new protected admission, in the order of the source. -/
def inspectProtectedAdmission (db : Database) (command : AdmitProviderInvocationCommand)
    (userPaygoConcurrencyLimit : Int) (now : Timestamp) :
    Except RelayError ProtectedAdmission := do
  let account ← lockInvocationBillingAdmissionFunding db command.userId command.usageChargeAccountId
  rejectIf (¬(db.requestLogs.find? command.requestId).any fun request =>
      request.apiKeyId = command.apiKeyId && request.userId = command.userId)
    ⟨"request_execution_not_found", "Request execution input is not authoritative", 409⟩
  let identity := command.toProviderAttemptAdmissionIdentity
  let decision ← inspectNewAdmission db (admissionCommand identity command.planSubscriptionId) now
    (admissionKind identity)
  rejectIf (decision.selectedSourceRef ≠ command.planSubscriptionId)
    ⟨"request_execution_plan_source_conflict",
      "A RequestExecution cannot change its admitted Plan source", 409⟩
  let (subscription, plan) ← loadPlanSource db.configuration command.planSubscriptionId
    command.planId now "Plan Subscription changed before Provider invocation admission"
  let facts ← assertFrozenRoutingPath db.configuration identity
  let contexts ← loadInvocationBillingReferenceDecision facts identity command.accessPointPriceIds
    subscription.scopeRef
  let billingTerms ← prepareInvocationBillingFinancialTerms db.configuration
    ⟨command.planId, command.candidate.providerId, command.candidate.providerModelName,
      command.providerModelCostId, command.billablePriceSource, command.billablePriceId,
      contexts⟩ command.inputTokens command.serviceTier
  let maximumChargeUnits ← maximumInvocationChargeUnits command.inputTokens
    command.maxOutputTokens billingTerms.price.units
  let maximumTokens := command.inputTokens + command.maxOutputTokens
  rejectIf (billingMaxInt64 < maximumTokens ∨ billingMaxInt64 < maximumChargeUnits)
    ⟨"invalid_provider_attempt",
      "ProviderAttempt Billing claims exceed signed 64-bit storage", 400⟩
  let budgetInput := admissionBudgetInput command subscription maximumChargeUnits now
  assertInvocationPlanBudgets db budgetInput
  rejectIf (¬db.configuration.apiKeys.any (·.id = command.apiKeyId))
    ⟨"request_execution_not_found",
      "API Key changed before Provider invocation admission", 409⟩
  assertInvocationDirectBudgets db budgetInput
  assertPaygoCapacity db command account maximumChargeUnits userPaygoConcurrencyLimit
  let terms := protectedTerms command billingTerms
  return ⟨decision, terms,
    protectedMaterial command subscription plan facts.providerOwnerScopeRef terms,
    billingTerms.price.serviceTier, maximumTokens, maximumChargeUnits⟩

/-- The terms of an attempt that was admitted as a protected one. -/
def readProviderAttemptCompatibility (db : Database) (providerAttemptId : String) :
    Except RelayError (RequestProviderAttempt × ProtectedInvocationTerms) :=
  let mismatch : RelayError := ⟨"provider_attempt_contract_mismatch",
    "Provider Attempt is not a protected invocation", 409⟩
  match db.requestProviderAttempts.find? providerAttemptId with
  | none => .error mismatch
  | some attempt =>
    match attempt.material.terms with
    | .protectedV1 terms => .ok (attempt, terms)
    | .cpaBasicV1 _ => .error mismatch

/-- `ids.join("\u0000")`. -/
def joinedIds (ids : List String) : String := "\u0000".intercalate ids

def frozenAccessPointPriceIds (prices : List FrozenAccessPointPriceEvidence) :
    Except RelayError (List String) := do
  return (← parseFrozenAccessPointPrices prices).map (·.priceId)

def admissionReferences (command : AdmitProviderInvocationCommand) : FinalBillingReferences :=
  ⟨command.requestId, command.planSubscriptionId, command.apiKeyId, command.userId⟩

/-- A reservation that a repeated admission would make again. -/
def reservationMatches (command : AdmitProviderInvocationCommand) (maximumChargeUnits : Int)
    (reservation : Option UsageReservation) : Bool :=
  match command.usageChargeAccountId, reservation with
  | none, none => true
  | some accountId, some reservation =>
    reservation.creditAccountId = accountId &&
      reservation.planSubscriptionId = command.planSubscriptionId &&
      reservation.userId = command.userId && reservation.inputTokens = command.inputTokens &&
      reservation.maxOutputTokens = command.maxOutputTokens &&
      reservation.tokenizerId = command.tokenizerId &&
      reservation.tokenizerVersion = command.tokenizerVersion &&
      reservation.preparationEvidenceId = command.preparationEvidenceId &&
      reservation.preparationEvidenceVersion = command.preparationEvidenceVersion &&
      reservation.preparedPayloadId = command.preparedPayloadId &&
      reservation.billablePriceSource = command.billablePriceSource &&
      reservation.billablePriceId = command.billablePriceId &&
      reservation.reservationUnits = maximumChargeUnits
  | _, _ => false

/-- A replay has to ask for what was admitted. -/
def equivalentAdmission (db : Database) (replay : ReplayAdmissionDecision)
    (command : AdmitProviderInvocationCommand) : Except RelayError ProviderInvocationAdmission := do
  rejectIf (replay.selectedSourceRef ≠ command.planSubscriptionId)
    ⟨"request_execution_plan_source_conflict",
      "A RequestExecution cannot change its admitted Plan source", 409⟩
  let attemptId := replay.attempt.providerAttemptRef
  let (attempt, terms) ← readProviderAttemptCompatibility db attemptId
  let priceIds ← frozenAccessPointPriceIds terms.accessPointPriceSnapshotsJson
  let material := attempt.material
  rejectIf (¬(material.billablePriceSource = command.billablePriceSource ∧
      material.billablePriceId = command.billablePriceId ∧
      material.providerModelCostId = command.providerModelCostId ∧
      joinedIds priceIds = joinedIds command.accessPointPriceIds ∧
      terms.inputTokens = command.inputTokens ∧ terms.maxOutputTokens = command.maxOutputTokens ∧
      terms.tokenizerId = command.tokenizerId ∧
      terms.tokenizerVersion = command.tokenizerVersion ∧
      terms.preparationEvidenceId = command.preparationEvidenceId ∧
      terms.preparationEvidenceVersion = command.preparationEvidenceVersion ∧
      terms.preparedPayloadId = command.preparedPayloadId ∧
      material.requestedServiceTier = command.serviceTier))
    ⟨"provider_attempt_idempotency_conflict",
      "Existing ProviderAttempt does not match the admission command", 409⟩
  match db.budgetClaims.find? attemptId with
  | none => throw ⟨"provider_attempt_admission_incomplete",
      "Existing ProviderAttempt has no BudgetClaim", 409⟩
  | some claim => do
    let reservation := db.usageReservations.find? attemptId
    let price ←
      parseFrozenPriceUnits terms.billablePriceSnapshotJson.toFrozenPriceUnitsDocument
    let maximumTokens := command.inputTokens + command.maxOutputTokens
    let maximumChargeUnits ←
      maximumInvocationChargeUnits command.inputTokens command.maxOutputTokens price
    rejectIf (¬(claim.references = admissionReferences command ∧ claim.planId = command.planId ∧
        claim.maxTotalTokens = maximumTokens ∧ claim.maxChargeUnits = maximumChargeUnits) ∨
        reservationMatches command maximumChargeUnits reservation = false)
      ⟨"provider_attempt_idempotency_conflict",
        "Existing ProviderAttempt admission facts do not match the command", 409⟩
    return ⟨attemptId, claim.maxTotalTokens, claim.maxChargeUnits, reservation.map (·.id),
      reservation.map (·.reservationUnits), replay.attempt.startedAt⟩

/-- What a protected admission occupies. -/
def protectedOccupation (command : AdmitProviderInvocationCommand)
    (admission : ProtectedAdmission) (attempt : ProviderAttemptIdentitySnapshot) :
    InvocationBillingOccupationInput where
  billableInvocationRef := attempt.providerAttemptRef
  references := admissionReferences command
  planId := command.planId
  maximumTokens := admission.maximumTokens
  maximumChargeUnits := admission.maximumChargeUnits
  usageChargeAccountId := command.usageChargeAccountId
  terms := admission.terms
  serviceTier := admission.serviceTier
  billablePriceSource := command.billablePriceSource
  billablePriceId := command.billablePriceId
  createdAt := attempt.startedAt

/-- Admits a protected attempt, or answers a replay. -/
def admitProviderInvocation (userPaygoConcurrencyLimit : Int)
    (command : AdmitProviderInvocationCommand) (now : Timestamp) :
    TransactionClient ProviderInvocationAdmission := do
  check (assertAdmissionNumbers command)
  let identity := command.toProviderAttemptAdmissionIdentity
  let replay ← read fun db =>
    findReplay db (admissionCommand identity command.planSubscriptionId)
  match replay with
  | some replay => read fun db => equivalentAdmission db replay command
  | none => do
    let admission ← read fun db =>
      inspectProtectedAdmission db command userPaygoConcurrencyLimit now
    let attempt ←
      persistProviderAttempt identity admission.decision now admission.material none
    let usageReservationId ← createInvocationBillingOccupation
      (protectedOccupation command admission attempt)
    return ⟨attempt.providerAttemptRef, admission.maximumTokens, admission.maximumChargeUnits,
      usageReservationId, usageReservationId.map fun _ => admission.maximumChargeUnits,
      attempt.startedAt⟩

/-! ### Claimless admission -/

def assertCpaBasicAdmissionShape (command : AdmitCpaBasicProviderInvocationCommand) :
    Except RelayError Unit :=
  let routing := command.routing
  let chain := routing.accessPointChainIds
  rejectIf (command.executionOwnerId = "" ∨
      ¬IsSafeInteger command.attemptIndex ∨ command.attemptIndex < 0 ∨
      ¬IsSafeInteger routing.selectorBehaviorVersion ∨ routing.selectorBehaviorVersion < 1 ∨
      ¬IsSafeInteger routing.routingRevision ∨ routing.routingRevision < 1 ∨
      chain.length < 1 ∨ chain.length ≠ routing.pathTargetEdgeIds.length ∨
      chain.length ≠ routing.routingRevisions.length ∨
      chain.length ≠ command.accessPointPriceIds.length ∨
      ¬chain.Nodup ∨ ¬routing.pathTargetEdgeIds.Nodup ∨
      ¬(routing.routingRevisions.map (·.accessPointId)).Nodup ∨
      (∃ item ∈ routing.routingRevisions,
        ¬IsSafeInteger item.routingRevision ∨ item.routingRevision < 1) ∨
      routing.selectorAccessPointId ∉ chain ∨
      routing.selectorTargetEdgeId ∉ routing.pathTargetEdgeIds)
    ⟨"invalid_provider_attempt", "CPA basic ProviderAttempt admission shape is invalid", 400⟩

/-- The active request that a claimless admission belongs to. -/
def loadCpaBasicRequest (db : Database) (command : AdmitCpaBasicProviderInvocationCommand) :
    Except RelayError RequestLog :=
  match (db.requestLogs.find? command.requestId).filter fun request =>
      request.endedAt.isNone && request.apiKeyId = command.apiKeyId &&
        request.userId = command.userId && request.planId = some command.planId &&
        request.planSubscriptionId = some command.planSubscriptionId &&
        request.entryAccessPointId = command.routing.accessPointChainIds.head? with
  | none => .error ⟨"request_execution_not_found",
      "CPA basic ProviderAttempt references do not match the active Request Log", 409⟩
  | some request => .ok request

/-- The API key and its user are enabled. -/
def assertCpaBasicPrincipal (configuration : Configuration) (apiKeyId userId : String)
    (now : Timestamp) : Except RelayError Unit :=
  rejectIf (¬configuration.apiKeys.any fun key =>
      key.id = apiKeyId && key.userId = userId &&
        configuration.userControls.any (fun user => user.id = key.userId &&
          user.status = "enabled") &&
        key.status = "enabled" && key.revokedAt.isNone && key.expiresAt.all (now < ·))
    ⟨"request_execution_not_found",
      "CPA basic principal changed before Provider invocation admission", 409⟩

/-- The entitlement that keeps a partner Team in service. -/
def activePartnerEntitlement (configuration : Configuration) (scopeRef : String)
    (at' : Timestamp) (entitlement : PartnerOperatingEntitlement) : Bool :=
  (configuration.planSubscriptions.find? (·.id = entitlement.planSubscriptionId)).any
    fun support =>
      entitlement.lifecycle = "active" && entitlement.effectiveStart ≤ at' &&
        at' < entitlement.effectiveEnd && support.planId = entitlement.partnerPlanId &&
        support.scopeRef = scopeRef && support.subscriptionLifecycle = "active" &&
        support.effectiveStart ≤ at' && support.effectiveEnd.all (at' < ·)

def planSourceUnavailable (message : String) : RelayError :=
  ⟨"plan_subscription_unavailable", message, 402⟩

/-- A Team's source serves its owner and members, and a partner Team's only while entitled. -/
def assertTeamAuthorization (configuration : Configuration) (scopeRef userId : String)
    (at' : Timestamp) : Except RelayError Unit :=
  let ofTeam (teamId : String) : Bool := "team:" ++ teamId = scopeRef
  match configuration.teams.find? (fun team => ofTeam team.id) with
  | none => .error (planSourceUnavailable "CPA basic Team Plan source is unavailable")
  | some team => do
    rejectIf (team.status ≠ "enabled")
      (planSourceUnavailable "CPA basic Team Plan source is unavailable")
    rejectIf (configuration.teamDeletionLifecycles.any fun deletion =>
        ofTeam deletion.teamId && deletion.cancelledAt.isNone && deletion.purgedAt.isNone)
      (planSourceUnavailable "CPA basic Team Plan source is unavailable")
    rejectIf (team.ownerId ≠ userId ∧ ¬configuration.teamMemberships.any fun membership =>
        ofTeam membership.teamId && membership.userId = userId)
      (planSourceUnavailable "CPA basic Team Plan source is no longer authorized")
    let entitlements := configuration.partnerOperatingEntitlements.filter fun entitlement =>
      ofTeam entitlement.partnerTeamId && configuration.planSubscriptions.any
        (·.id = entitlement.planSubscriptionId)
    rejectIf (entitlements ≠ [] ∧
        ¬entitlements.any (activePartnerEntitlement configuration scopeRef at'))
      ⟨"partner_subscription_expired",
        "This Partner service has expired. Use the main platform service or ask the Partner to " ++
          "renew.", 402⟩

def startsWith (text start : String) : Bool := start.toList.isPrefixOf text.toList

/-- The user may still use the source of the Plan. -/
def assertCpaBasicSourceAuthorization (configuration : Configuration) (scopeRef userId : String)
    (at' : Timestamp) : Except RelayError Unit :=
  if scopeRef = "global:" then .ok ()
  else if startsWith scopeRef "user:" then
    rejectIf (scopeRef ≠ "user:" ++ userId)
      (planSourceUnavailable "CPA basic user Plan source is no longer authorized")
  else if startsWith scopeRef "team:" = false ∨ scopeRef = "team:" then
    .error (planSourceUnavailable "CPA basic Plan source scope is invalid")
  else assertTeamAuthorization configuration scopeRef userId at'

/-- A PayGo Plan is charged to the user's own account, which has to have a positive balance. -/
def assertCpaBasicFunding (db : Database) (command : AdmitCpaBasicProviderInvocationCommand)
    (billingMode : String) : Except RelayError Unit := do
  rejectIf (billingMode ≠ "prepaid" ∧ billingMode ≠ "paygo")
    ⟨"plan_billing_mode_invalid", "Plan billing mode is invalid", 500⟩
  rejectIf (¬(billingMode = "paygo" ↔ (truthy command.usageChargeAccountId).isSome))
    ⟨"usage_charge_account_not_found", "CPA basic PayGo account reference is invalid", 409⟩
  match truthy command.usageChargeAccountId with
  | none => return ()
  | some accountId =>
    match (db.creditAccounts.find? accountId).filter fun account =>
        account.scopeRef = "user:" ++ command.userId && account.status = "active" with
    | none => throw ⟨"usage_charge_account_not_found",
        "CPA basic PayGo account is unavailable", 402⟩
    | some account =>
      rejectIf (account.balanceSnapUnits ≤ 0)
        ⟨"insufficient_credit",
          "CPA basic Provider invocation requires a positive PayGo balance", 402⟩

def assertCpaBasicPathStep (command : ProviderAttemptAdmissionIdentity)
    (edges : List AccessPointTarget) (step : PathStep) : Except RelayError Unit :=
  rejectIf (¬(edges.find? (·.id = step.edgeId)).any fun edge =>
      edge.status = "enabled" && edge.removedAt.isNone &&
        edge.accessPointId = step.accessPointId &&
        edgeMatches command.candidate edge step.nextAccessPointId)
    (accessConfigurationChanged "CPA basic target path changed before admission")

/-- The routing path of a claimless admission, checked against the current configuration. -/
def assertCpaBasicRoutingPath (configuration : Configuration)
    (command : ProviderAttemptAdmissionIdentity) : Except RelayError FrozenRoutingPathFacts := do
  let routing := command.routing
  let chain := routing.accessPointChainIds
  let accessPoints := configuration.accessPoints.filter (chain.contains ·.id)
  rejectIf (accessPoints.length ≠ chain.length)
    (accessConfigurationChanged "CPA basic AccessPoint path is incomplete")
  forAll chain fun accessPointId =>
    rejectIf (¬(accessPoints.find? (·.id = accessPointId)).any fun accessPoint =>
        accessPoint.status = "enabled" && accessPoint.removedAt.isNone &&
          expectedRevision routing.routingRevisions accessPointId =
            some accessPoint.routingRevision)
      (accessConfigurationChanged "CPA basic AccessPoint path changed before admission")
  rejectIf (¬(accessPoints.find? (·.id = routing.selectorAccessPointId)).any fun selector =>
      selector.selectorId = routing.selectorId &&
        selector.selectorBehaviorVersion = routing.selectorBehaviorVersion &&
        selector.routingRevision = routing.routingRevision)
    (accessConfigurationChanged "CPA basic selector changed before admission")
  let edges := configuration.accessPointTargets.filter (routing.pathTargetEdgeIds.contains ·.id)
  rejectIf (edges.length ≠ routing.pathTargetEdgeIds.length)
    (accessConfigurationChanged "CPA basic target path is incomplete")
  forAll (pathSteps chain routing.pathTargetEdgeIds) (assertCpaBasicPathStep command edges)
  rejectIf (¬(edges.find? (·.id = routing.selectorTargetEdgeId)).any
      (·.accessPointId = routing.selectorAccessPointId))
    (accessConfigurationChanged "CPA basic selector target changed before admission")
  let ownerScopeRef ← providerOwnerScopeRef configuration command.candidate
    "CPA basic Provider target changed before admission"
  return ⟨accessPoints, edges, ownerScopeRef⟩

/-- The prices of a claimless admission are enabled and belong to its path, Plan and Provider. -/
def assertCpaBasicPrices (configuration : Configuration)
    (command : AdmitCpaBasicProviderInvocationCommand) : Except RelayError Unit := do
  let chain := command.routing.accessPointChainIds
  forAll (chain.zip command.accessPointPriceIds) fun (accessPointId, priceId) =>
    rejectIf (¬configuration.accessPointPrices.any fun price =>
        price.id = priceId && price.status = "enabled" && price.accessPointId = accessPointId)
      (accessConfigurationChanged "CPA basic AccessPoint price path changed before admission")
  match command.billablePriceSource with
  | .accessPoint =>
    rejectIf (¬(command.accessPointPriceIds.contains command.billablePriceId &&
        configuration.accessPointPrices.any fun price =>
          price.id = command.billablePriceId && price.status = "enabled" &&
            chain.head? = some price.accessPointId))
      ⟨"billable_price_changed",
        "CPA basic billable AccessPoint price changed before admission", 409⟩
  | .planAccessPoint =>
    rejectIf (¬configuration.planAccessPointPrices.any fun price =>
        price.id = command.billablePriceId && price.planId = command.planId &&
          chain.head? = some price.accessPointId && price.status = "enabled")
      ⟨"billable_price_changed",
        "CPA basic Plan AccessPoint price changed before admission", 409⟩
  rejectIf (¬configuration.providerModelCosts.any fun cost =>
      cost.id = command.providerModelCostId && cost.providerId = command.candidate.providerId &&
        cost.providerModelName = command.candidate.providerModelName && cost.status = "enabled")
    (accessConfigurationChanged "CPA basic Provider cost changed before admission")

structure CpaBasicAdmission where
  decision : NewAdmissionDecision
  material : ProviderAttemptPersistenceMaterial

def cpaBasicMaterial (command : AdmitCpaBasicProviderInvocationCommand)
    (subscription : PlanSubscription) (plan : Plan) (ownerScopeRef : String)
    (frozen : ClaimlessInvocationBillingFinancialTerms) : ProviderAttemptPersistenceMaterial where
  billablePriceSource := command.billablePriceSource
  billablePriceId := command.billablePriceId
  requestedServiceTier := command.requestedServiceTier
  billingScopeRef := subscription.scopeRef
  planSellerScopeRef := plan.scopeRef
  planBillingMode := plan.billingMode
  subscriptionEffectiveStart := subscription.effectiveStart
  providerOwnerScopeRef := ownerScopeRef
  providerModelCostId := command.providerModelCostId
  terms := .cpaBasicV1 {
    planSubscriptionId := command.planSubscriptionId
    apiKeyId := command.apiKeyId
    userId := command.userId
    usageChargeAccountId := command.usageChargeAccountId
    requireServiceTier := command.requireServiceTier
    billablePriceProfileJson := frozen.billablePriceProfileJson
    providerCostProfileJson := frozen.providerCostProfileJson
    accessPointPriceProfilesJson := frozen.accessPointPriceProfilesJson }

/-- Every check of a new claimless admission, in the order of the source. -/
def inspectCpaBasicAdmission (localeCompare : String → String → Ordering) (db : Database)
    (command : AdmitCpaBasicProviderInvocationCommand) (now : Timestamp) :
    Except RelayError CpaBasicAdmission := do
  let configuration := db.configuration
  let identity := command.toProviderAttemptAdmissionIdentity
  let request ← loadCpaBasicRequest db command
  assertCpaBasicPrincipal configuration command.apiKeyId command.userId now
  let (subscription, plan) ← loadPlanSource configuration command.planSubscriptionId
    command.planId now "CPA basic Plan source changed before Provider invocation admission"
  rejectIf (request.billingScopeRef ≠ some subscription.scopeRef)
    ⟨"plan_subscription_unavailable",
      "CPA basic Request Log scope no longer matches the Plan source", 409⟩
  assertCpaBasicSourceAuthorization configuration subscription.scopeRef command.userId now
  assertCpaBasicFunding db command plan.billingMode
  rejectIf (¬configuration.planAccessPoints.any fun entitlement =>
      entitlement.planId = command.planId &&
        command.routing.accessPointChainIds.head? = some entitlement.accessPointId)
    (accessConfigurationChanged "Plan no longer includes the entry AccessPoint")
  let facts ← assertCpaBasicRoutingPath configuration identity
  assertCpaBasicPrices configuration command
  let contexts ← accessPointPriceContexts facts.accessPoints facts.edges subscription.scopeRef
    (pathSteps command.routing.accessPointChainIds command.routing.pathTargetEdgeIds)
    command.accessPointPriceIds
  let frozen ← prepareClaimlessInvocationBillingFinancialTerms localeCompare configuration
    ⟨command.planId, command.candidate.providerId, command.candidate.providerModelName,
      command.providerModelCostId, command.billablePriceSource, command.billablePriceId, contexts⟩
  let decision ← inspectNewAdmission db (admissionCommand identity command.planSubscriptionId) now
    (admissionKind identity)
  return ⟨decision, cpaBasicMaterial command subscription plan facts.providerOwnerScopeRef frozen⟩

/-- An attempt that a claimless admission would make again. -/
def assertEquivalentCpaBasicAttempt (existing : RequestProviderAttempt)
    (command : AdmitCpaBasicProviderInvocationCommand) : Except RelayError Unit :=
  let equivalent : Bool := match existing.material.terms with
    | .protectedV1 _ => false
    | .cpaBasicV1 terms =>
      command.providerAttemptId.all (existing.id = ·) &&
        existing.identity.requestId = command.requestId &&
        existing.identity.attemptIndex = command.attemptIndex &&
        existing.identity.routing = command.routing &&
        existing.identity.candidate = command.candidate &&
        terms.planSubscriptionId = command.planSubscriptionId &&
        terms.apiKeyId = command.apiKeyId && terms.userId = command.userId &&
        terms.usageChargeAccountId = command.usageChargeAccountId &&
        existing.material.requestedServiceTier = command.requestedServiceTier &&
        terms.requireServiceTier = command.requireServiceTier &&
        existing.material.billablePriceSource = command.billablePriceSource &&
        existing.material.billablePriceId = command.billablePriceId &&
        existing.material.providerModelCostId = command.providerModelCostId &&
        joinedIds (terms.accessPointPriceProfilesJson.map (·.priceId)) =
          joinedIds command.accessPointPriceIds
  rejectIf (equivalent = false)
    ⟨"provider_attempt_idempotency_conflict",
      "Existing CPA basic ProviderAttempt does not match the admission command", 409⟩

/-- The answer to a claimless admission that repeats an attempt. -/
def replayCpaBasicAdmission (db : Database) (command : AdmitCpaBasicProviderInvocationCommand)
    (existingRows : List RequestProviderAttempt) :
    Except RelayError CpaBasicProviderInvocationAdmission :=
  match existingRows with
  | [existing] => do
    rejectIf (existing.identity.candidate.candidateId ≠ command.candidate.candidateId)
      ⟨"provider_attempt_idempotency_conflict",
        "CPA basic ProviderAttempt index is already used by a different candidate", 409⟩
    assertEquivalentCpaBasicAttempt existing command
    let replay ← findReplay db
      (admissionCommand command.toProviderAttemptAdmissionIdentity command.planSubscriptionId)
    rejectIf replay.isNone
      ⟨"provider_invocation_ownership_lost",
        "A legacy ProviderAttempt without RequestExecution ownership cannot be redispatched", 409⟩
    return ⟨existing.id, existing.startedAt, true⟩
  | _ => .error ⟨"provider_attempt_idempotency_conflict",
      "CPA basic ProviderAttempt index is already used by a different candidate", 409⟩

/-- The attempts of a request that have the command's candidate or index. -/
def existingCpaBasicRows (db : Database) (command : AdmitCpaBasicProviderInvocationCommand) :
    List RequestProviderAttempt :=
  db.requestProviderAttempts.rows.filter fun attempt =>
    attempt.identity.requestId = command.requestId &&
      (attempt.identity.candidate.candidateId = command.candidate.candidateId ||
        attempt.identity.attemptIndex = command.attemptIndex)

/-- Admits a CPA basic attempt, or answers a replay. -/
def admitCpaBasicProviderInvocation (localeCompare : String → String → Ordering)
    (command : AdmitCpaBasicProviderInvocationCommand) (now : Timestamp) :
    TransactionClient CpaBasicProviderInvocationAdmission := do
  check (assertCpaBasicAdmissionShape command)
  let existingRows ← read fun db => .ok (existingCpaBasicRows db command)
  if existingRows ≠ [] then
    read fun db => replayCpaBasicAdmission db command existingRows
  else do
    let admission ← read fun db => inspectCpaBasicAdmission localeCompare db command now
    let attempt ← persistProviderAttempt command.toProviderAttemptAdmissionIdentity
      admission.decision now admission.material command.providerAttemptId
    return ⟨attempt.providerAttemptRef, attempt.startedAt, false⟩

end Frely.Application
