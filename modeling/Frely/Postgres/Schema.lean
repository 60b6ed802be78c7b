import Frely.Billing.InvocationContracts
import Frely.Lib.Table
import Frely.RequestExecution.Contracts
import Mathlib.Data.Rat.Defs

/-!
# The database

The tables that Provider invocations are admitted, dispatched and settled on.  The invocation
tables are keyed tables of rows; the catalogue tables, which these operations only read, are the
lists of a `Configuration`.

Columns that a row only carries for reports (amounts as floating point numbers, texts nobody reads
back) are left out.  A document column holds the document its JSON text encodes.
-/

namespace Frely.Postgres

open Frely.Billing Frely.RequestExecution

/-! ### Catalogue -/

structure PlanSubscription where
  id : String
  planId : String
  scopeRef : String
  effectiveStart : Timestamp
  effectiveEnd : Option Timestamp
  subscriptionLifecycle : String

structure Plan where
  id : String
  scopeRef : String
  billingMode : String
  planStatus : String

inductive BudgetMetric where
  | tokens
  | amount
deriving DecidableEq

inductive BudgetScope where
  | subscription
  | user
deriving DecidableEq

inductive BudgetWindowType where
  | fixed
  | rolling
  | cumulative
deriving DecidableEq

/-- A budget of a Plan.  The last fields are the checks of the table. -/
structure PlanBudgetLimit where
  id : String
  planId : String
  limitScope : BudgetScope
  metric : BudgetMetric
  limitValue : ℚ
  limitAmountUnits : Option Int
  windowType : BudgetWindowType
  windowSeconds : Option Int
  valueCheck : 0 < limitValue
  amountUnitsCheck : ∀ units ∈ limitAmountUnits, 0 ≤ units

structure ScopeBudgetPolicy where
  id : String
  scopeRef : String
  budgetPolicyId : String
  status : String
  createdAt : Timestamp

structure BudgetPolicy where
  id : String
  metric : BudgetMetric
  limitValue : ℚ
  limitAmountUnits : Option Int
  windowType : BudgetWindowType
  windowSeconds : Option Int
  status : String

structure ApiKey where
  id : String
  userId : String
  status : String
  revokedAt : Option Timestamp
  expiresAt : Option Timestamp

structure UserControl where
  id : String
  status : String

structure AccessPoint where
  id : String
  scopeRef : String
  status : String
  removedAt : Option Timestamp
  selectorId : String
  selectorBehaviorVersion : Int
  routingRevision : Int

inductive AccessPointTargetType where
  | accessPoint
  | providerModel
deriving DecidableEq

structure AccessPointTarget where
  id : String
  accessPointId : String
  targetType : AccessPointTargetType
  targetAccessPointId : Option String
  targetProviderId : Option String
  targetProviderModelName : Option String
  targetProviderModelId : Option String
  status : String
  removedAt : Option Timestamp

structure ProviderModel where
  id : String
  providerId : String
  providerModelName : String
  status : String

structure Provider where
  id : String
  scopeRef : String
  status : String

structure ProviderBinding where
  providerId : String
  syncStatus : String

/-- Prices are read with their tiers, in the order of the tier query. -/
structure AccessPointPrice extends InvocationPriceProfileInput where
  id : String
  accessPointId : String

structure PlanAccessPointPrice extends InvocationPriceProfileInput where
  id : String
  planId : String
  accessPointId : String

structure ProviderModelCost extends InvocationPriceProfileInput where
  id : String
  providerId : String
  providerModelName : String

structure PlanAccessPoint where
  planId : String
  accessPointId : String

structure Team where
  id : String
  ownerId : String
  status : String

structure TeamDeletionLifecycle where
  teamId : String
  cancelledAt : Option Timestamp
  purgedAt : Option Timestamp

structure TeamMembership where
  teamId : String
  userId : String

structure PartnerOperatingEntitlement where
  partnerTeamId : String
  partnerPlanId : String
  planSubscriptionId : String
  effectiveStart : Timestamp
  effectiveEnd : Timestamp
  lifecycle : String

structure Configuration where
  planSubscriptions : List PlanSubscription := []
  plans : List Plan := []
  planBudgetLimits : List PlanBudgetLimit := []
  scopeBudgetPolicies : List ScopeBudgetPolicy := []
  budgetPolicies : List BudgetPolicy := []
  apiKeys : List ApiKey := []
  userControls : List UserControl := []
  accessPoints : List AccessPoint := []
  accessPointTargets : List AccessPointTarget := []
  providerModels : List ProviderModel := []
  providers : List Provider := []
  providerBindings : List ProviderBinding := []
  accessPointPrices : List AccessPointPrice := []
  planAccessPointPrices : List PlanAccessPointPrice := []
  providerModelCosts : List ProviderModelCost := []
  planAccessPoints : List PlanAccessPoint := []
  teams : List Team := []
  teamDeletionLifecycles : List TeamDeletionLifecycle := []
  teamMemberships : List TeamMembership := []
  partnerOperatingEntitlements : List PartnerOperatingEntitlement := []

/-! ### Request execution -/

structure RequestLog where
  id : String
  apiKeyId : String
  userId : String
  planId : Option String
  planSubscriptionId : Option String
  entryAccessPointId : Option String
  billingScopeRef : Option String
  endedAt : Option Timestamp

structure RequestExecution where
  requestId : String
  status : RequestExecutionStatus
  ownerId : String
  attemptCount : Int
  outputCommitted : Bool
  terminalErrorCode : Option String
  selectedPlanSubscriptionId : String
  startedAt : Timestamp
  endedAt : Option Timestamp

structure RequestExecutionLease where
  requestId : String
  ownerId : String
  acquiredAt : Timestamp
  heartbeatAt : Timestamp
  leaseUntil : Timestamp
deriving DecidableEq

/-- The prices, terms and references an attempt is persisted with. -/
structure ProviderAttemptPersistenceMaterial where
  billablePriceSource : BillablePriceSource
  billablePriceId : String
  requestedServiceTier : String
  billingScopeRef : String
  planSellerScopeRef : String
  planBillingMode : String
  subscriptionEffectiveStart : Timestamp
  providerOwnerScopeRef : String
  providerModelCostId : String
  terms : InvocationTerms

/-- An attempt.  `outcome` is absent while it is `pending`. -/
structure RequestProviderAttempt where
  id : String
  identity : ProviderAttemptAdmissionIdentity
  startedAt : Timestamp
  admissionLeaseUntil : Timestamp
  material : ProviderAttemptPersistenceMaterial
  outcome : Option ProviderAttemptOutcome
  failureClass : Option ProviderFailureClass
  failureReason : Option ProviderCredentialFailureReason
  outputCommitted : Bool
  trustedUsageSource : Option UsageSource
  endedAt : Option Timestamp
  costExposure : ProviderCostExposure
  finalUsageEvidence : ProviderFinalUsageEvidence
  usageSettled : Bool
  reconciliationReason : Option String

/-- The contract of an attempt, which its terms determine. -/
def RequestProviderAttempt.invocationContract (attempt : RequestProviderAttempt) :
    InvocationContract :=
  match attempt.material.terms with
  | .protectedV1 _ => .protectedV1
  | .cpaBasicV1 _ => .cpaBasicV1

/-! ### Billing -/

structure BudgetClaim where
  providerAttemptId : String
  references : FinalBillingReferences
  planId : String
  maxTotalTokens : Int
  maxChargeUnits : Int
  createdAt : Timestamp

inductive UsageReservationStatus where
  | active
  | reconciling
  | released
  | settled
deriving DecidableEq

/-- `status IN ('active', 'reconciling')`. -/
def UsageReservationStatus.isOpen : UsageReservationStatus → Bool
  | active => true
  | reconciling => true
  | released => false
  | settled => false

structure UsageReservation where
  id : String
  providerAttemptId : String
  requestId : String
  creditAccountId : String
  planSubscriptionId : String
  userId : String
  status : UsageReservationStatus
  reservationUnits : Int
  heldUnits : Int
  inputTokens : Int
  maxOutputTokens : Int
  tokenizerId : String
  tokenizerVersion : Int
  preparationEvidenceId : String
  preparationEvidenceVersion : Int
  preparedPayloadId : String
  serviceTier : String
  billablePriceSource : BillablePriceSource
  billablePriceId : String
  billablePriceTierKey : String
  priceSnapshotJson : FrozenPriceSnapshotDocument
  postingLedgerEventId : Option String
  createdAt : Timestamp
  updatedAt : Timestamp

structure ProviderInvocationUsageFact where
  providerAttemptId : String
  references : FinalBillingReferences
  usage : InvocationUsageUnits
  actualChargeUnits : Int
  priceSnapshotJson : FrozenPriceSnapshotDocument
  occurredAt : Timestamp
  settledAt : Timestamp
  postingLedgerEventId : Option String
  billingEventId : String

/-- The figures a billing event and its history reference share. -/
structure BillingFigures where
  requestId : String
  billingSubscriptionId : String
  billingScopeRef : String
  usage : InvocationUsageUnits
  billableAmountUnits : Int
  providerCostAmountUnits : Int
  grossMarginAmountUnits : Int
  providerModelCostId : String

structure BillingEvent extends BillingFigures where
  id : String
  billablePriceId : String
  billablePriceSource : BillablePriceSource
  billablePriceTierKey : String
  providerCostTierKey : String
  billablePriceSnapshotJson : FrozenPriceSnapshotDocument
  costPriceSnapshotJson : FrozenPriceSnapshotDocument
  createdAt : Timestamp

structure BillingHistoryRef extends BillingFigures where
  billingEventId : String
  occurredAt : Timestamp

/-- The cost of an attempt; every one is of the operation `inference`. -/
structure BillingProviderCostEvent where
  id : String
  requestId : String
  providerAttemptId : String
  providerOwnerScopeRef : String
  providerId : String
  providerModelName : String
  providerModelCostId : String
  costTierKey : String
  costSnapshotJson : FrozenPriceSnapshotDocument
  usage : InvocationUsageUnits
  amountUnits : Int
  createdAt : Timestamp

structure BillingAccessPointEdge where
  id : String
  requestId : String
  edgeOrder : Nat
  chainIndex : Nat
  buyerScopeRef : String
  sellerScopeRef : String
  accessPointId : String
  targetAccessPointId : Option String
  isInternal : Bool
  accessPointPriceId : String
  priceTierKey : String
  priceSnapshotJson : FrozenPriceSnapshotDocument
  usage : InvocationUsageUnits
  amountUnits : Int
  createdAt : Timestamp

inductive SellerSettlementEventType where
  | revenue
  | upstreamCost
deriving DecidableEq

/-- A settlement of a seller; every one has a billing event as its source. -/
structure SellerSettlementEvent where
  id : String
  planSubscriptionId : String
  sellerScopeRef : String
  windowStart : Timestamp
  windowEnd : Timestamp
  releaseAt : Timestamp
  eventType : SellerSettlementEventType
  amountUnits : Int
  sourceId : String
  createdAt : Timestamp

/-- A ledger event of the type `usage_charge`, the only one these operations post. -/
structure CreditLedgerEvent where
  id : String
  accountId : String
  amountUnits : Int
  planSubscriptionId : String
  billingEventId : String
  providerAttemptId : String
  reason : String
  actorUserId : Option String
  createdAt : Timestamp

structure CreditAccount where
  id : String
  scopeRef : String
  status : String
  balanceSnapUnits : Int
  balanceSnapLedgerEventId : Option String
  balanceSnapUpdatedAt : Option Timestamp
  updatedAt : Timestamp

instance : Keyed RequestLog String := ⟨RequestLog.id⟩
instance : Keyed RequestExecution String := ⟨RequestExecution.requestId⟩
instance : Keyed RequestExecutionLease String := ⟨RequestExecutionLease.requestId⟩
instance : Keyed RequestProviderAttempt String := ⟨RequestProviderAttempt.id⟩
instance : Keyed BudgetClaim String := ⟨BudgetClaim.providerAttemptId⟩
-- the reservation of an attempt is unique, and every access goes through the attempt
instance : Keyed UsageReservation String := ⟨UsageReservation.providerAttemptId⟩
instance : Keyed ProviderInvocationUsageFact String :=
  ⟨ProviderInvocationUsageFact.providerAttemptId⟩
instance : Keyed BillingEvent String := ⟨BillingEvent.id⟩
instance : Keyed BillingHistoryRef String := ⟨BillingHistoryRef.billingEventId⟩
instance : Keyed BillingProviderCostEvent String := ⟨BillingProviderCostEvent.id⟩
instance : Keyed BillingAccessPointEdge String := ⟨BillingAccessPointEdge.id⟩
instance : Keyed SellerSettlementEvent String := ⟨SellerSettlementEvent.id⟩
instance : Keyed CreditLedgerEvent String := ⟨CreditLedgerEvent.id⟩
instance : Keyed CreditAccount String := ⟨CreditAccount.id⟩

structure Database where
  configuration : Configuration
  creditAccounts : Table CreditAccount
  requestLogs : Table RequestLog := Table.empty
  requestExecutions : Table RequestExecution := Table.empty
  requestExecutionLeases : Table RequestExecutionLease := Table.empty
  requestProviderAttempts : Table RequestProviderAttempt := Table.empty
  budgetClaims : Table BudgetClaim := Table.empty
  usageReservations : Table UsageReservation := Table.empty
  providerInvocationUsageFacts : Table ProviderInvocationUsageFact := Table.empty
  billingEvents : Table BillingEvent := Table.empty
  billingHistoryRefs : Table BillingHistoryRef := Table.empty
  billingProviderCostEvents : Table BillingProviderCostEvent := Table.empty
  billingAccessPointEdges : Table BillingAccessPointEdge := Table.empty
  sellerSettlementEvents : Table SellerSettlementEvent := Table.empty
  creditLedgerEvents : Table CreditLedgerEvent := Table.empty

end Frely.Postgres
