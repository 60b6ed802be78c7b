import Frely.Billing.FrozenPriceProfile
import Frely.Core.Values

/-!
# Contracts of invocation billing

What an attempt keeps of its prices (`InvocationTerms`): a protected attempt the unit prices and
token bounds it was admitted with, a `cpa-basic@1` attempt the price profiles and references that
its settlement needs, since it has no claim.  The two shapes of an attempt row that the database
accepts are the two constructors.
-/

namespace Frely.Billing

inductive BillablePriceSource where
  | accessPoint
  | planAccessPoint
deriving DecidableEq

structure AccessPointPriceContext where
  accessPointId : String
  targetAccessPointId : Option String
  buyerScopeRef : String
  sellerScopeRef : String
  priceId : String

structure FrozenAccessPointPriceEvidence where
  accessPointId : String
  targetAccessPointId : Option String
  buyerScopeRef : String
  sellerScopeRef : String
  priceId : String
  tierKey : String
  snapshotJson : FrozenPriceSnapshotDocument

structure FrozenAccessPointPriceProfile where
  accessPointId : String
  targetAccessPointId : Option String
  buyerScopeRef : String
  sellerScopeRef : String
  priceId : String
  profileJson : FrozenPriceProfileDocument

structure ProtectedInvocationTerms where
  billablePriceTierKey : String
  billablePriceSnapshotJson : FrozenPriceSnapshotDocument
  inputTokens : Int
  maxOutputTokens : Int
  tokenizerId : String
  tokenizerVersion : Int
  preparationEvidenceId : String
  preparationEvidenceVersion : Int
  preparedPayloadId : String
  providerCostTierKey : String
  providerCostSnapshotJson : FrozenPriceSnapshotDocument
  accessPointPriceSnapshotsJson : List FrozenAccessPointPriceEvidence

structure ClaimlessInvocationTerms where
  planSubscriptionId : String
  apiKeyId : String
  userId : String
  usageChargeAccountId : Option String
  requireServiceTier : Bool
  billablePriceProfileJson : FrozenPriceProfileDocument
  providerCostProfileJson : FrozenPriceProfileDocument
  accessPointPriceProfilesJson : List FrozenAccessPointPriceProfile

inductive InvocationTerms where
  | protectedV1 (terms : ProtectedInvocationTerms)
  | cpaBasicV1 (terms : ClaimlessInvocationTerms)

/-- What settlement reads of an attempt. -/
structure InvocationBillingAttemptSnapshot where
  billableInvocationRef : String
  requestId : String
  startedAt : Timestamp
  billingScopeRef : String
  planSellerScopeRef : String
  planBillingMode : String
  subscriptionEffectiveStart : Timestamp
  providerOwnerScopeRef : String
  providerId : String
  providerModelName : String
  providerModelCostId : String
  billablePriceId : String
  billablePriceSource : BillablePriceSource
  requestedServiceTier : String
  terms : InvocationTerms

/-- The Plan source, API key and user a settlement is booked on. -/
structure FinalBillingReferences where
  requestId : String
  planSubscriptionId : String
  apiKeyId : String
  userId : String
deriving DecidableEq

structure InvocationPriceInput where
  planId : String
  providerId : String
  providerModelName : String
  providerModelCostId : String
  billablePriceSource : BillablePriceSource
  billablePriceId : String
  accessPointPriceContexts : List AccessPointPriceContext

structure InvocationBillingBudgetInput where
  planId : String
  planSubscriptionId : String
  apiKeyId : String
  userId : String
  subscriptionEffectiveStart : Timestamp
  subscriptionEffectiveEnd : Option Timestamp
  maximumTokens : Int
  maximumChargeUnits : Int
  occurredAt : Timestamp

/-- What an admission occupies: a claim on the budgets and, for a PayGo account, a reservation. -/
structure InvocationBillingOccupationInput where
  billableInvocationRef : String
  references : FinalBillingReferences
  planId : String
  maximumTokens : Int
  maximumChargeUnits : Int
  usageChargeAccountId : Option String
  terms : ProtectedInvocationTerms
  serviceTier : String
  billablePriceSource : BillablePriceSource
  billablePriceId : String
  createdAt : Timestamp

/-- How a settlement closes the reservation: booked, or given back unused. -/
inductive ZeroReservationOutcome where
  | settled
  | released
deriving DecidableEq

structure InvocationBillingSettlementResult where
  actualChargeUnits : Int
  postingLedgerEventId : Option String
  billingEventId : String
  replayed : Bool
deriving DecidableEq

end Frely.Billing
