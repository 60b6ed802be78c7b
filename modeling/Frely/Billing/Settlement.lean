import Frely.Billing.Admission

/-!
# Billing of final usage

`settleInvocationBilling` books the final usage of an attempt once: the billing event with its
cost events and settlements, the charge on the ledger and on the account, and the usage fact, which
for a protected attempt takes the place of its claim and ends its reservation.  The same usage
again returns what was booked, another one is refused.
-/

namespace Frely.Billing

open Frely.Postgres Frely.RequestExecution Checked Transaction

/-- The account a settlement is charged to: the one reserved on, else the one of a `cpa-basic@1`
attempt. -/
def lockInvocationBillingSettlementAccount (db : Database) (providerAttemptId : String) :
    Option LockedCreditAccount :=
  match db.usageReservations.find? providerAttemptId with
  | some reservation => lockCreditAccount db reservation.creditAccountId
  | none =>
    match db.requestProviderAttempts.find? providerAttemptId with
    | none => none
    | some attempt =>
      match attempt.material.terms with
      | .cpaBasicV1 terms => (truthy terms.usageChargeAccountId).bind (lockCreditAccount db)
      | .protectedV1 _ => none

structure SettleInvocationBillingInput where
  billableInvocationRef : String
  usage : InvocationUsageUnits
  zeroReservationOutcome : ZeroReservationOutcome
  account : Option LockedCreditAccount
  settledAt : Timestamp
  attempt : InvocationBillingAttemptSnapshot

/-- What a settlement books, once its prices are known. -/
structure SettlementTerms where
  references : FinalBillingReferences
  actualChargeUnits : Int
  providerCostUnits : Int
  billablePriceTierKey : String
  billablePriceSnapshotJson : FrozenPriceSnapshotDocument
  providerCostTierKey : String
  providerCostSnapshotJson : FrozenPriceSnapshotDocument
  accessPointPrices : List FrozenAccessPointPriceEvidence

def SettlementTerms.grossMarginUnits (terms : SettlementTerms) : Int :=
  terms.actualChargeUnits - terms.providerCostUnits

/-! ### Prices -/

/-- The charge of a usage at a frozen snapshot. -/
def snapshotChargeUnits (usage : InvocationUsageUnits) (snapshot : FrozenPriceSnapshotDocument) :
    Except RelayError Int := do
  actualInvocationChargeUnits usage (← parseFrozenPriceUnits snapshot.toFrozenPriceUnitsDocument)

def parseFrozenAccessPointPrices (prices : List FrozenAccessPointPriceEvidence) :
    Except RelayError (List FrozenAccessPointPriceEvidence) := do
  forAll prices fun price => do
    let _ ← parseFrozenPriceUnits price.snapshotJson.toFrozenPriceUnitsDocument
    return ()
  return prices

def assertReleasedUsageIsZero (zeroReservationOutcome : ZeroReservationOutcome)
    (usage : InvocationUsageUnits) : Except RelayError Unit :=
  if zeroReservationOutcome = .settled then .ok ()
  else rejectIf (usage.inputTokens ≠ 0 ∨ usage.cachedInputTokens ≠ 0 ∨ usage.cacheWriteTokens ≠ 0 ∨
      usage.outputTokens ≠ 0 ∨ usage.totalTokens ≠ 0)
    ⟨"released_reservation_requires_zero_usage",
      "A released reservation requires authoritative zero usage", 409⟩

def assertCacheWritePriceAvailable (usage : InvocationUsageUnits)
    (snapshots : List FrozenPriceSnapshotDocument) : Except RelayError Unit :=
  if usage.cacheWriteTokens ≤ 0 then .ok ()
  else forAll snapshots fun snapshot => do
    let price ← parseFrozenPriceUnits snapshot.toFrozenPriceUnitsDocument
    rejectIf (price.cacheWritePriceUnitsPer1M = none)
      ⟨"unexpected_cache_write_usage",
        "Provider Cache write usage conflicts with a frozen Unavailable price dimension", 500⟩

/-- A released attempt costs nothing. -/
def closingChargeUnits (zeroReservationOutcome : ZeroReservationOutcome)
    (usage : InvocationUsageUnits) (snapshot : FrozenPriceSnapshotDocument) :
    Except RelayError Int :=
  match zeroReservationOutcome with
  | .released => .ok 0
  | .settled => snapshotChargeUnits usage snapshot

/-- The terms of a protected settlement. -/
def protectedSettlementTerms (terms : ProtectedInvocationTerms) (claim : BudgetClaim)
    (reservation : Option UsageReservation) (usage : InvocationUsageUnits)
    (zeroReservationOutcome : ZeroReservationOutcome) : Except RelayError SettlementTerms := do
  assertReleasedUsageIsZero zeroReservationOutcome usage
  let priceSnapshotJson :=
    (reservation.map (·.priceSnapshotJson)).getD terms.billablePriceSnapshotJson
  let accessPointPrices ← parseFrozenAccessPointPrices terms.accessPointPriceSnapshotsJson
  assertCacheWritePriceAvailable usage
    (priceSnapshotJson :: terms.providerCostSnapshotJson ::
      accessPointPrices.map (·.snapshotJson))
  let actualChargeUnits ← closingChargeUnits zeroReservationOutcome usage priceSnapshotJson
  let providerCostUnits ←
    closingChargeUnits zeroReservationOutcome usage terms.providerCostSnapshotJson
  return ⟨claim.references, actualChargeUnits, providerCostUnits, terms.billablePriceTierKey,
    priceSnapshotJson, terms.providerCostTierKey, terms.providerCostSnapshotJson,
    accessPointPrices⟩

section Collation

variable (localeCompare : String → String → Ordering)

/-- The AccessPoint prices of a claimless attempt, selected for its usage. -/
def selectClaimlessAccessPointPrices (profiles : List FrozenAccessPointPriceProfile)
    (inputTokens : Int) (requestedServiceTier : String) (requireServiceTier : Bool) :
    Except RelayError (List FrozenAccessPointPriceEvidence) :=
  profiles.mapM fun profile => do
    let selected ← selectFrozenPriceProfile localeCompare profile.profileJson inputTokens
      requestedServiceTier requireServiceTier
    return ⟨profile.accessPointId, profile.targetAccessPointId, profile.buyerScopeRef,
      profile.sellerScopeRef, profile.priceId, selected.tierKey, selected.snapshotJson⟩

/-- A selected price that does not cover cache writes refuses a usage with any. -/
def assertClaimlessCacheWritePrices (usage : InvocationUsageUnits)
    (billablePrice providerCost : FrozenPriceUnits)
    (accessPointPrices : List FrozenAccessPointPriceEvidence) : Except RelayError Unit :=
  if usage.cacheWriteTokens ≤ 0 then .ok ()
  else do
    let accessPointUnits ← accessPointPrices.mapM fun price =>
      parseFrozenPriceUnits price.snapshotJson.toFrozenPriceUnitsDocument
    rejectIf (∃ units ∈ billablePrice :: providerCost :: accessPointUnits,
        units.cacheWritePriceUnitsPer1M = none)
      ⟨"unexpected_cache_write_usage",
        "The Provider returned Cache write usage for a frozen price tier configured as Unavailable",
        500⟩

/-- The terms of a claimless settlement: every price is selected for the reported usage. -/
def claimlessSettlementTerms (attempt : InvocationBillingAttemptSnapshot)
    (terms : ClaimlessInvocationTerms) (usage : InvocationUsageUnits) :
    Except RelayError SettlementTerms := do
  let billablePrice ← selectFrozenPriceProfile localeCompare terms.billablePriceProfileJson
    usage.inputTokens attempt.requestedServiceTier terms.requireServiceTier
  let providerCost ← selectFrozenPriceProfile localeCompare terms.providerCostProfileJson
    usage.inputTokens attempt.requestedServiceTier terms.requireServiceTier
  let accessPointPrices ← selectClaimlessAccessPointPrices localeCompare
    terms.accessPointPriceProfilesJson usage.inputTokens attempt.requestedServiceTier
    terms.requireServiceTier
  assertClaimlessCacheWritePrices usage billablePrice.units providerCost.units accessPointPrices
  let actualChargeUnits ← actualInvocationChargeUnits usage billablePrice.units
  let providerCostUnits ← actualInvocationChargeUnits usage providerCost.units
  return ⟨⟨attempt.requestId, terms.planSubscriptionId, terms.apiKeyId, terms.userId⟩,
    actualChargeUnits, providerCostUnits, billablePrice.tierKey, billablePrice.snapshotJson,
    providerCost.tierKey, providerCost.snapshotJson, accessPointPrices⟩

end Collation

/-! ### Booking -/

/-- Units that the compatibility columns can show as a floating point amount. -/
def assertCompatibilityUnits (units : Int) : Except RelayError Unit :=
  rejectIf (¬IsSafeInteger units)
    ⟨"invalid_credit_units", "USD units are outside legacy compatibility range", 500⟩

/-- The thirty-day window of a seller settlement. -/
def sellerSettlementWindow (effectiveStart occurredAt : Timestamp) : BudgetWindow :=
  let size := 2592000000
  let index := max 0 ((occurredAt - effectiveStart) / size)
  ⟨effectiveStart + index * size, effectiveStart + (index + 1) * size⟩

def insertSellerSettlement (attempt : InvocationBillingAttemptSnapshot)
    (billingEventId planSubscriptionId : String) (eventType : SellerSettlementEventType)
    (amountUnits : Int) : TransactionClient Unit := do
  let window := sellerSettlementWindow attempt.subscriptionEffectiveStart attempt.startedAt
  let id ← createId "seller_settlement"
  createSellerSettlementEvent {
    id := id
    planSubscriptionId := planSubscriptionId
    sellerScopeRef := attempt.planSellerScopeRef
    windowStart := window.startAt
    windowEnd := window.endAt
    releaseAt := window.endAt
    eventType := eventType
    amountUnits := amountUnits
    sourceId := billingEventId
    createdAt := attempt.startedAt }

def settlementFigures (attempt : InvocationBillingAttemptSnapshot) (terms : SettlementTerms)
    (usage : InvocationUsageUnits) : BillingFigures where
  requestId := terms.references.requestId
  billingSubscriptionId := terms.references.planSubscriptionId
  billingScopeRef := attempt.billingScopeRef
  usage := usage
  billableAmountUnits := terms.actualChargeUnits
  providerCostAmountUnits := terms.providerCostUnits
  grossMarginAmountUnits := terms.grossMarginUnits
  providerModelCostId := attempt.providerModelCostId

/-- The billing event of a settlement. -/
def newBillingEvent (billingEventId : String) (attempt : InvocationBillingAttemptSnapshot)
    (terms : SettlementTerms) (usage : InvocationUsageUnits) : BillingEvent :=
  { settlementFigures attempt terms usage with
    id := billingEventId
    billablePriceId := attempt.billablePriceId
    billablePriceSource := attempt.billablePriceSource
    billablePriceTierKey := terms.billablePriceTierKey
    providerCostTierKey := terms.providerCostTierKey
    billablePriceSnapshotJson := terms.billablePriceSnapshotJson
    costPriceSnapshotJson := terms.providerCostSnapshotJson
    createdAt := attempt.startedAt }

/-- The edge of one AccessPoint on the path of an attempt. -/
def createAccessPointEdge (attempt : InvocationBillingAttemptSnapshot) (requestId : String)
    (usage : InvocationUsageUnits) (entry : FrozenAccessPointPriceEvidence × Nat) :
    TransactionClient Unit := do
  let (frozen, index) := entry
  let amountUnits ← check (snapshotChargeUnits usage frozen.snapshotJson)
  check (assertCompatibilityUnits amountUnits)
  let id ← createId "billing_ap_edge"
  createBillingAccessPointEdge {
    id := id
    requestId := requestId
    edgeOrder := index + 1
    chainIndex := index
    buyerScopeRef := frozen.buyerScopeRef
    sellerScopeRef := frozen.sellerScopeRef
    accessPointId := frozen.accessPointId
    targetAccessPointId := frozen.targetAccessPointId
    isInternal := frozen.buyerScopeRef = frozen.sellerScopeRef
    accessPointPriceId := frozen.priceId
    priceTierKey := frozen.tierKey
    priceSnapshotJson := frozen.snapshotJson
    usage := usage
    amountUnits := amountUnits
    createdAt := attempt.startedAt }

/-- The seller's revenue, when the Plan is PayGo and the attempt is charged. -/
def createSellerRevenue (attempt : InvocationBillingAttemptSnapshot) (billingEventId : String)
    (terms : SettlementTerms) : TransactionClient Unit :=
  if attempt.planBillingMode = "paygo" ∧ 0 < terms.actualChargeUnits then
    insertSellerSettlement attempt billingEventId terms.references.planSubscriptionId .revenue
      terms.actualChargeUnits
  else pure ()

/-- The seller's cost, when another seller owns the entry AccessPoint. -/
def createSellerUpstreamCost (attempt : InvocationBillingAttemptSnapshot)
    (billingEventId : String) (terms : SettlementTerms) (usage : InvocationUsageUnits) :
    TransactionClient Unit :=
  match terms.accessPointPrices.head?.filter
      (·.sellerScopeRef ≠ attempt.planSellerScopeRef) with
  | none => pure ()
  | some entry => do
    let amountUnits ← check (snapshotChargeUnits usage entry.snapshotJson)
    if 0 < amountUnits then
      insertSellerSettlement attempt billingEventId terms.references.planSubscriptionId
        .upstreamCost amountUnits
    else pure ()

/-- The rows a settlement writes besides the charge and the usage fact. -/
def createFinalBillingFacts (billingEventId : String) (attempt : InvocationBillingAttemptSnapshot)
    (terms : SettlementTerms) (usage : InvocationUsageUnits) : TransactionClient Unit := do
  check (assertCompatibilityUnits terms.actualChargeUnits)
  check (assertCompatibilityUnits terms.providerCostUnits)
  check (assertCompatibilityUnits terms.grossMarginUnits)
  createBillingEvent (newBillingEvent billingEventId attempt terms usage)
  createBillingHistoryRef {
    settlementFigures attempt terms usage with
    billingEventId := billingEventId
    occurredAt := attempt.startedAt }
  let costId ← createId "billing_provider_cost"
  createBillingProviderCostEvent {
    id := costId
    requestId := terms.references.requestId
    providerAttemptId := attempt.billableInvocationRef
    providerOwnerScopeRef := attempt.providerOwnerScopeRef
    providerId := attempt.providerId
    providerModelName := attempt.providerModelName
    providerModelCostId := attempt.providerModelCostId
    costTierKey := terms.providerCostTierKey
    costSnapshotJson := terms.providerCostSnapshotJson
    usage := usage
    amountUnits := terms.providerCostUnits
    createdAt := attempt.startedAt }
  forEach terms.accessPointPrices.zipIdx
    (createAccessPointEdge attempt terms.references.requestId usage)
  createSellerRevenue attempt billingEventId terms
  createSellerUpstreamCost attempt billingEventId terms usage

/-- Takes the charge off an account, whose balance is the one it was locked with. -/
def chargedAccount (locked : LockedCreditAccount) (actualChargeUnits : Int)
    (ledgerEventId : String) (settledAt : Timestamp) (account : CreditAccount) : CreditAccount :=
  { account with
    balanceSnapUnits := locked.balanceSnapUnits - actualChargeUnits
    balanceSnapLedgerEventId := some ledgerEventId
    balanceSnapUpdatedAt := some settledAt
    updatedAt := settledAt }

/-- The ledger event of a charge. -/
def usageChargeEvent (id accountId : String) (input : SettleInvocationBillingInput)
    (terms : SettlementTerms) (billingEventId : String) (actorUserId : Option String) :
    CreditLedgerEvent where
  id := id
  accountId := accountId
  amountUnits := -terms.actualChargeUnits
  planSubscriptionId := terms.references.planSubscriptionId
  billingEventId := billingEventId
  providerAttemptId := input.billableInvocationRef
  reason := "provider_attempt:" ++ input.billableInvocationRef
  actorUserId := actorUserId
  createdAt := input.settledAt

def appendUsageCharge (input : SettleInvocationBillingInput) (terms : SettlementTerms)
    (billingEventId : String) (actorUserId : Option String) : TransactionClient String := do
  match input.account with
  | none => check (.error ⟨"credit_account_not_found",
      "Provider invocation CreditAccount is missing", 409⟩)
  | some locked => do
    let postingLedgerEventId ← createId "ledger"
    createCreditLedgerEvent
      (usageChargeEvent postingLedgerEventId locked.id input terms billingEventId actorUserId)
    updateCreditAccount locked.id
      (chargedAccount locked terms.actualChargeUnits postingLedgerEventId input.settledAt)
      fun _ => rfl
    return postingLedgerEventId

/-- The usage fact of a settled attempt. -/
def newUsageFact (input : SettleInvocationBillingInput) (terms : SettlementTerms)
    (billingEventId : String) (postingLedgerEventId : Option String) :
    ProviderInvocationUsageFact where
  providerAttemptId := input.billableInvocationRef
  references := terms.references
  usage := input.usage
  actualChargeUnits := terms.actualChargeUnits
  priceSnapshotJson := terms.billablePriceSnapshotJson
  occurredAt := input.attempt.startedAt
  settledAt := input.settledAt
  postingLedgerEventId := postingLedgerEventId
  billingEventId := billingEventId

/-- Charges the terms of a settlement, when there is a charge; the id of its ledger event. -/
def postUsageCharge (input : SettleInvocationBillingInput) (terms : SettlementTerms)
    (billingEventId : String) (charged : Bool) (actorUserId : Option String) :
    TransactionClient (Option String) :=
  if charged then some <$> appendUsageCharge input terms billingEventId actorUserId
  else pure none

/-- Books the terms of a settlement: the billing rows, the charge when there is one, the fact. -/
def bookSettlement (input : SettleInvocationBillingInput) (terms : SettlementTerms)
    (charged : Bool) (actorUserId : Option String) :
    TransactionClient InvocationBillingSettlementResult := do
  let billingEventId ← createId "billing"
  createFinalBillingFacts billingEventId input.attempt terms input.usage
  let postingLedgerEventId ← postUsageCharge input terms billingEventId charged actorUserId
  createProviderInvocationUsageFact (newUsageFact input terms billingEventId postingLedgerEventId)
  return ⟨terms.actualChargeUnits, postingLedgerEventId, billingEventId, false⟩

/-- A reservation whose attempt has final usage. -/
def endedReservation (outcome : ZeroReservationOutcome) (postingLedgerEventId : Option String)
    (settledAt : Timestamp) (reservation : UsageReservation) : UsageReservation :=
  { reservation with
    status := match outcome with
      | .settled => .settled
      | .released => .released
    heldUnits := 0
    postingLedgerEventId := postingLedgerEventId
    updatedAt := settledAt }

/-- Ends the reservation of a settled attempt, if it has one. -/
def endUsageReservation (input : SettleInvocationBillingInput)
    (reservation : Option UsageReservation) (postingLedgerEventId : Option String) :
    TransactionClient Unit :=
  match reservation with
  | none => pure ()
  | some _ =>
    updateUsageReservation input.billableInvocationRef
      (endedReservation input.zeroReservationOutcome postingLedgerEventId input.settledAt)
      fun _ => rfl

def settleProtectedInvocationBilling (input : SettleInvocationBillingInput)
    (protectedTerms : ProtectedInvocationTerms) :
    TransactionClient InvocationBillingSettlementResult := do
  let claim ← read fun db =>
    match db.budgetClaims.find? input.billableInvocationRef with
    | none => .error ⟨"provider_attempt_budget_claim_missing",
        "ProviderAttempt BudgetClaim is missing", 409⟩
    | some claim => .ok claim
  let reservation ← read fun db => .ok (db.usageReservations.find? input.billableInvocationRef)
  let terms ← check (protectedSettlementTerms protectedTerms claim reservation input.usage
    input.zeroReservationOutcome)
  let result ←
    bookSettlement input terms (0 < terms.actualChargeUnits && reservation.isSome) none
  deleteBudgetClaim input.billableInvocationRef
  endUsageReservation input reservation result.postingLedgerEventId
  return result

def settleClaimlessInvocationBilling (localeCompare : String → String → Ordering)
    (input : SettleInvocationBillingInput) (claimlessTerms : ClaimlessInvocationTerms) :
    TransactionClient InvocationBillingSettlementResult := do
  let claim ← read fun db => .ok (db.budgetClaims.find? input.billableInvocationRef)
  let reservation ← read fun db => .ok (db.usageReservations.find? input.billableInvocationRef)
  check (rejectIf (claim.isSome ∨ reservation.isSome)
    ⟨"cpa_basic_billing_occupation_invalid",
      "Claimless ProviderAttempt cannot have a protected Billing occupation", 409⟩)
  let terms ← check
    (claimlessSettlementTerms localeCompare input.attempt claimlessTerms input.usage)
  bookSettlement input terms
    (input.attempt.planBillingMode = "paygo" && 0 < terms.actualChargeUnits)
    (some claimlessTerms.userId)

/-- The result of a settlement that was booked before. -/
def storedSettlement (fact : ProviderInvocationUsageFact) : InvocationBillingSettlementResult :=
  ⟨fact.actualChargeUnits, fact.postingLedgerEventId, fact.billingEventId, true⟩

def settleInvocationBilling (localeCompare : String → String → Ordering)
    (input : SettleInvocationBillingInput) :
    TransactionClient InvocationBillingSettlementResult := do
  let existingFact ← read fun db =>
    .ok (db.providerInvocationUsageFacts.find? input.billableInvocationRef)
  match existingFact with
  | some fact => do
    check (rejectIf (fact.usage ≠ input.usage)
      ⟨"provider_attempt_settlement_conflict",
        "Existing ProviderAttempt settlement does not match the final usage command", 409⟩)
    return storedSettlement fact
  | none =>
    match input.attempt.terms with
    | .cpaBasicV1 terms => settleClaimlessInvocationBilling localeCompare input terms
    | .protectedV1 terms => settleProtectedInvocationBilling input terms

/-! ### Reconciliation -/

/-- A reservation whose attempt waits for final usage; stopped exposure no longer holds units. -/
def reconcilingReservation (costExposure : ReconciledCostExposure) (transitionedAt : Timestamp)
    (reservation : UsageReservation) : UsageReservation :=
  { reservation with
    status := .reconciling
    heldUnits := match costExposure with
      | .stopped => 0
      | .accruing => reservation.heldUnits
    updatedAt := transitionedAt }

def markInvocationBillingReconciliation (billableInvocationRef : String)
    (costExposure : ReconciledCostExposure) (transitionedAt : Timestamp) :
    TransactionClient Unit := do
  let reservation ← read fun db => .ok (db.usageReservations.find? billableInvocationRef)
  if reservation.any (·.status.isOpen) then
    updateUsageReservation billableInvocationRef
      (reconcilingReservation costExposure transitionedAt) fun _ => rfl
  else pure ()

end Frely.Billing
