import Frely.Postgres.Writes

/-!
# Billing of an admission

What an admission is checked against before it may start (the account, the budgets of the Plan and
of the API key, the spendable balance), the prices it freezes, and what it occupies: a claim on
the budgets and, on a PayGo account, a reservation.
-/

namespace Frely.Billing

open Frely.Postgres Checked StableSort Transaction

/-! ### The account -/

/-- What an admission reads of the account that it locks. -/
structure LockedCreditAccount where
  id : String
  status : String
  balanceSnapUnits : Int

def CreditAccount.locked (account : CreditAccount) : LockedCreditAccount :=
  ⟨account.id, account.status, account.balanceSnapUnits⟩

/-- The account of a PayGo admission, by its id. -/
def lockCreditAccount (db : Database) (accountId : String) : Option LockedCreditAccount :=
  (db.creditAccounts.find? accountId).map CreditAccount.locked

/-- The account of a user, who may have none. -/
def lockUserCreditAccountIfPresent (db : Database) (userId : String) :
    Option LockedCreditAccount :=
  (db.creditAccounts.rows.find? (·.scopeRef = "user:" ++ userId)).map CreditAccount.locked

/-- Locks the account that pays, or else the one of the user; a negative balance stops both ways. -/
def lockInvocationBillingAdmissionFunding (db : Database) (userId : String)
    (usageChargeAccountId : Option String) : Except RelayError (Option LockedCreditAccount) := do
  let account := match truthy usageChargeAccountId with
    | some accountId => lockCreditAccount db accountId
    | none => lockUserCreditAccountIfPresent db userId
  rejectIf (∃ locked ∈ account, locked.balanceSnapUnits < 0)
    ⟨"negative_credit_balance",
      "Credit balance is negative; only balance-restoring activity is allowed", 402⟩
  match truthy usageChargeAccountId with
  | none => return account
  | some accountId => do
    rejectIf (¬account.any fun locked => locked.id = accountId && locked.status = "active")
      ⟨"usage_charge_account_not_found", "PayGo usage charge account is unavailable", 402⟩
    rejectIf (¬db.configuration.userControls.any (·.id = userId))
      ⟨"request_execution_not_found", "Provider invocation user is unavailable", 409⟩
    return account

/-! ### Budgets -/

/-- A half-open stretch of time. -/
structure BudgetWindow where
  startAt : Timestamp
  endAt : Timestamp

/-- The start belongs to the window, the end does not. -/
def BudgetWindow.contains (window : BudgetWindow) (at' : Timestamp) : Prop :=
  window.startAt ≤ at' ∧ at' < window.endAt

instance (window : BudgetWindow) (at' : Timestamp) : Decidable (window.contains at') :=
  inferInstanceAs (Decidable (_ ∧ _))

/-- The last moment that is written with a four-digit year. -/
def endOfTime : Timestamp := 253402300799999

/-- What a budget counts of facts and claims. -/
structure BudgetSelection where
  counts : FinalBillingReferences → Bool
  settled : ProviderInvocationUsageFact → Int
  claimed : BudgetClaim → Int

/-- The settled part of a budget: facts count at the time they occurred. -/
def settledIn (db : Database) (window : BudgetWindow) (selection : BudgetSelection) : Int :=
  Table.sumOf (fun fact =>
    if window.contains fact.occurredAt ∧ selection.counts fact.references then
      selection.settled fact
    else 0) db.providerInvocationUsageFacts

/-- When the attempt of a claim started. -/
def claimStartedAt (db : Database) (claim : BudgetClaim) : Option Timestamp :=
  (db.requestProviderAttempts.find? claim.providerAttemptId).map (·.startedAt)

/-- The claimed part of a budget: claims count at the start of their attempt. -/
def claimedIn (db : Database) (window : BudgetWindow) (selection : BudgetSelection) : Int :=
  Table.sumOf (fun claim =>
    if (∃ startedAt ∈ claimStartedAt db claim, window.contains startedAt) ∧
        selection.counts claim.references then
      selection.claimed claim
    else 0) db.budgetClaims

/-- `BigInt(Math.trunc(value))`. -/
def truncated (value : ℚ) : Int := value.num.tdiv value.den

/-- The window of a Plan limit that a moment falls in. -/
def fixedBudgetWindow (effectiveStart : Timestamp) (effectiveEnd : Option Timestamp)
    (windowType : BudgetWindowType) (windowSeconds : Option Int) (occurredAt : Timestamp) :
    Except RelayError BudgetWindow := do
  if windowType = .cumulative then
    return ⟨effectiveStart, effectiveEnd.getD endOfTime⟩
  else match windowSeconds.filter (0 < ·) with
    | none => throw ⟨"invalid_budget_window", "Fixed budget window is invalid", 500⟩
    | some seconds =>
      let size := seconds * 1000
      let index := max 0 ((occurredAt - effectiveStart) / size)
      return ⟨effectiveStart + index * size, effectiveStart + (index + 1) * size⟩

/-- Tokens or units, of the references a budget is about. -/
def budgetSelection (metric : BudgetMetric) (counts : FinalBillingReferences → Bool) :
    BudgetSelection :=
  match metric with
  | .tokens => ⟨counts, (·.usage.totalTokens), (·.maxTotalTokens)⟩
  | .amount => ⟨counts, (·.actualChargeUnits), (·.maxChargeUnits)⟩

/-- The admission's own part of a budget. -/
def InvocationBillingBudgetInput.maximum (input : InvocationBillingBudgetInput) :
    BudgetMetric → Int
  | .tokens => input.maximumTokens
  | .amount => input.maximumChargeUnits

/-- A Plan budget is about one subscription, and about one user of it when its scope is the user. -/
def planBudgetSelection (limit : PlanBudgetLimit) (planSubscriptionId userId : String) :
    BudgetSelection :=
  budgetSelection limit.metric fun references =>
    references.planSubscriptionId = planSubscriptionId &&
      (limit.limitScope ≠ .user || references.userId = userId)

/-- The most a budget allows; an amount budget without units allows no admission at all. -/
def budgetAllowed (metric : BudgetMetric) (limitValue : ℚ) (limitAmountUnits : Option Int) :
    Option Int :=
  match metric with
  | .tokens => some (truncated limitValue)
  | .amount => limitAmountUnits

/-- The error of a Plan budget that has no room, by its metric. -/
def planBudgetExceeded : BudgetMetric → RelayError
  | .tokens => ⟨"plan_subscription_budget_tokens_exceeded",
      "Provider invocation would exceed Plan token budget", 402⟩
  | .amount => ⟨"plan_subscription_budget_amount_exceeded",
      "Provider invocation would exceed Plan amount budget", 402⟩

/-- What is settled, what is claimed and what the admission asks for fit in the budget together. -/
def assertPlanBudget (db : Database) (input : InvocationBillingBudgetInput)
    (limit : PlanBudgetLimit) (window : BudgetWindow) : Except RelayError Unit :=
  let selection := planBudgetSelection limit input.planSubscriptionId input.userId
  match budgetAllowed limit.metric limit.limitValue limit.limitAmountUnits with
  | none => .error ⟨"budget_units_missing", "Plan amount budget has no units value", 500⟩
  | some allowed =>
    rejectIf (allowed < settledIn db window selection + claimedIn db window selection +
      input.maximum limit.metric) (planBudgetExceeded limit.metric)

/-- The windows of all limits are computed before any limit is checked. -/
def assertInvocationPlanBudgets (db : Database) (input : InvocationBillingBudgetInput) :
    Except RelayError Unit := do
  let limits := db.configuration.planBudgetLimits.filter (·.planId = input.planId)
  let windows ← limits.mapM fun limit => do
    let window ← fixedBudgetWindow input.subscriptionEffectiveStart input.subscriptionEffectiveEnd
      limit.windowType limit.windowSeconds input.occurredAt
    return (limit, window)
  forAll windows fun (limit, window) => assertPlanBudget db input limit window

/-- The enabled budget policies assigned to an API key. -/
def activeAssignments (configuration : Configuration) (apiKeyId : String) :
    List (ScopeBudgetPolicy × BudgetPolicy) :=
  (configuration.scopeBudgetPolicies.filter fun assignment =>
    assignment.scopeRef = "key:" ++ apiKeyId && assignment.status = "enabled").filterMap
      fun assignment =>
        ((configuration.budgetPolicies.find? (·.id = assignment.budgetPolicyId)).filter
          (·.status = "enabled")).map fun policy => (assignment, policy)

/-- The moment from which a policy counts. -/
def budgetPolicyStart (assignment : ScopeBudgetPolicy) (policy : BudgetPolicy)
    (occurredAt : Timestamp) : Timestamp :=
  match policy.windowSeconds.filter (· ≠ 0) with
  | none => assignment.createdAt
  | some seconds =>
    if policy.windowType = .rolling then occurredAt - seconds * 1000 else assignment.createdAt

/-- The error of a budget of an API key that has no room, by its metric. -/
def directBudgetExceeded : BudgetMetric → RelayError
  | .tokens => ⟨"budget_token_limit_exceeded",
      "Provider invocation would exceed API Key token budget", 402⟩
  | .amount => ⟨"budget_amount_limit_exceeded",
      "Provider invocation would exceed API Key amount budget", 402⟩

/-- The window of a policy ends before the moment of the admission. -/
def assertDirectBudget (db : Database) (input : InvocationBillingBudgetInput)
    (assignment : ScopeBudgetPolicy) (policy : BudgetPolicy) : Except RelayError Unit :=
  let window : BudgetWindow :=
    ⟨budgetPolicyStart assignment policy input.occurredAt, input.occurredAt⟩
  let selection := budgetSelection policy.metric (·.apiKeyId = input.apiKeyId)
  match budgetAllowed policy.metric policy.limitValue policy.limitAmountUnits with
  | none => .error ⟨"budget_units_missing", "API Key amount budget has no units value", 500⟩
  | some allowed =>
    rejectIf (allowed < settledIn db window selection + claimedIn db window selection +
      input.maximum policy.metric) (directBudgetExceeded policy.metric)

/-- Every budget that is assigned to the API key, in the order of the assignments. -/
def assertInvocationDirectBudgets (db : Database) (input : InvocationBillingBudgetInput) :
    Except RelayError Unit :=
  forAll (activeAssignments db.configuration input.apiKeyId) fun (assignment, policy) =>
    assertDirectBudget db input assignment policy

/-! ### Spendable balance -/

/-- The units that open reservations hold on an account. -/
def heldUnits (reservations : Table UsageReservation) (creditAccountId : String) : Int :=
  Table.sumOf (fun reservation =>
    if reservation.creditAccountId = creditAccountId ∧ reservation.status.isOpen then
      reservation.heldUnits
    else 0) reservations

/-- The balance that no reservation holds covers the units, and the user has a reservation left. -/
def assertInvocationBillingCapacity (db : Database) (account : LockedCreditAccount)
    (userId : String) (requiredUnits userPaygoConcurrencyLimit : Int) :
    Except RelayError Unit := do
  rejectIf (account.balanceSnapUnits - heldUnits db.usageReservations account.id < requiredUnits)
    ⟨"insufficient_credit_reservation",
      "Balance is sufficient before other holds, but spendable balance cannot cover this " ++
        "invocation reservation", 402⟩
  let activeForUser := db.usageReservations.rows.countP fun reservation =>
    reservation.userId = userId && reservation.status.isOpen
  rejectIf (userPaygoConcurrencyLimit ≤ activeForUser)
    ⟨"paygo_concurrency_limit_exceeded",
      "Personal PayGo invocation concurrency limit is reached", 429⟩

/-! ### Prices -/

/-- A price as an admission freezes it: the units, and which tier they are of. -/
structure FrozenPriceRow where
  units : FrozenPriceUnits
  serviceTier : String
  tierKey : String
  snapshotJson : FrozenPriceSnapshotDocument

/-- The tier is enabled and its bounds, which belong to it, are around the input tokens. -/
def tierCovers (inputTokens : Int) (tier : InvocationPriceProfileTierInput) : Bool :=
  tier.status = "enabled" && tier.minInputTokens ≤ inputTokens &&
    tier.maxInputTokens.all (inputTokens ≤ ·)

/-- The covering tier of a service tier that starts highest. -/
def mostSpecificTier (tiers : List InvocationPriceProfileTierInput) (inputTokens : Int)
    (serviceTier : String) : Option InvocationPriceProfileTierInput :=
  (sortBy (fun left right => compare right.minInputTokens left.minInputTokens)
    ((tiers.filter (tierCovers inputTokens)).filter (·.serviceTier = serviceTier))).head?

/-- The units of the most specific tier, or the base price for standard input below all tiers. -/
def freezePriceRow (base : InvocationPriceProfileInput) (inputTokens : Int)
    (serviceTier : String) : Except RelayError FrozenPriceRow := do
  rejectIf (base.status ≠ "enabled")
    ⟨"billable_price_changed", "Billable price is no longer enabled", 409⟩
  let requestedTier := mostSpecificTier base.tiers inputTokens serviceTier
  let standardTier := mostSpecificTier base.tiers inputTokens "standard"
  rejectIf (serviceTier ≠ "standard" ∧ requestedTier = none)
    ⟨"price_service_tier_unavailable",
      "The requested Provider service tier has no frozen price contract", 409⟩
  let allStandardTiers := sortBy (fun left right =>
    compare left.minInputTokens right.minInputTokens)
    (base.tiers.filter fun tier => tier.status = "enabled" && tier.serviceTier = "standard")
  let baseCoversStandardInput := allStandardTiers.head?.all (inputTokens < ·.minInputTokens)
  rejectIf (serviceTier = "standard" ∧ standardTier = none ∧ ¬baseCoversStandardInput)
    ⟨"price_tier_not_available",
      "No enabled standard price tier covers the admitted input tokens", 409⟩
  let tier := requestedTier <|> standardTier
  let units := (tier.map (·.toFrozenPriceUnits)).getD base.toFrozenPriceUnits
  let serviceTier := (tier.map (·.serviceTier)).getD "standard"
  let tierKey := (tier.map (·.tierKey)).getD "legacy_flat"
  return ⟨units, serviceTier, tierKey, encodeFrozenPriceUnits units serviceTier tierKey⟩

/-- The billable price, if it still belongs to the admitted Plan and entry AccessPoint. -/
def loadBillablePrice (configuration : Configuration) (input : InvocationPriceInput) :
    Except RelayError InvocationPriceProfileInput :=
  let entry := input.accessPointPriceContexts.head?.map (·.accessPointId)
  let base := match input.billablePriceSource with
    | .accessPoint =>
      (configuration.accessPointPrices.find? fun price =>
        price.id = input.billablePriceId && entry = some price.accessPointId).map
          (·.toInvocationPriceProfileInput)
    | .planAccessPoint =>
      (configuration.planAccessPointPrices.find? fun price =>
        price.id = input.billablePriceId && price.planId = input.planId &&
          entry = some price.accessPointId).map (·.toInvocationPriceProfileInput)
  match base with
  | none => .error ⟨"billable_price_changed",
      "Billable price no longer belongs to the admitted Plan and entry AccessPoint", 409⟩
  | some base => .ok base

/-- The Provider cost, if it still belongs to the admitted Provider model. -/
def loadProviderCost (configuration : Configuration) (input : InvocationPriceInput) :
    Except RelayError InvocationPriceProfileInput :=
  match configuration.providerModelCosts.find? fun cost =>
      cost.id = input.providerModelCostId && cost.providerId = input.providerId &&
        cost.providerModelName = input.providerModelName with
  | none => .error ⟨"access_configuration_changed",
      "Provider cost no longer belongs to the admitted ProviderModel", 409⟩
  | some cost => .ok cost.toInvocationPriceProfileInput

/-- The price of an AccessPoint of the path, if it is still its price. -/
def loadAccessPointPrice (configuration : Configuration) (context : AccessPointPriceContext) :
    Except RelayError InvocationPriceProfileInput :=
  match configuration.accessPointPrices.find? fun price =>
      price.id = context.priceId && price.accessPointId = context.accessPointId with
  | none => .error ⟨"access_configuration_changed",
      "AccessPoint price no longer belongs to the admitted path", 409⟩
  | some price => .ok price.toInvocationPriceProfileInput

/-- Without any AccessPoint price to read the price query is refused. -/
def assertPriceReferences (input : InvocationPriceInput) : Except RelayError Unit :=
  rejectIf (input.accessPointPriceContexts = [] ∧ input.billablePriceSource = .planAccessPoint)
    ⟨"access_configuration_changed",
      "Provider invocation has no AccessPoint price references", 409⟩

/-- The prices that a protected admission freezes. -/
structure InvocationBillingFinancialTerms where
  price : FrozenPriceRow
  providerCost : FrozenPriceRow
  accessPointPrices : List FrozenAccessPointPriceEvidence

/-- Freezes the billable price, the Provider cost and the price of every AccessPoint of the path. -/
def prepareInvocationBillingFinancialTerms (configuration : Configuration)
    (input : InvocationPriceInput) (inputTokens : Int) (serviceTier : String) :
    Except RelayError InvocationBillingFinancialTerms := do
  assertPriceReferences input
  let price ← freezePriceRow (← loadBillablePrice configuration input) inputTokens serviceTier
  let providerCost ←
    freezePriceRow (← loadProviderCost configuration input) inputTokens serviceTier
  let accessPointPrices ← input.accessPointPriceContexts.mapM fun context => do
    let frozen ←
      freezePriceRow (← loadAccessPointPrice configuration context) inputTokens serviceTier
    return ⟨context.accessPointId, context.targetAccessPointId, context.buyerScopeRef,
      context.sellerScopeRef, context.priceId, frozen.tierKey, frozen.snapshotJson⟩
  return ⟨price, providerCost, accessPointPrices⟩

/-- The whole profiles that a claimless admission freezes. -/
structure ClaimlessInvocationBillingFinancialTerms where
  billablePriceProfileJson : FrozenPriceProfileDocument
  providerCostProfileJson : FrozenPriceProfileDocument
  accessPointPriceProfilesJson : List FrozenAccessPointPriceProfile

/-- Freezes profiles instead of prices: the input tokens are only known at the settlement. -/
def prepareClaimlessInvocationBillingFinancialTerms
    (localeCompare : String → String → Ordering) (configuration : Configuration)
    (input : InvocationPriceInput) :
    Except RelayError ClaimlessInvocationBillingFinancialTerms := do
  assertPriceReferences input
  let price ← loadBillablePrice configuration input
  let providerCost ← loadProviderCost configuration input
  let accessPointProfiles ← input.accessPointPriceContexts.mapM fun context => do
    let profile ←
      encodeFrozenPriceProfile localeCompare (← loadAccessPointPrice configuration context)
    return ⟨context.accessPointId, context.targetAccessPointId, context.buyerScopeRef,
      context.sellerScopeRef, context.priceId, profile⟩
  let billablePriceProfile ← encodeFrozenPriceProfile localeCompare price
  let providerCostProfile ← encodeFrozenPriceProfile localeCompare providerCost
  return ⟨billablePriceProfile, providerCostProfile, accessPointProfiles⟩

/-! ### Occupation -/

/-- Texts of 1 to 256 code units. -/
def boundedEvidenceIdentity (value : String) : Bool :=
  1 ≤ utf16Length value && utf16Length value ≤ 256

/-- The reservation of an admission on a PayGo account. -/
def newUsageReservation (input : InvocationBillingOccupationInput) (id creditAccountId : String) :
    UsageReservation where
  id := id
  providerAttemptId := input.billableInvocationRef
  requestId := input.references.requestId
  creditAccountId := creditAccountId
  planSubscriptionId := input.references.planSubscriptionId
  userId := input.references.userId
  status := .active
  reservationUnits := input.maximumChargeUnits
  heldUnits := input.maximumChargeUnits
  inputTokens := input.terms.inputTokens
  maxOutputTokens := input.terms.maxOutputTokens
  tokenizerId := input.terms.tokenizerId
  tokenizerVersion := input.terms.tokenizerVersion
  preparationEvidenceId := input.terms.preparationEvidenceId
  preparationEvidenceVersion := input.terms.preparationEvidenceVersion
  preparedPayloadId := input.terms.preparedPayloadId
  serviceTier := input.serviceTier
  billablePriceSource := input.billablePriceSource
  billablePriceId := input.billablePriceId
  billablePriceTierKey := input.terms.billablePriceTierKey
  priceSnapshotJson := input.terms.billablePriceSnapshotJson
  postingLedgerEventId := none
  createdAt := input.createdAt
  updatedAt := input.createdAt

/-- The claim of an admission on the budgets, up to its maximums. -/
def newBudgetClaim (input : InvocationBillingOccupationInput) : BudgetClaim where
  providerAttemptId := input.billableInvocationRef
  references := input.references
  planId := input.planId
  maxTotalTokens := input.maximumTokens
  maxChargeUnits := input.maximumChargeUnits
  createdAt := input.createdAt

/-- Claims the budgets and reserves the charge; the reservation's id, if there is one. -/
def createInvocationBillingOccupation (input : InvocationBillingOccupationInput) :
    TransactionClient (Option String) := do
  check (rejectIf (input.terms.maxOutputTokens < 1 ∨
      ¬boundedEvidenceIdentity input.terms.preparationEvidenceId ∨
      ¬IsSafeInteger input.terms.preparationEvidenceVersion ∨
      input.terms.preparationEvidenceVersion < 1 ∨
      ¬boundedEvidenceIdentity input.terms.preparedPayloadId)
    ⟨"invalid_cpa_preparation_evidence",
      "CPA preparation identity, version, payload binding, and positive output cap are required",
      400⟩)
  createBudgetClaim (newBudgetClaim input)
  match truthy input.usageChargeAccountId with
  | none => return none
  | some creditAccountId => do
    let usageReservationId ← createId "usage_reservation"
    createUsageReservation (newUsageReservation input usageReservationId creditAccountId)
    return some usageReservationId

end Frely.Billing
