import Frely.Billing.Equiv.InvocationCharge
import Frely.Billing.Settlement

/-!
# What a settlement does

`settleInvocationBilling_eq_ok`: a settlement that returned either found the fact of the same usage
and changed nothing, or it is `Settled`: it inserted one billing event and one fact, posted at most
one charge, and took away the claim and the hold of the attempt.

The tables that only reports read (`SameButReports`) are left open.
-/

namespace Frely.Billing

open Frely.Postgres Frely.RequestExecution Checked Transaction

variable {s s' : Session Database}

/-! ### Reports -/

variable {u : Unit} {attempt : InvocationBillingAttemptSnapshot} {billingEventId : String}
  {usage : InvocationUsageUnits} {terms : SettlementTerms}

/-- Two databases that differ in no table but those that are only written. -/
def SameButReports (db db' : Database) : Prop :=
  db' = { db with
    billingHistoryRefs := db'.billingHistoryRefs
    billingProviderCostEvents := db'.billingProviderCostEvents
    billingAccessPointEdges := db'.billingAccessPointEdges
    sellerSettlementEvents := db'.sellerSettlementEvents }

theorem SameButReports.refl (db : Database) : SameButReports db db := rfl

theorem SameButReports.trans {db₁ db₂ db₃ : Database} (h₁ : SameButReports db₁ db₂)
    (h₂ : SameButReports db₂ db₃) : SameButReports db₁ db₃ := by
  unfold SameButReports at h₁ h₂ ⊢
  cases db₁
  cases db₂
  cases db₃
  simp_all

theorem insertSellerSettlement_eq_ok {attempt : InvocationBillingAttemptSnapshot}
    {billingEventId planSubscriptionId : String} {eventType : SellerSettlementEventType}
    {amountUnits : Int} {u : Unit}
    (h : insertSellerSettlement attempt billingEventId planSubscriptionId eventType amountUnits s =
      .ok (u, s')) : SameButReports s.database s'.database := by
  unfold insertSellerSettlement at h
  obtain ⟨id, s₁, hid, h⟩ := run_bind.mp h
  obtain ⟨-, rows, -, hset⟩ := create_eq_ok h
  rw [hset, createId_eq_ok hid]
  rfl

theorem createAccessPointEdge_eq_ok {requestId : String}
    {entry : FrozenAccessPointPriceEvidence × Nat}
    (h : createAccessPointEdge attempt requestId usage entry s = .ok (u, s')) :
    SameButReports s.database s'.database := by
  unfold createAccessPointEdge at h
  obtain ⟨amountUnits, -, h⟩ := run_check_bind.mp h
  obtain ⟨_, -, h⟩ := run_check_bind.mp h
  obtain ⟨id, s₁, hid, h⟩ := run_bind.mp h
  obtain ⟨-, rows, -, hset⟩ := create_eq_ok h
  rw [hset, createId_eq_ok hid]
  rfl

theorem createSellerRevenue_eq_ok
    (h : createSellerRevenue attempt billingEventId terms s = .ok (u, s')) :
    SameButReports s.database s'.database := by
  unfold createSellerRevenue at h
  split_ifs at h
  · exact insertSellerSettlement_eq_ok h
  · obtain ⟨-, rfl⟩ := run_pure.mp h
    exact .refl s'.database

theorem createSellerUpstreamCost_eq_ok
    (h : createSellerUpstreamCost attempt billingEventId terms usage s = .ok (u, s')) :
    SameButReports s.database s'.database := by
  unfold createSellerUpstreamCost at h
  cases hentry : terms.accessPointPrices.head?.filter
      (·.sellerScopeRef ≠ attempt.planSellerScopeRef) with
  | none =>
    simp only [hentry] at h
    obtain ⟨-, rfl⟩ := run_pure.mp h
    exact .refl s'.database
  | some entry =>
    simp only [hentry] at h
    obtain ⟨amountUnits, -, h⟩ := run_check_bind.mp h
    split_ifs at h
    · exact insertSellerSettlement_eq_ok h
    · obtain ⟨-, rfl⟩ := run_pure.mp h
      exact .refl s'.database

theorem createFinalBillingFacts_eq_ok
    (h : createFinalBillingFacts billingEventId attempt terms usage s = .ok (u, s')) :
    ∃ billingEvents,
      s.database.billingEvents.insert? (newBillingEvent billingEventId attempt terms usage) =
        some billingEvents ∧
      SameButReports { s.database with billingEvents := billingEvents } s'.database := by
  unfold createFinalBillingFacts at h
  obtain ⟨_, -, h⟩ := run_check_bind.mp h
  obtain ⟨_, -, h⟩ := run_check_bind.mp h
  obtain ⟨_, -, h⟩ := run_check_bind.mp h
  obtain ⟨_, s₁, hevent, h⟩ := run_bind.mp h
  obtain ⟨_, s₂, hhistory, h⟩ := run_bind.mp h
  obtain ⟨costId, s₃, hcostId, h⟩ := run_bind.mp h
  obtain ⟨_, s₄, hcost, h⟩ := run_bind.mp h
  obtain ⟨_, s₅, hedges, h⟩ := run_bind.mp h
  obtain ⟨_, s₆, hrevenue, hupstream⟩ := run_bind.mp h
  obtain ⟨-, billingEvents, hinsert, hset₁⟩ := create_eq_ok hevent
  obtain ⟨-, _, -, hset₂⟩ := create_eq_ok hhistory
  obtain ⟨-, _, -, hset₄⟩ := create_eq_ok hcost
  rw [createId_eq_ok hcostId] at hset₄
  refine ⟨billingEvents, hinsert, ?_⟩
  have h₂ : SameButReports { s.database with billingEvents := billingEvents } s₂.database := by
    rw [hset₂, hset₁]
    rfl
  have h₄ : SameButReports s₂.database s₄.database := by
    rw [hset₄]
    rfl
  have h₅ : SameButReports s₄.database s₅.database :=
    forEach_preserves SameButReports.refl SameButReports.trans createAccessPointEdge_eq_ok hedges
  exact h₂.trans (h₄.trans (h₅.trans ((createSellerRevenue_eq_ok hrevenue).trans
    (createSellerUpstreamCost_eq_ok hupstream))))

/-! ### The charge -/

variable {db : Database} {locked : LockedCreditAccount} {postingLedgerEventId : Option String}

/-- The charge of a fact: one ledger event, by which the balance of its account changes, or
nothing. -/
inductive PostedCharge (reservations : Table UsageReservation) (ledger : Table CreditLedgerEvent)
    (accounts : Table CreditAccount) (fact : ProviderInvocationUsageFact) :
    Table CreditLedgerEvent → Table CreditAccount → Prop where
  | nothing (hposting : fact.postingLedgerEventId = none)
      (hfree : ∀ reservation, reservations.find? fact.providerAttemptId = some reservation →
        fact.actualChargeUnits ≤ 0) :
      PostedCharge reservations ledger accounts fact ledger accounts
  | posted (event : CreditLedgerEvent) (hposting : fact.postingLedgerEventId = some event.id)
      (hpositive : 0 < fact.actualChargeUnits)
      (hamount : event.amountUnits = -fact.actualChargeUnits)
      (hattempt : event.providerAttemptId = fact.providerAttemptId)
      (hevent : event.billingEventId = fact.billingEventId)
      (hreserved : ∀ reservation,
        reservations.find? fact.providerAttemptId = some reservation →
          event.accountId = reservation.creditAccountId)
      (ledger' : Table CreditLedgerEvent) (hinsert : ledger.insert? event = some ledger')
      (hunique : ∀ other ∈ ledger, other.providerAttemptId ≠ event.providerAttemptId)
      (account account' : CreditAccount)
      (hfind : accounts.find? event.accountId = some account) (hkey : account'.id = account.id)
      (hbalance : account'.balanceSnapUnits = account.balanceSnapUnits + event.amountUnits)
      (accounts' : Table CreditAccount) (hset : accounts.Sets account' accounts') :
      PostedCharge reservations ledger accounts fact ledger' accounts'

theorem lockCreditAccount_eq_some {accountId : String}
    (h : lockCreditAccount db accountId = some locked) :
    locked.id = accountId ∧ ∃ account, db.creditAccounts.find? accountId = some account ∧
      locked = CreditAccount.locked account := by
  obtain ⟨account, hfind, rfl⟩ := Option.map_eq_some_iff.mp h
  exact ⟨Table.key_of_find? hfind, account, hfind, rfl⟩

/-- The account a settlement is charged to has the balance it was locked with, and is the one a
reservation was made on. -/
theorem lockInvocationBillingSettlementAccount_eq_some {providerAttemptId : String}
    (h : lockInvocationBillingSettlementAccount db providerAttemptId = some locked) :
    (∃ account, db.creditAccounts.find? locked.id = some account ∧
      locked = CreditAccount.locked account) ∧
    ∀ reservation, db.usageReservations.find? providerAttemptId = some reservation →
      locked.id = reservation.creditAccountId := by
  unfold lockInvocationBillingSettlementAccount at h
  cases hreservation : db.usageReservations.find? providerAttemptId with
  | some reservation =>
    rw [hreservation] at h
    obtain ⟨hid, account, hfind, hlocked⟩ := lockCreditAccount_eq_some h
    refine ⟨⟨account, hid ▸ hfind, hlocked⟩, ?_⟩
    rintro _ ⟨⟩
    exact hid
  | none =>
    refine ⟨?_, by simp⟩
    rw [hreservation] at h
    dsimp only at h
    split at h
    · cases h
    · split at h
      · obtain ⟨accountId, -, hlock⟩ := Option.bind_eq_some_iff.mp h
        obtain ⟨hid, account, hfind, hlocked⟩ := lockCreditAccount_eq_some hlock
        exact ⟨account, hid ▸ hfind, hlocked⟩
      · cases h

variable {input : SettleInvocationBillingInput} {terms : SettlementTerms} {billingEventId : String}
  {actorUserId : Option String}

theorem appendUsageCharge_eq_ok {id : String}
    (haccount : input.account =
      lockInvocationBillingSettlementAccount s.database input.billableInvocationRef)
    (hpositive : 0 < terms.actualChargeUnits)
    (h : appendUsageCharge input terms billingEventId actorUserId s = .ok (id, s')) :
    ∃ ledger accounts,
      PostedCharge s.database.usageReservations s.database.creditLedgerEvents
        s.database.creditAccounts (newUsageFact input terms billingEventId (some id)) ledger
        accounts ∧
      s'.database = { s.database with
        creditLedgerEvents := ledger
        creditAccounts := accounts } := by
  unfold appendUsageCharge at h
  cases hlocked : input.account with
  | none =>
    simp only [hlocked] at h
    exact absurd (check_eq_ok.mp h).1 (by simp)
  | some locked =>
    simp only [hlocked] at h
    obtain ⟨ledgerId, s₁, hid, h⟩ := run_bind.mp h
    obtain ⟨_, s₂, hevent, h⟩ := run_bind.mp h
    obtain ⟨_, s₃, hcharge, h⟩ := run_bind.mp h
    obtain ⟨rfl, rfl⟩ := run_pure.mp h
    obtain ⟨haccepts, ledger, hinsert, hset₂⟩ := create_eq_ok hevent
    obtain ⟨account, hfind, -, hset₃⟩ := update_eq_ok hcharge
    rw [createId_eq_ok hid] at haccepts hinsert hset₂
    rw [hset₂] at hfind hset₃
    rw [haccount] at hlocked
    obtain ⟨⟨found, hfound, hbalance⟩, hreserved⟩ :=
      lockInvocationBillingSettlementAccount_eq_some hlocked
    cases hfound.symm.trans hfind
    have hunique : ∀ other ∈ s.database.creditLedgerEvents,
        other.providerAttemptId ≠ input.billableInvocationRef := by
      intro other hother
      exact of_decide_eq_true (List.all_eq_true.mp haccepts other hother)
    have hbalance' : locked.balanceSnapUnits - terms.actualChargeUnits =
        account.balanceSnapUnits + -terms.actualChargeUnits := by
      rw [hbalance]
      exact sub_eq_add_neg account.balanceSnapUnits terms.actualChargeUnits
    have hcharged := Table.sets_modify hfound
      (chargedAccount locked terms.actualChargeUnits id input.settledAt) fun _ => rfl
    exact ⟨ledger, _, .posted _ rfl hpositive rfl rfl rfl hreserved ledger hinsert hunique account
      (chargedAccount locked terms.actualChargeUnits id input.settledAt account) hfound rfl
      hbalance' _ hcharged, hset₃⟩

theorem postUsageCharge_eq_ok {charged : Bool} {postingLedgerEventId : Option String}
    (haccount : input.account =
      lockInvocationBillingSettlementAccount s.database input.billableInvocationRef)
    (hpositive : charged = true → 0 < terms.actualChargeUnits)
    (hfree : charged = false → ∀ reservation,
      s.database.usageReservations.find? input.billableInvocationRef = some reservation →
        terms.actualChargeUnits ≤ 0)
    (h : postUsageCharge input terms billingEventId charged actorUserId s =
      .ok (postingLedgerEventId, s')) :
    ∃ ledger accounts,
      PostedCharge s.database.usageReservations s.database.creditLedgerEvents
        s.database.creditAccounts
        (newUsageFact input terms billingEventId postingLedgerEventId) ledger accounts ∧
      s'.database = { s.database with
        creditLedgerEvents := ledger
        creditAccounts := accounts } := by
  unfold postUsageCharge at h
  cases charged with
  | true =>
    rw [if_pos rfl, map_eq_pure_bind] at h
    obtain ⟨id, s₁, hcharge, h⟩ := run_bind.mp h
    obtain ⟨rfl, rfl⟩ := run_pure.mp h
    exact appendUsageCharge_eq_ok haccount (hpositive rfl) hcharge
  | false =>
    rw [if_neg Bool.false_ne_true] at h
    obtain ⟨rfl, rfl⟩ := run_pure.mp h
    exact ⟨_, _, .nothing rfl (hfree rfl), rfl⟩

/-! ### Booking -/

variable {result : InvocationBillingSettlementResult}

/-- What booking a settlement changes. -/
structure Booked (db : Database) (fact : ProviderInvocationUsageFact) (db' : Database) : Prop where
  facts : db.providerInvocationUsageFacts.insert? fact = some db'.providerInvocationUsageFacts
  accepted : acceptsFact db fact
  event : ∃ event : BillingEvent, event.id = fact.billingEventId ∧
    event.billableAmountUnits = fact.actualChargeUnits ∧ event.usage = fact.usage ∧
    db.billingEvents.insert? event = some db'.billingEvents
  charge : PostedCharge db.usageReservations db.creditLedgerEvents db.creditAccounts fact
    db'.creditLedgerEvents db'.creditAccounts
  frame : db' = { db with
    creditAccounts := db'.creditAccounts
    providerInvocationUsageFacts := db'.providerInvocationUsageFacts
    billingEvents := db'.billingEvents
    billingHistoryRefs := db'.billingHistoryRefs
    billingProviderCostEvents := db'.billingProviderCostEvents
    billingAccessPointEdges := db'.billingAccessPointEdges
    sellerSettlementEvents := db'.sellerSettlementEvents
    creditLedgerEvents := db'.creditLedgerEvents }

theorem bookSettlement_eq_ok {charged : Bool}
    (haccount : input.account = lockInvocationBillingSettlementAccount s.database
      input.billableInvocationRef)
    (hpositive : charged = true → 0 < terms.actualChargeUnits)
    (hfree : charged = false → ∀ reservation, s.database.usageReservations.find?
      input.billableInvocationRef = some reservation → terms.actualChargeUnits ≤ 0)
    (h : bookSettlement input terms charged actorUserId s = .ok (result, s')) :
    result.actualChargeUnits = terms.actualChargeUnits ∧ result.replayed = false ∧
      Booked s.database
        (newUsageFact input terms result.billingEventId result.postingLedgerEventId)
        s'.database := by
  unfold bookSettlement at h
  obtain ⟨eventId, s₁, hid, h⟩ := run_bind.mp h
  obtain ⟨_, s₂, hbilling, h⟩ := run_bind.mp h
  obtain ⟨posting, s₃, hcharge, h⟩ := run_bind.mp h
  obtain ⟨_, s₄, hfact, h⟩ := run_bind.mp h
  obtain ⟨rfl, rfl⟩ := run_pure.mp h
  obtain ⟨events, hevent, hsame⟩ := createFinalBillingFacts_eq_ok hbilling
  rw [createId_eq_ok hid] at hevent hsame
  unfold SameButReports at hsame
  -- the billing event leaves the account and the reservations as they were read
  have haccount₂ : input.account =
      lockInvocationBillingSettlementAccount s₂.database input.billableInvocationRef := by
    rw [haccount, hsame]
    rfl
  have hfree₂ : charged = false → ∀ reservation,
      s₂.database.usageReservations.find? input.billableInvocationRef = some reservation →
        terms.actualChargeUnits ≤ 0 := by
    rw [hsame]
    exact hfree
  obtain ⟨ledger, accounts, hposted, hset₃⟩ :=
    postUsageCharge_eq_ok haccount₂ hpositive hfree₂ hcharge
  obtain ⟨haccepts, facts, hinsert, hset₄⟩ := create_eq_ok hfact
  rw [hset₃] at haccepts hinsert hset₄
  rw [hsame] at haccepts hinsert hset₄ hposted
  refine ⟨rfl, rfl, ?_⟩
  exact {
    facts := by
      rw [hset₄]
      exact hinsert
    accepted := haccepts
    event := by
      refine ⟨newBillingEvent eventId input.attempt terms input.usage, rfl, rfl, rfl, ?_⟩
      rw [hset₄]
      exact hevent
    charge := by
      rw [hset₄]
      exact hposted
    frame := by
      rw [hset₄]
      rfl }

/-! ### Terms -/

variable {protectedTerms : ProtectedInvocationTerms} {localeCompare : String → String → Ordering}
  {claimlessTerms : ClaimlessInvocationTerms}

/-- A usage without any token. -/
structure NoTokens (usage : InvocationUsageUnits) : Prop where
  input : usage.inputTokens = 0
  cached : usage.cachedInputTokens = 0
  cacheWrite : usage.cacheWriteTokens = 0
  output : usage.outputTokens = 0

theorem tokenChargeUnits_zero {price c : Int} (h : tokenChargeUnits 0 price = .ok c) : c = 0 := by
  obtain ⟨-, -, hcharge, -⟩ := tokenChargeUnits_eq_ok_iff.mp h
  rw [← hcharge, zero_mul, RoundUp.divUp_zero usdUnitsPerCredit_pos]

theorem actualInvocationChargeUnits_of_noTokens {price : FrozenPriceUnits} {c : Int}
    (hnone : NoTokens usage) (h : actualInvocationChargeUnits usage price = .ok c) : c = 0 := by
  have huncached : usage.uncachedInputTokens = 0 := by
    rw [InvocationUsageUnits.uncachedInputTokens, hnone.input, hnone.cached, hnone.cacheWrite]
    rfl
  unfold actualInvocationChargeUnits at h
  rw [huncached, hnone.cached, hnone.cacheWrite, hnone.output] at h
  obtain ⟨_, -, h⟩ := bind_eq_ok.mp h
  obtain ⟨_, -, h⟩ := bind_eq_ok.mp h
  obtain ⟨uncached, huncached, h⟩ := bind_eq_ok.mp h
  obtain ⟨cached, hcached, h⟩ := bind_eq_ok.mp h
  obtain ⟨cacheWrite, hcacheWrite, h⟩ := bind_eq_ok.mp h
  obtain ⟨output, houtput, h⟩ := bind_eq_ok.mp h
  rw [tokenChargeUnits_zero huncached, tokenChargeUnits_zero hcached,
    tokenChargeUnits_zero hcacheWrite, tokenChargeUnits_zero houtput] at h
  exact (Except.ok.inj h).symm

theorem snapshotChargeUnits_of_noTokens {snapshot : FrozenPriceSnapshotDocument} {c : Int}
    (hnone : NoTokens usage) (h : snapshotChargeUnits usage snapshot = .ok c) : c = 0 := by
  obtain ⟨price, -, hcharge⟩ := bind_eq_ok.mp h
  exact actualInvocationChargeUnits_of_noTokens hnone hcharge

/-- A protected settlement is booked on its claim's references; without tokens it is free. -/
theorem protectedSettlementTerms_eq_ok {claim : BudgetClaim} {reservation : Option UsageReservation}
    {outcome : ZeroReservationOutcome}
    (h : protectedSettlementTerms protectedTerms claim reservation usage outcome = .ok terms) :
    terms.references = claim.references ∧ (NoTokens usage → terms.actualChargeUnits = 0) := by
  unfold protectedSettlementTerms at h
  obtain ⟨_, -, h⟩ := bind_eq_ok.mp h
  obtain ⟨prices, -, h⟩ := bind_eq_ok.mp h
  obtain ⟨_, -, h⟩ := bind_eq_ok.mp h
  obtain ⟨charge, hcharge, h⟩ := bind_eq_ok.mp h
  obtain ⟨cost, -, h⟩ := bind_eq_ok.mp h
  cases h
  refine ⟨rfl, ?_⟩
  intro hnone
  cases outcome with
  | released => exact (Except.ok.inj hcharge).symm
  | settled => exact snapshotChargeUnits_of_noTokens hnone hcharge

theorem claimlessSettlementTerms_eq_ok
    (h : claimlessSettlementTerms localeCompare attempt claimlessTerms usage = .ok terms) :
    terms.references = ⟨attempt.requestId, claimlessTerms.planSubscriptionId,
        claimlessTerms.apiKeyId, claimlessTerms.userId⟩ ∧
      (NoTokens usage → terms.actualChargeUnits = 0) := by
  unfold claimlessSettlementTerms at h
  obtain ⟨billable, -, h⟩ := bind_eq_ok.mp h
  obtain ⟨cost, -, h⟩ := bind_eq_ok.mp h
  obtain ⟨prices, -, h⟩ := bind_eq_ok.mp h
  obtain ⟨_, -, h⟩ := bind_eq_ok.mp h
  obtain ⟨charge, hcharge, h⟩ := bind_eq_ok.mp h
  obtain ⟨costUnits, -, h⟩ := bind_eq_ok.mp h
  cases h
  exact ⟨rfl, fun hnone => actualInvocationChargeUnits_of_noTokens hnone hcharge⟩

/-! ### Settlement -/

/-- The references and the occupation a settlement found: a claim to replace, for a protected
attempt, and neither claim nor reservation for a `cpa-basic@1` attempt. -/
def SettledOccupation (db : Database) (input : SettleInvocationBillingInput)
    (fact : ProviderInvocationUsageFact) : Prop :=
  match input.attempt.terms with
  | .protectedV1 _ => ∃ claim, db.budgetClaims.find? fact.providerAttemptId = some claim ∧
      fact.references = claim.references
  | .cpaBasicV1 terms => db.budgetClaims.find? fact.providerAttemptId = none ∧
      db.usageReservations.find? fact.providerAttemptId = none ∧
      fact.references =
        ⟨input.attempt.requestId, terms.planSubscriptionId, terms.apiKeyId, terms.userId⟩

/-- The reservations after the one of a settled attempt ended. -/
def endedReservations (input : SettleInvocationBillingInput) (postingLedgerEventId : Option String)
    (reservations : Table UsageReservation) : Table UsageReservation :=
  reservations.modify input.billableInvocationRef
    (endedReservation input.zeroReservationOutcome postingLedgerEventId input.settledAt)
    fun _ => rfl

/-- What a settlement of an attempt without final usage changes. -/
structure Settled (db : Database) (input : SettleInvocationBillingInput)
    (fact : ProviderInvocationUsageFact) (db' : Database) : Prop where
  attempt : fact.providerAttemptId = input.billableInvocationRef
  usage : fact.usage = input.usage
  occurredAt : fact.occurredAt = input.attempt.startedAt
  facts : db.providerInvocationUsageFacts.insert? fact = some db'.providerInvocationUsageFacts
  accepted : acceptsFact db fact
  event : ∃ event : BillingEvent, event.id = fact.billingEventId ∧
    event.billableAmountUnits = fact.actualChargeUnits ∧ event.usage = fact.usage ∧
    db.billingEvents.insert? event = some db'.billingEvents
  charge : PostedCharge db.usageReservations db.creditLedgerEvents db.creditAccounts fact
    db'.creditLedgerEvents db'.creditAccounts
  occupation : SettledOccupation db input fact
  claims : db'.budgetClaims = db.budgetClaims.erase fact.providerAttemptId
  wasOpen : ∀ reservation, db.usageReservations.find? fact.providerAttemptId = some reservation →
    reservation.status.isOpen
  reservations : db'.usageReservations =
    endedReservations input fact.postingLedgerEventId db.usageReservations
  free : NoTokens input.usage → fact.actualChargeUnits = 0
  frame : db' = { db with
    creditAccounts := db'.creditAccounts
    budgetClaims := db'.budgetClaims
    usageReservations := db'.usageReservations
    providerInvocationUsageFacts := db'.providerInvocationUsageFacts
    billingEvents := db'.billingEvents
    billingHistoryRefs := db'.billingHistoryRefs
    billingProviderCostEvents := db'.billingProviderCostEvents
    billingAccessPointEdges := db'.billingAccessPointEdges
    sellerSettlementEvents := db'.sellerSettlementEvents
    creditLedgerEvents := db'.creditLedgerEvents }

theorem deleteBudgetClaim_eq_ok {providerAttemptId : String}
    (h : deleteBudgetClaim providerAttemptId s = .ok (u, s')) :
    s'.database = { s.database with
      budgetClaims := s.database.budgetClaims.erase providerAttemptId } := by
  have hwrite := write_eq_ok h
  split_ifs at hwrite
  exact (Option.some.inj hwrite).symm

theorem endUsageReservation_eq_ok {postingLedgerEventId : Option String} {u : Unit}
    (h : endUsageReservation input
      (s.database.usageReservations.find? input.billableInvocationRef) postingLedgerEventId s =
        .ok (u, s')) :
    (∀ reservation, s.database.usageReservations.find? input.billableInvocationRef =
        some reservation → reservation.status.isOpen) ∧
      s'.database = { s.database with
        usageReservations :=
          endedReservations input postingLedgerEventId s.database.usageReservations } := by
  unfold endUsageReservation at h
  cases hfind : s.database.usageReservations.find? input.billableInvocationRef with
  | none =>
    rw [hfind] at h
    obtain ⟨-, rfl⟩ := run_pure.mp h
    have hsame : endedReservations input postingLedgerEventId s'.database.usageReservations =
        s'.database.usageReservations := Table.modify_of_find?_none hfind
    rw [hsame]
    exact ⟨by simp, rfl⟩
  | some reservation =>
    rw [hfind] at h
    obtain ⟨found, hfound, haccepts, hset⟩ := update_eq_ok h
    cases hfind.symm.trans hfound
    refine ⟨?_, hset⟩
    rintro _ ⟨⟩
    simp only [acceptsReservationUpdate, Bool.and_eq_true] at haccepts
    exact haccepts.1.1.1.1

/-- A booked settlement that took the claim and ended the reservation. -/
theorem Booked.settled {db db₁ db' : Database} {fact : ProviderInvocationUsageFact}
    (hbooked : Booked db fact db₁) (hattempt : fact.providerAttemptId = input.billableInvocationRef)
    (husage : fact.usage = input.usage) (hoccurred : fact.occurredAt = input.attempt.startedAt)
    (hfree : NoTokens input.usage → fact.actualChargeUnits = 0)
    (hoccupation : SettledOccupation db input fact)
    (hopen : ∀ reservation, db.usageReservations.find? fact.providerAttemptId = some reservation →
      reservation.status.isOpen)
    (hset : db' = { db₁ with
      budgetClaims := db₁.budgetClaims.erase fact.providerAttemptId
      usageReservations :=
        endedReservations input fact.postingLedgerEventId db₁.usageReservations }) :
    Settled db input fact db' := by
  have hframe := hbooked.frame
  have hclaims : db₁.budgetClaims = db.budgetClaims := by rw [hframe]
  have hreservations : db₁.usageReservations = db.usageReservations := by rw [hframe]
  subst hset
  exact {
    attempt := hattempt
    usage := husage
    occurredAt := hoccurred
    facts := hbooked.facts
    accepted := hbooked.accepted
    event := hbooked.event
    charge := hbooked.charge
    occupation := hoccupation
    claims := congrArg (Table.erase · fact.providerAttemptId) hclaims
    wasOpen := hopen
    reservations := congrArg (endedReservations input fact.postingLedgerEventId) hreservations
    free := hfree
    frame := by
      rw [hframe] }

theorem settleProtectedInvocationBilling_eq_ok
    (hterms : input.attempt.terms = .protectedV1 protectedTerms)
    (haccount : input.account = lockInvocationBillingSettlementAccount s.database
      input.billableInvocationRef)
    (h : settleProtectedInvocationBilling input protectedTerms s = .ok (result, s')) :
    ∃ fact, Settled s.database input fact s'.database ∧
      result = { storedSettlement fact with replayed := false } := by
  unfold settleProtectedInvocationBilling at h
  obtain ⟨claim, hclaim, h⟩ := run_read_bind.mp h
  obtain ⟨reservation, hreservation, h⟩ := run_read_bind.mp h
  cases hreservation
  obtain ⟨terms, hprices, h⟩ := run_check_bind.mp h
  obtain ⟨booked, s₁, hbook, h⟩ := run_bind.mp h
  obtain ⟨_, s₂, hdelete, h⟩ := run_bind.mp h
  obtain ⟨_, s₃, hend, h⟩ := run_bind.mp h
  obtain ⟨rfl, rfl⟩ := run_pure.mp h
  obtain ⟨hreferences, hfree⟩ := protectedSettlementTerms_eq_ok hprices
  have hclaimed : s.database.budgetClaims.find? input.billableInvocationRef = some claim := by
    split at hclaim
    · cases hclaim
    · next found hfound =>
        cases hclaim
        exact hfound
  -- a charge is posted exactly when it is positive and a credit hold is there
  have huncharged : (decide (0 < terms.actualChargeUnits) &&
      (s.database.usageReservations.find? input.billableInvocationRef).isSome) = false →
      ∀ reservation, s.database.usageReservations.find? input.billableInvocationRef =
        some reservation → terms.actualChargeUnits ≤ 0 := by
    intro hnot reservation hfind
    rw [hfind, Option.isSome_some, Bool.and_true, decide_eq_false_iff_not, not_lt] at hnot
    exact hnot
  have hpositive : (decide (0 < terms.actualChargeUnits) &&
      (s.database.usageReservations.find? input.billableInvocationRef).isSome) = true →
      0 < terms.actualChargeUnits := by
    intro hcharged
    exact of_decide_eq_true (Bool.and_eq_true_iff.mp hcharged).1
  obtain ⟨hcharge, hreplayed, hbooked⟩ :=
    bookSettlement_eq_ok haccount hpositive huncharged hbook
  have hset₂ := deleteBudgetClaim_eq_ok hdelete
  have hreservations : s₂.database.usageReservations = s.database.usageReservations := by
    rw [hset₂, hbooked.frame]
  rw [← hreservations] at hend
  obtain ⟨hopen, hset₃⟩ := endUsageReservation_eq_ok hend
  refine ⟨_, hbooked.settled rfl rfl rfl hfree ?_ ?_ ?_, ?_⟩
  · unfold SettledOccupation
    rw [hterms]
    exact ⟨claim, hclaimed, hreferences⟩
  · rw [← hreservations]
    exact hopen
  · rw [hset₃, hset₂]
    rfl
  · obtain ⟨_, _, _, _⟩ := result
    cases hcharge
    cases hreplayed
    rfl

theorem settleClaimlessInvocationBilling_eq_ok
    (hterms : input.attempt.terms = .cpaBasicV1 claimlessTerms)
    (haccount : input.account = lockInvocationBillingSettlementAccount s.database
      input.billableInvocationRef)
    (h : settleClaimlessInvocationBilling localeCompare input claimlessTerms s = .ok (result, s')) :
    ∃ fact, Settled s.database input fact s'.database ∧
      result = { storedSettlement fact with replayed := false } := by
  unfold settleClaimlessInvocationBilling at h
  obtain ⟨claim, hclaim, h⟩ := run_read_bind.mp h
  obtain ⟨reservation, hreservation, h⟩ := run_read_bind.mp h
  cases hclaim
  cases hreservation
  obtain ⟨_, hnothing, h⟩ := run_check_bind.mp h
  obtain ⟨terms, hprices, hbook⟩ := run_check_bind.mp h
  have hnot := rejectIf_eq_ok.mp hnothing
  rw [not_or, Option.not_isSome_iff_eq_none, Option.not_isSome_iff_eq_none] at hnot
  obtain ⟨hclaim, hreservation⟩ := hnot
  obtain ⟨hreferences, hfree⟩ := claimlessSettlementTerms_eq_ok hprices
  have hpositive : (decide (input.attempt.planBillingMode = "paygo") &&
      decide (0 < terms.actualChargeUnits)) = true → 0 < terms.actualChargeUnits := by
    intro hcharged
    exact of_decide_eq_true (Bool.and_eq_true_iff.mp hcharged).2
  obtain ⟨hcharge, hreplayed, hbooked⟩ :=
    bookSettlement_eq_ok haccount hpositive (by simp [hreservation]) hbook
  -- there is no claim to take and no reservation to end
  have hclaims : s'.database.budgetClaims = s.database.budgetClaims := by rw [hbooked.frame]
  have hreservations : s'.database.usageReservations = s.database.usageReservations := by
    rw [hbooked.frame]
  have herased : s'.database.budgetClaims.erase input.billableInvocationRef =
      s'.database.budgetClaims := by
    rw [hclaims]
    exact Table.erase_of_find?_none hclaim
  have hended : endedReservations input result.postingLedgerEventId
      s'.database.usageReservations = s'.database.usageReservations := by
    rw [hreservations]
    exact Table.modify_of_find?_none hreservation
  refine ⟨_, hbooked.settled rfl rfl rfl hfree ?_ ?_ ?_, ?_⟩
  · unfold SettledOccupation
    rw [hterms]
    exact ⟨hclaim, hreservation, hreferences⟩
  · intro found hfound
    cases hreservation.symm.trans hfound
  · change s'.database = { s'.database with
      budgetClaims := s'.database.budgetClaims.erase input.billableInvocationRef
      usageReservations := endedReservations input result.postingLedgerEventId
        s'.database.usageReservations }
    rw [herased, hended]
  · obtain ⟨_, _, _, _⟩ := result
    cases hcharge
    cases hreplayed
    rfl

/-- **Settlement.** A settlement that returned repeated an earlier one of the same usage, and
changed nothing, or booked its usage once. -/
theorem settleInvocationBilling_eq_ok
    (haccount : input.account = lockInvocationBillingSettlementAccount s.database
      input.billableInvocationRef)
    (h : settleInvocationBilling localeCompare input s = .ok (result, s')) :
    (∃ fact, s.database.providerInvocationUsageFacts.find? input.billableInvocationRef =
        some fact ∧ fact.usage = input.usage ∧ result = storedSettlement fact ∧ s' = s) ∨
      s.database.providerInvocationUsageFacts.find? input.billableInvocationRef = none ∧
      ∃ fact, Settled s.database input fact s'.database ∧
        result = { storedSettlement fact with replayed := false } := by
  unfold settleInvocationBilling at h
  obtain ⟨existing, hexisting, h⟩ := run_read_bind.mp h
  cases hexisting
  cases hfact : s.database.providerInvocationUsageFacts.find? input.billableInvocationRef with
  | some fact =>
    simp only [hfact] at h
    obtain ⟨_, husage, h⟩ := run_check_bind.mp h
    obtain ⟨rfl, rfl⟩ := run_pure.mp h
    exact .inl ⟨fact, rfl, not_not.mp (rejectIf_eq_ok.mp husage), rfl, rfl⟩
  | none =>
    simp only [hfact] at h
    refine .inr ⟨rfl, ?_⟩
    cases hterms : input.attempt.terms with
    | cpaBasicV1 terms =>
      simp only [hterms] at h
      exact settleClaimlessInvocationBilling_eq_ok hterms haccount h
    | protectedV1 terms =>
      simp only [hterms] at h
      exact settleProtectedInvocationBilling_eq_ok hterms haccount h

/-! ### Reconciliation -/

/-- The reservations after an attempt went to reconciliation. -/
def reconcilingReservations (billableInvocationRef : String)
    (costExposure : ReconciledCostExposure) (transitionedAt : Timestamp)
    (reservations : Table UsageReservation) : Table UsageReservation :=
  reservations.modify billableInvocationRef (reconcilingReservation costExposure transitionedAt)
    fun _ => rfl

/-- What marking an attempt changes: its reservation, when that is open. -/
inductive Marked (db : Database) (billableInvocationRef : String)
    (costExposure : ReconciledCostExposure) (transitionedAt : Timestamp) : Database → Prop where
  | nothing (hclosed : ∀ reservation,
      db.usageReservations.find? billableInvocationRef = some reservation →
        reservation.status.isOpen = false) :
      Marked db billableInvocationRef costExposure transitionedAt db
  | reconciling (reservation : UsageReservation)
      (hfind : db.usageReservations.find? billableInvocationRef = some reservation)
      (hopen : reservation.status.isOpen) :
      Marked db billableInvocationRef costExposure transitionedAt { db with
        usageReservations := reconcilingReservations billableInvocationRef costExposure
          transitionedAt db.usageReservations }

theorem markInvocationBillingReconciliation_eq_ok {billableInvocationRef : String}
    {costExposure : ReconciledCostExposure} {transitionedAt : Timestamp} {u : Unit}
    (h : markInvocationBillingReconciliation billableInvocationRef costExposure transitionedAt s =
      .ok (u, s')) :
    Marked s.database billableInvocationRef costExposure transitionedAt s'.database := by
  unfold markInvocationBillingReconciliation at h
  obtain ⟨reservation, hreservation, h⟩ := run_read_bind.mp h
  cases hreservation
  split_ifs at h with hopen
  · obtain ⟨found, hfind, hisOpen⟩ := (Option.any_eq_true _ _).mp hopen
    obtain ⟨_, -, -, hset⟩ := update_eq_ok h
    rw [hset]
    exact .reconciling found hfind hisOpen
  · obtain ⟨-, rfl⟩ := run_pure.mp h
    refine .nothing ?_
    intro reservation hfind
    rw [hfind, Option.any_some] at hopen
    exact Bool.not_eq_true _ ▸ hopen

end Frely.Billing
