import Frely.Application.Equiv.BudgetWindows
import Frely.Application.Equiv.Release

/-!
# Budgets over whole runs

What is settled and claimed of a budget in one of its windows is at most what the budget allows,
but for what settlements overran their claims (`planBudgets_kept`, `directBudgets_kept`).  The
window in which the budget of an API key is checked ends before the moment of the admission, so
that an admission does not see the others of its millisecond: `directBudgets_kept` is about runs
where each admission of the key is later than the attempts before it.

`SpendingChange` says what one step does to claims, facts, reservations and the ledger, and
`spentIn_reached` is the rule for runs: what is left to each budget is that an admission with room
leaves it within what it allows.
-/

namespace Frely.Application

open Frely.Billing Frely.Postgres Frely.RequestExecution Checked

variable {db db' : Database} {settings : Settings} {input : Input} {window : BudgetWindow}
  {selection : BudgetSelection} {initial creditAccounts : Table CreditAccount}
  {configuration : Configuration} {requestLogs : Table RequestLog} {inputs : List Input}

/-! ### Steps -/

/-- The steps of a run. -/
def stepsTaken (settings : Settings) (configuration : Configuration)
    (creditAccounts : Table CreditAccount) (requestLogs : Table RequestLog) (inputs : List Input) :
    List TakenStep :=
  Machine.trace (step settings) (initialDatabase configuration creditAccounts requestLogs) inputs

/-- What the steps of a run cost together. -/
def totalCost (settings : Settings) (configuration : Configuration)
    (creditAccounts : Table CreditAccount) (requestLogs : Table RequestLog) (inputs : List Input)
    (cost : Database → Database → Int) : Int :=
  ((stepsTaken settings configuration creditAccounts requestLogs inputs).map fun taken =>
    cost taken.before taken.after).sum

/-- A protected admission with the claim it makes. -/
structure Admits (input : Input) (db : Database) (command : AdmitProviderInvocationCommand)
    (admission : ProtectedAdmission) (claim : BudgetClaim) : Prop where
  asked : input.command = .admitProtected command
  admissible : ProtectedAdmissible db command input.environment.now admission
  references : claim.references = admissionReferences command
  tokens : claim.maxTotalTokens = command.inputTokens + command.maxOutputTokens
  charge : claim.maxChargeUnits = admission.maximumChargeUnits
  accepted : ∃ db, acceptsClaim db claim

/-- What one step does to claims, facts, reservations and the ledger. -/
inductive SpendingChange (input : Input) (db db' : Database) : Prop where
  | suspended (hclaims : db'.budgetClaims = db.budgetClaims)
      (hfacts : db'.providerInvocationUsageFacts = db.providerInvocationUsageFacts)
      (hreservations : db'.usageReservations = db.usageReservations ∨
        ∃ id costExposure now reservation, db.usageReservations.find? id = some reservation ∧
          reservation.status.isOpen ∧ db'.usageReservations =
            reconcilingReservations id costExposure now db.usageReservations)
      (hledger : db'.creditLedgerEvents = db.creditLedgerEvents)
  | admitted (command : AdmitProviderInvocationCommand) (admission : ProtectedAdmission)
      (claim : BudgetClaim) (hadmits : Admits input db command admission claim)
      (hclaim : db.budgetClaims.insert? claim = some db'.budgetClaims)
      (hstart : claimStartedAt db' claim = some input.environment.now)
      (hfacts : db'.providerInvocationUsageFacts = db.providerInvocationUsageFacts)
      (hreservations : db'.usageReservations = db.usageReservations ∨
        ∃ reservation : UsageReservation,
          truthy command.usageChargeAccountId = some reservation.creditAccountId ∧
          reservation.heldUnits = admission.maximumChargeUnits ∧
          db.usageReservations.insert? reservation = some db'.usageReservations)
      (hledger : db'.creditLedgerEvents = db.creditLedgerEvents)
  | settled (settlement : SettleInvocationBillingInput) (fact : ProviderInvocationUsageFact)
      (db₁ : Database) (hsettled : Settled db settlement fact db₁)
      (hclaims : db'.budgetClaims = db.budgetClaims.erase fact.providerAttemptId)
      (hfact : db.providerInvocationUsageFacts.insert? fact =
        some db'.providerInvocationUsageFacts)
      (hreservations : db'.usageReservations = db₁.usageReservations)
      (hledger : db'.creditLedgerEvents = db₁.creditLedgerEvents)

theorem Transition.spendingChange (h : Transition input db db') : SpendingChange input db db' := by
  cases h with
  | idle => exact .suspended rfl rfl (.inl rfl) rfl
  | leased leases hcommand => exact .suspended rfl rfl (.inl rfl) rfl
  | logged row haccepts => exact .suspended rfl rfl (.inl rfl) rfl
  | reconfigured configuration hcommand => exact .suspended rfl rfl (.inl rfl) rfl
  | admittedProtected command hcommand id _ hadmitted =>
    obtain ⟨admission, execution, db₁, usageReservationId, hadmissible, hpersisted, hoccupied⟩ :=
      hadmitted
    have hclaims := hoccupied.claims
    have hreservations := hoccupied.reservations
    rw [hpersisted.frame] at hclaims hreservations
    refine .admitted command admission _ ⟨hcommand, hadmissible, rfl, hadmissible.tokens, rfl,
      db₁, hoccupied.claim_accepted⟩ hclaims ?_ ?_ ?_ ?_
    · have hattempt := Table.find?_insert_self hpersisted.attempts
      rw [claimStartedAt, hoccupied.frame]
      exact congrArg (Option.map (·.startedAt)) hattempt
    · rw [hoccupied.frame, hpersisted.frame]
    · rcases hreservations with
        ⟨-, -, hnone⟩ | ⟨creditAccountId, reservationId, htruthy, -, hinsert, -⟩
      · exact .inl hnone
      · exact .inr ⟨newUsageReservation _ reservationId creditAccountId, htruthy, rfl, hinsert⟩
    · rw [hoccupied.frame, hpersisted.frame]
  | admittedCpaBasic command hcommand id _ hadmitted =>
    obtain ⟨admission, execution, hadmissible, hpersisted⟩ := hadmitted
    rw [hpersisted.frame]
    exact .suspended rfl rfl (.inl rfl) rfl
  | dispatched attempt _ hpending hupdated =>
    rw [hupdated.frame]
    exact .suspended rfl rfl (.inl rfl) rfl
  | suspended _ hsuspended =>
    obtain ⟨old, new, costExposure, now, db₁, _, hsuspends, hupdated, hmarked⟩ := hsuspended
    have hframe := hupdated.frame
    cases hmarked with
    | nothing hclosed =>
      rw [hframe]
      exact .suspended rfl rfl (.inl rfl) rfl
    | reconciling reservation hfind hopen =>
      rw [hframe] at hfind ⊢
      exact .suspended rfl rfl (.inr ⟨old.id, costExposure, now, reservation, hfind, hopen,
        rfl⟩) rfl
  | settled command zeroReservationOutcome now fact _ hfinal =>
    -- the settlement takes the claim away and stores the fact in one transaction
    obtain ⟨attempt, expected, conflict, db₁, _, hfind, hunsettled, hexpected, hsettled,
      hupdated⟩ := hfinal
    refine .settled _ fact db₁ hsettled ?_ ?_ ?_ ?_
    · rw [hupdated.frame]
      exact hsettled.claims
    · rw [hupdated.frame]
      exact hsettled.facts
    · rw [hupdated.frame]
    · rw [hupdated.frame]
  | failed executions harbitrated => exact .suspended rfl rfl (.inl rfl) rfl

/-- The moment of a claim stays. -/
theorem keeps_claimStartedAt (hdb : Coherent initial db) (h : Transition input db db')
    {claim : BudgetClaim} (hclaim : claim ∈ db.budgetClaims) :
    claimStartedAt db' claim = claimStartedAt db claim := by
  obtain ⟨attempt, hattempt, -⟩ := hdb.occupations.claim claim hclaim
  unfold claimStartedAt
  rcases h.coreChange.keeps_attempt hattempt with hsame | ⟨new, hnew, hchange⟩
  · rw [hsame, hattempt]
  · rw [hnew, hattempt]
    exact congrArg some hchange.keeps.2.2.1

/-- No row lowers what is spent. -/
structure Nonneg (db : Database) : Prop where
  facts : ∀ fact ∈ db.providerInvocationUsageFacts,
    0 ≤ fact.usage.totalTokens ∧ 0 ≤ fact.actualChargeUnits
  claims : ∀ claim ∈ db.budgetClaims, 0 ≤ claim.maxTotalTokens ∧ 0 ≤ claim.maxChargeUnits

theorem SpendingChange.nonneg (h : SpendingChange input db db') (hdb : Nonneg db) :
    Nonneg db' := by
  cases h with
  | suspended hclaims hfacts hreservations hledger =>
    exact ⟨hfacts ▸ hdb.facts, hclaims ▸ hdb.claims⟩
  | admitted command admission claim hadmits hclaim hstart hfacts hreservations hledger =>
    refine ⟨hfacts ▸ hdb.facts, fun other hother => ?_⟩
    rcases (Table.mem_insert hclaim).mp hother with rfl | hother
    · obtain ⟨db₁, haccepted⟩ := hadmits.accepted
      simp only [acceptsClaim, Bool.and_eq_true, decide_eq_true_eq] at haccepted
      exact ⟨haccepted.1.1.2.le, haccepted.1.2⟩
    · exact hdb.claims other hother
  | settled settlement fact db₁ hsettled hclaims hfact hreservations hledger =>
    refine ⟨fun other hother => ?_, fun claim hclaim => ?_⟩
    · rcases (Table.mem_insert hfact).mp hother with rfl | hother
      · have haccepted := hsettled.accepted
        simp only [acceptsFact, Bool.and_eq_true, decide_eq_true_eq] at haccepted
        obtain ⟨⟨⟨⟨-, htokens⟩, hcharge⟩, -⟩, -⟩ := haccepted
        exact ⟨htokens, hcharge⟩
      · exact hdb.facts other hother
    · rw [hclaims] at hclaim
      exact hdb.claims claim (Table.mem_erase.mp hclaim).1

/-! ### What is spent -/

/-- The part of a fact in what is settled. -/
def factPart (window : BudgetWindow) (selection : BudgetSelection)
    (fact : ProviderInvocationUsageFact) : Int :=
  if window.contains fact.occurredAt ∧ selection.counts fact.references then
    selection.settled fact
  else 0

/-- The part of a claim in what is claimed. -/
def claimPart (db : Database) (window : BudgetWindow) (selection : BudgetSelection)
    (claim : BudgetClaim) : Int :=
  if (∃ startedAt ∈ claimStartedAt db claim, window.contains startedAt) ∧
      selection.counts claim.references then
    selection.claimed claim
  else 0

theorem spentIn_eq : spentIn db window selection =
    Table.sumOf (factPart window selection) db.providerInvocationUsageFacts +
      Table.sumOf (claimPart db window selection) db.budgetClaims := rfl

/-- What the claim of an attempt stands for. -/
def claimedFor (db : Database) (window : BudgetWindow) (selection : BudgetSelection)
    (providerAttemptId : String) : Int :=
  ((db.budgetClaims.find? providerAttemptId).map (claimPart db window selection)).getD 0

/-- By how much what a step settles of a budget is above what was claimed for it. -/
def overrun (window : BudgetWindow) (selection : BudgetSelection) (db db' : Database) : Int :=
  Table.excess db.providerInvocationUsageFacts db'.providerInvocationUsageFacts fun fact =>
    factPart window selection fact - claimedFor db window selection fact.providerAttemptId

theorem sumOf_claimPart (hdb : Coherent initial db) (h : Transition input db db')
    {claims : Table BudgetClaim} (hclaims : ∀ claim ∈ claims, claim ∈ db.budgetClaims) :
    Table.sumOf (claimPart db' window selection) claims =
      Table.sumOf (claimPart db window selection) claims := by
  refine Table.sumOf_congr fun claim hclaim => ?_
  unfold claimPart
  rw [keeps_claimStartedAt hdb h (hclaims claim hclaim)]

/-- A settlement raises what is spent by what it overruns its claim. -/
theorem spentIn_settled (hdb : Coherent initial db) (h : Transition input db db')
    {fact : ProviderInvocationUsageFact}
    (hfact : db.providerInvocationUsageFacts.insert? fact = some db'.providerInvocationUsageFacts)
    (hclaims : db'.budgetClaims = db.budgetClaims.erase fact.providerAttemptId) :
    spentIn db' window selection ≤
      spentIn db window selection + overrun window selection db db' := by
  have hover : factPart window selection fact -
      claimedFor db window selection fact.providerAttemptId ≤ overrun window selection db db' :=
    Table.le_excess hfact _
  have hkept := @sumOf_claimPart db db' input window selection initial hdb h
    (db.budgetClaims.erase fact.providerAttemptId) fun claim hclaim => (Table.mem_erase.mp hclaim).1
  have herased : _ = _ - claimedFor db window selection fact.providerAttemptId :=
    Table.sumOf_erase_getD db.budgetClaims fact.providerAttemptId (claimPart db window selection)
  rw [spentIn_eq, spentIn_eq, hclaims, hkept, herased, Table.sumOf_insert hfact]
  omega

/-- What a step leaves spent, where an admission of the budget leaves it within the bound. -/
theorem spentIn_step {bound : Int} (hdb : Coherent initial db) (h : Transition input db db')
    (hadmitted : ∀ (command : AdmitProviderInvocationCommand) (admission : ProtectedAdmission)
      (claim : BudgetClaim), Admits input db command admission claim →
      window.contains input.environment.now → selection.counts claim.references = true →
      spentIn db window selection + selection.claimed claim ≤ bound) :
    spentIn db' window selection ≤
      max bound (spentIn db window selection) + overrun window selection db db' := by
  have hnonneg : 0 ≤ overrun window selection db db' := Table.excess_nonneg ..
  cases h.spendingChange with
  | suspended hclaims hfacts hreservations hledger =>
    have hsame : spentIn db' window selection = spentIn db window selection := by
      rw [spentIn_eq, spentIn_eq, hclaims, hfacts, sumOf_claimPart hdb h fun _ hclaim => hclaim]
    omega
  | admitted command admission claim hadmits hclaim hstart hfacts hreservations hledger =>
    have hadded : spentIn db' window selection =
        spentIn db window selection + claimPart db' window selection claim := by
      rw [spentIn_eq, spentIn_eq, hfacts, Table.sumOf_insert hclaim,
        sumOf_claimPart hdb h fun _ hclaim => hclaim]
      omega
    rw [hadded, claimPart, hstart]
    split_ifs with hcounted
    · obtain ⟨⟨startedAt, hstarted, hcontains⟩, hcounts⟩ := hcounted
      cases hstarted
      have hbound := hadmitted command admission claim hadmits hcontains hcounts
      omega
    · omega
  | settled settlement fact db₁ hfinal hclaims hfact hreservations hledger =>
    have hsettled := @spentIn_settled db db' input window selection initial hdb h fact hfact hclaims
    omega

/-- The rule for a budget over a run. -/
theorem spentIn_reached {Allowed : TakenStep → Prop} {bound : Int} (hbound : 0 ≤ bound)
    (hadmitted : ∀ (input : Input) (db : Database), Nonneg db →
      Allowed (Machine.stepOf (step settings) db input) →
      ∀ (command : AdmitProviderInvocationCommand) (admission : ProtectedAdmission)
        (claim : BudgetClaim), Admits input db command admission claim →
        window.contains input.environment.now → selection.counts claim.references = true →
        spentIn db window selection + selection.claimed claim ≤ bound)
    (hall : ∀ taken ∈ stepsTaken settings configuration creditAccounts requestLogs inputs,
      Allowed taken) :
    spentIn (reached settings configuration creditAccounts requestLogs inputs) window selection ≤
      bound + totalCost settings configuration creditAccounts requestLogs inputs
        (overrun window selection) := by
  have hbounded := @Machine.bounded_final Input (Result Answer) Database (step settings)
    (fun db => Coherent creditAccounts db ∧ Nonneg db) Allowed (spentIn · window selection)
    (fun taken => overrun window selection taken.before taken.after) bound
    (fun _ => Table.excess_nonneg ..)
  have hnone : spentIn (initialDatabase configuration creditAccounts requestLogs) window
      selection = 0 := rfl
  have hmax : max bound (spentIn (initialDatabase configuration creditAccounts requestLogs) window
      selection) = bound := max_eq_left (hnone ▸ hbound)
  rw [← hmax]
  refine hbounded ?_ ?_ ⟨initialDatabase_coherent _ _ _, ?_⟩ hall
  · rintro input db ⟨hdb, hnonneg⟩ -
    exact ⟨step_coherent hdb, (hdb.transition settings input).spendingChange.nonneg hnonneg⟩
  · rintro input db ⟨hdb, hnonneg⟩ hallowed
    exact spentIn_step hdb (hdb.transition settings input) (hadmitted input db hnonneg hallowed)
  · constructor <;> intro row hrow <;> exact absurd hrow (Table.not_mem_empty row)

theorem budgetSelection_counts {metric : BudgetMetric} {counts : FinalBillingReferences → Bool} :
    (budgetSelection metric counts).counts = counts := by
  cases metric <;> rfl

/-- An admission claims what it was checked with. -/
theorem Admits.claimed {command : AdmitProviderInvocationCommand} {admission : ProtectedAdmission}
    {claim : BudgetClaim} (h : Admits input db command admission claim)
    (subscription : PlanSubscription) (metric : BudgetMetric)
    (counts : FinalBillingReferences → Bool) :
    (budgetSelection metric counts).claimed claim = (admissionBudgetInput command subscription
      admission.maximumChargeUnits input.environment.now).maximum metric := by
  cases metric with
  | tokens => exact h.tokens
  | amount => exact h.charge

/-! ### Plans -/

/-- A subscription, as a window starts from it, and a limit of its Plan. -/
structure Offers (subscription : PlanSubscription) (limit : PlanBudgetLimit)
    (configuration : Configuration) : Prop where
  offered : limit ∈ configuration.planBudgetLimits
  same : ∀ row, configuration.planSubscriptions.find? (·.id = subscription.id) = some row →
    row.planId = limit.planId ∧ row.effectiveStart = subscription.effectiveStart ∧
      row.effectiveEnd = subscription.effectiveEnd

/-- A moment of the subscription is checked in the window it is in. -/
theorem window_eq_of_contains {start moment now : Timestamp} {last : Option Timestamp}
    {windowType : BudgetWindowType} {windowSeconds : Option Int} {other : BudgetWindow}
    (hwindow : fixedBudgetWindow start last windowType windowSeconds moment = .ok window)
    (hother : fixedBudgetWindow start last windowType windowSeconds now = .ok other)
    (hstart : start ≤ now) (hcontains : window.contains now) : other = window := by
  unfold fixedBudgetWindow at hwindow hother
  split_ifs at hwindow hother with htype
  · exact (Except.ok.inj hother).symm.trans (Except.ok.inj hwindow)
  · cases hseconds : windowSeconds.filter (0 < ·) with
    | none =>
      rw [hseconds] at hwindow
      cases hwindow
    | some seconds =>
      rw [hseconds] at hwindow hother
      have hpositive : 0 < seconds := of_decide_eq_true (Option.filter_eq_some_iff.mp hseconds).2
      have hsize : 0 < seconds * 1000 := by omega
      obtain rfl := Except.ok.inj hwindow
      obtain rfl := Except.ok.inj hother
      rcases disjoint_or_eq_of_fixed hsize (windowIndex start (seconds * 1000) now)
        (windowIndex start (seconds * 1000) moment) with heq | hdisjoint
      · exact heq
      · exact absurd ⟨contains_windowAt hsize hstart, hcontains⟩ (hdisjoint now)

theorem budgetAllowed_nonneg {limit : PlanBudgetLimit} {allowed : Int}
    (h : budgetAllowed limit.metric limit.limitValue limit.limitAmountUnits = some allowed) :
    0 ≤ allowed := by
  unfold budgetAllowed at h
  split at h
  · obtain rfl := Option.some.inj h
    have hnum : 0 ≤ limit.limitValue.num := Rat.num_nonneg.mpr limit.valueCheck.le
    exact Int.tdiv_nonneg hnum (Int.natCast_nonneg _)
  · exact limit.amountUnitsCheck allowed h

theorem loadPlanSource_eq_ok {configuration : Configuration} {planSubscriptionId planId : String}
    {now : Timestamp} {message : String} {subscription : PlanSubscription} {plan : Plan}
    (h : loadPlanSource configuration planSubscriptionId planId now message =
      .ok (subscription, plan)) :
    configuration.planSubscriptions.find? (·.id = planSubscriptionId) = some subscription ∧
      subscription.planId = planId ∧ subscription.effectiveStart ≤ now := by
  unfold loadPlanSource at h
  dsimp only at h
  split at h
  · cases h
  · next found hfound =>
    split at h
    · cases h
    · obtain ⟨_, hrejected, h⟩ := bind_eq_ok.mp h
      cases h
      have hnot := rejectIf_eq_ok.mp hrejected
      simp only [not_or, not_not, not_lt] at hnot
      exact ⟨hfound, hnot.1, hnot.2.2.2.1⟩

/-- Whoever counts for a limit of a subscription is checked with the same selection. -/
theorem planBudgetSelection_of_counts {limit : PlanBudgetLimit} {subscriptionId userId : String}
    {references : FinalBillingReferences}
    (h : (planBudgetSelection limit subscriptionId userId).counts references = true) :
    references.planSubscriptionId = subscriptionId ∧
      planBudgetSelection limit subscriptionId references.userId =
        planBudgetSelection limit subscriptionId userId := by
  simp only [planBudgetSelection, budgetSelection_counts, Bool.and_eq_true, Bool.or_eq_true,
    decide_eq_true_eq] at h
  refine ⟨h.1, ?_⟩
  rcases h.2 with hscope | huser
  · simp only [planBudgetSelection, hscope, ne_eq, not_false_eq_true, decide_true, Bool.true_or]
  · rw [huser]

/-- **Plan budgets.** In every window of a limit, what is settled and claimed is at most what the
limit allows and what settlements overran their claims by. -/
theorem planBudgets_kept {subscription : PlanSubscription} {limit : PlanBudgetLimit}
    (hoffers : ∀ taken ∈ stepsTaken settings configuration creditAccounts requestLogs inputs,
      Offers subscription limit taken.before.configuration) {allowed : Int}
    (hallowed : budgetAllowed limit.metric limit.limitValue limit.limitAmountUnits = some allowed)
    {moment : Timestamp} (hwindow : fixedBudgetWindow subscription.effectiveStart
      subscription.effectiveEnd limit.windowType limit.windowSeconds moment = .ok window)
    (userId : String) :
    let selection := planBudgetSelection limit subscription.id userId
    spentIn (reached settings configuration creditAccounts requestLogs inputs) window selection ≤
      allowed + totalCost settings configuration creditAccounts requestLogs inputs
        (overrun window selection) := by
  refine spentIn_reached (budgetAllowed_nonneg hallowed) ?_ hoffers
  rintro input db - hoffers command admission claim hadmits hcontains hcounts
  obtain ⟨row, plan, message, hsource, hplan, -⟩ := hadmits.admissible.source
  obtain ⟨hfound, hplanId, hstarted⟩ := loadPlanSource_eq_ok hsource
  rw [hadmits.references] at hcounts
  obtain ⟨hsubscription, hselection⟩ := planBudgetSelection_of_counts hcounts
  have hsubscription : command.planSubscriptionId = subscription.id := hsubscription
  have hselection : planBudgetSelection limit subscription.id command.userId =
    planBudgetSelection limit subscription.id userId := hselection
  rw [hsubscription] at hfound
  obtain ⟨hplanOf, heffectiveStart, heffectiveEnd⟩ := hoffers.same row hfound
  obtain ⟨checked, room, hchecked, hroomAllowed, hroom⟩ :=
    assertInvocationPlanBudgets_eq_ok hplan limit hoffers.offered (hplanOf.symm.trans hplanId)
  cases hallowed.symm.trans hroomAllowed
  have hchecked : fixedBudgetWindow row.effectiveStart row.effectiveEnd limit.windowType
    limit.windowSeconds input.environment.now = .ok checked := hchecked
  change spentIn db checked (planBudgetSelection limit command.planSubscriptionId
    command.userId) + _ ≤ _ at hroom
  rw [heffectiveStart] at hstarted
  rw [heffectiveStart, heffectiveEnd] at hchecked
  rw [hsubscription, hselection, window_eq_of_contains hwindow hchecked hstarted hcontains] at hroom
  have hclaimed : (planBudgetSelection limit subscription.id userId).claimed claim = _ :=
    hadmits.claimed row limit.metric _
  rw [hclaimed]
  exact hroom

/-- A request that is admitted, with a claim of 100 tokens and units. -/
def admittedInputs : List Input := releasedInputs.take 2

theorem before_admitted {taken : TakenStep}
    (h : taken ∈ stepsTaken plainSettings configuration creditAccounts requestLogs admittedInputs) :
    taken.before.configuration = configuration ∧ taken.before.budgetClaims = Table.empty ∧
      taken.before.providerInvocationUsageFacts = Table.empty := by
  rcases List.mem_cons.mp h with rfl | h
  · exact ⟨rfl, rfl, rfl⟩
  · obtain rfl := List.mem_singleton.mp h
    have hleased := @acquireLease_answered (initialDatabase configuration creditAccounts
      requestLogs)
      plainSettings ⟨plainEnvironment "1" 1, .acquireLease "request" "owner" 60⟩ _ _ _ rfl
    have hafter : ∀ {result : Result Answer × Database},
        LeaseAnswered (initialDatabase configuration creditAccounts requestLogs) "request" "owner" 1
          result → result.2.configuration = configuration ∧ result.2.budgetClaims = Table.empty ∧
            result.2.providerInvocationUsageFacts = Table.empty := by
      intro result hresult
      cases hresult <;> exact ⟨rfl, rfl, rfl⟩
    exact hafter hleased

def hundredTokens : PlanBudgetLimit :=
  ⟨"limit", "plan", .user, .tokens, 100, none, .fixed, some 3600, by decide, by simp⟩

/-- The first hour of the limit is used up. -/
theorem planBudgets_kept_admitted :
    let limited := { plainConfiguration "paygo" with planBudgetLimits := [hundredTokens] }
    let accounts := Table.empty.put (plainAccount 100)
    let logs := Table.empty.put (plainLog "request")
    let selection := planBudgetSelection hundredTokens "subscription" "user"
    spentIn (reached plainSettings limited accounts logs admittedInputs) ⟨0, 3600000⟩ selection =
        100 ∧
      spentIn (reached plainSettings limited accounts logs admittedInputs) ⟨0, 3600000⟩ selection ≤
        100 + totalCost plainSettings limited accounts logs admittedInputs
          (overrun ⟨0, 3600000⟩ selection) := by
  refine ⟨by decide, ?_⟩
  refine @planBudgets_kept plainSettings ⟨0, 3600000⟩ _ _ _ _
    ⟨"subscription", "plan", "user:user", 0, none, "active"⟩ hundredTokens
    (fun taken htaken => ?_) 100 (by decide) 0 rfl "user"
  obtain ⟨hconfiguration, -, -⟩ := before_admitted htaken
  rw [hconfiguration]
  refine ⟨List.mem_singleton_self _, fun row hrow => ?_⟩
  cases hrow
  exact ⟨rfl, rfl, rfl⟩

/-! ### API keys -/

/-- A step is later than the attempts of the key before it, if it admits one. -/
def Later (apiKeyId : String) (taken : TakenStep) : Prop :=
  ∀ command, taken.input.command = .admitProtected command → command.apiKeyId = apiKeyId →
    (∀ fact ∈ taken.before.providerInvocationUsageFacts, fact.references.apiKeyId = apiKeyId →
      fact.occurredAt < taken.input.environment.now) ∧
    ∀ claim ∈ taken.before.budgetClaims, claim.references.apiKeyId = apiKeyId →
      ∀ startedAt ∈ claimStartedAt taken.before claim, startedAt < taken.input.environment.now

/-- What counts in a window counts in another one that starts no later and ends after it. -/
theorem spentIn_le_checked {metric : BudgetMetric} {apiKeyId : String} {checked : BudgetWindow}
    (hdb : Nonneg db) (hstart : checked.startAt ≤ window.startAt)
    (hfacts : ∀ fact ∈ db.providerInvocationUsageFacts, fact.references.apiKeyId = apiKeyId →
      fact.occurredAt < checked.endAt)
    (hclaims : ∀ claim ∈ db.budgetClaims, claim.references.apiKeyId = apiKeyId →
      ∀ startedAt ∈ claimStartedAt db claim, startedAt < checked.endAt) :
    spentIn db window (budgetSelection metric (·.apiKeyId = apiKeyId)) ≤
      spentIn db checked (budgetSelection metric (·.apiKeyId = apiKeyId)) := by
  have hpart : ∀ {seen here : Prop} [Decidable seen] [Decidable here] {units : Int},
      (seen → here) → 0 ≤ units → (if seen then units else 0) ≤ if here then units else 0 := by
    intro seen here _ _ units himplies hunits
    split_ifs with hseen hhere
    · exact le_refl _
    · exact absurd (himplies hseen) hhere
    · exact hunits
    · exact le_refl _
  refine Int.add_le_add (Table.sumOf_le fun fact hmem => ?_) (Table.sumOf_le fun claim hmem => ?_)
  · refine hpart ?_ ?_
    · rw [budgetSelection_counts]
      rintro ⟨hcontains, hcounts⟩
      exact ⟨⟨hstart.trans hcontains.1, hfacts fact hmem (of_decide_eq_true hcounts)⟩, hcounts⟩
    · cases metric with
      | tokens => exact (hdb.facts fact hmem).1
      | amount => exact (hdb.facts fact hmem).2
  · refine hpart ?_ ?_
    · rw [budgetSelection_counts]
      rintro ⟨⟨startedAt, hstarted, hcontains⟩, hcounts⟩
      exact ⟨⟨startedAt, hstarted, hstart.trans hcontains.1,
        hclaims claim hmem (of_decide_eq_true hcounts) startedAt hstarted⟩, hcounts⟩
    · cases metric with
      | tokens => exact (hdb.claims claim hmem).1
      | amount => exact (hdb.claims claim hmem).2

/-- **API key budgets.** In every window that starts no earlier than the policy counts from at each
of its moments, what is settled and claimed for the key is at most what the policy allows and what
settlements overran their claims by. -/
theorem directBudgets_kept {apiKeyId : String} {assignment : ScopeBudgetPolicy}
    {policy : BudgetPolicy}
    (hsteps : ∀ taken ∈ stepsTaken settings configuration creditAccounts requestLogs inputs,
      (assignment, policy) ∈ activeAssignments taken.before.configuration apiKeyId ∧
        Later apiKeyId taken) {allowed : Int}
    (hallowed : budgetAllowed policy.metric policy.limitValue policy.limitAmountUnits =
      some allowed)
    (hwindow : ∀ moment, window.contains moment →
      budgetPolicyStart assignment policy moment ≤ window.startAt) :
    let selection := directBudgetSelection policy apiKeyId
    spentIn (reached settings configuration creditAccounts requestLogs inputs) window selection ≤
      max 0 allowed + totalCost settings configuration creditAccounts requestLogs inputs
        (overrun window selection) := by
  refine spentIn_reached (le_max_left _ _) ?_ hsteps
  rintro input db hnonneg ⟨hassigned, hlater⟩ command admission claim hadmits hcontains hcounts
  have hcounted : (budgetSelection policy.metric (·.apiKeyId = apiKeyId)).counts
    claim.references = true := hcounts
  rw [budgetSelection_counts, hadmits.references] at hcounted
  have hkey : command.apiKeyId = apiKeyId := of_decide_eq_true hcounted
  obtain ⟨hfacts, hclaims⟩ := hlater command hadmits.asked hkey
  obtain ⟨row, plan, message, -, -, hdirect⟩ := hadmits.admissible.source
  subst hkey
  obtain ⟨room, hroomAllowed, hroom⟩ :=
    assertInvocationDirectBudgets_eq_ok hdirect (assignment, policy) hassigned
  cases hallowed.symm.trans hroomAllowed
  have hseen : spentIn db window (directBudgetSelection policy command.apiKeyId) ≤
      spentIn db (directBudgetWindow assignment policy input.environment.now)
        (directBudgetSelection policy command.apiKeyId) :=
    spentIn_le_checked hnonneg (hwindow _ hcontains) hfacts hclaims
  have hclaimed : (directBudgetSelection policy command.apiKeyId).claimed claim = _ :=
    hadmits.claimed row policy.metric _
  rw [hclaimed]
  exact (Int.add_le_add_right hseen _).trans (hroom.trans (le_max_right _ _))

def hundredUnits : BudgetPolicy :=
  ⟨"policy", .amount, 1, some 100, .rolling, some 60, "enabled"⟩

/-- The units of a minute are used up. -/
theorem directBudgets_kept_admitted :
    let limited := { plainConfiguration "paygo" with
      scopeBudgetPolicies := [⟨"assignment", "key:key", "policy", "enabled", 0⟩]
      budgetPolicies := [hundredUnits] }
    let accounts := Table.empty.put (plainAccount 100)
    let logs := Table.empty.put (plainLog "request")
    let selection := directBudgetSelection hundredUnits "key"
    spentIn (reached plainSettings limited accounts logs admittedInputs) ⟨0, 60001⟩ selection =
        100 ∧
      spentIn (reached plainSettings limited accounts logs admittedInputs) ⟨0, 60001⟩ selection ≤
        max 0 100 + totalCost plainSettings limited accounts logs admittedInputs
          (overrun ⟨0, 60001⟩ selection) := by
  refine ⟨by decide, ?_⟩
  refine @directBudgets_kept plainSettings ⟨0, 60001⟩ _ _ _ _ "key"
    ⟨"assignment", "key:key", "policy", "enabled", 0⟩ hundredUnits (fun taken htaken => ?_) 100 rfl
    fun moment hmoment => ?_
  · obtain ⟨hconfiguration, hclaims, hfacts⟩ := before_admitted htaken
    refine ⟨?_, fun command _ _ => ⟨?_, ?_⟩⟩
    · rw [hconfiguration]
      exact List.mem_singleton_self _
    · rw [hfacts]
      exact fun fact hfact => absurd hfact (Table.not_mem_empty fact)
    · rw [hclaims]
      exact fun claim hclaim => absurd hclaim (Table.not_mem_empty claim)
  · have hle : moment ≤ 60 * 1000 := Int.lt_add_one_iff.mp hmoment.2
    exact Int.sub_nonpos_of_le hle

end Frely.Application
