import Frely.Billing.Admission

/-!
# What an admission has checked and what it occupies

`assertInvocationPlanBudgets_eq_ok` and `assertInvocationDirectBudgets_eq_ok`: an admission that
passed leaves every budget room for its own maximum.  `assertInvocationBillingCapacity_eq_ok`: its
charge fits into what the other holds leave of the balance.
`createInvocationBillingOccupation_eq_ok`: the claim and the reservation it writes.
-/

namespace Frely.Billing

open Frely.Postgres Checked Transaction

variable {s s' : Session Database}

/-! ### The account -/

variable {db : Database}

theorem lockInvocationBillingAdmissionFunding_eq_ok {userId : String}
    {usageChargeAccountId : Option String} {account : Option LockedCreditAccount}
    (h : lockInvocationBillingAdmissionFunding db userId usageChargeAccountId = .ok account) :
    (∀ locked ∈ account, 0 ≤ locked.balanceSnapUnits) ∧
      ∀ accountId, truthy usageChargeAccountId = some accountId → ∃ found,
        db.creditAccounts.find? accountId = some found ∧
        account = some (CreditAccount.locked found) := by
  unfold lockInvocationBillingAdmissionFunding at h
  obtain ⟨_, hbalance, h⟩ := bind_eq_ok.mp h
  have hnot := rejectIf_eq_ok.mp hbalance
  cases htruthy : truthy usageChargeAccountId with
  | none =>
    simp only [htruthy] at h hnot
    cases h
    refine ⟨?_, by simp⟩
    intro locked hlocked
    exact not_lt.mp fun hnegative => hnot ⟨locked, hlocked, hnegative⟩
  | some accountId =>
    simp only [htruthy] at h hnot
    obtain ⟨_, hactive, h⟩ := bind_eq_ok.mp h
    obtain ⟨_, -, h⟩ := bind_eq_ok.mp h
    cases h
    refine ⟨?_, ?_⟩
    · intro locked hlocked
      exact not_lt.mp fun hnegative => hnot ⟨locked, hlocked, hnegative⟩
    · rintro _ ⟨⟩
      have hany := not_not.mp (rejectIf_eq_ok.mp hactive)
      obtain ⟨locked, hlocked, -⟩ := (Option.any_eq_true _ _).mp hany
      obtain ⟨found, hfind, rfl⟩ := Option.map_eq_some_iff.mp hlocked
      exact ⟨found, hfind, hlocked⟩

/-! ### Budgets -/

variable {u : Unit} {input : InvocationBillingBudgetInput}

/-- What is settled and claimed of a budget in a window. -/
def spentIn (db : Database) (window : BudgetWindow) (selection : BudgetSelection) : Int :=
  settledIn db window selection + claimedIn db window selection

theorem assertPlanBudget_eq_ok {limit : PlanBudgetLimit} {window : BudgetWindow}
    (h : assertPlanBudget db input limit window = .ok u) :
    ∃ allowed, budgetAllowed limit.metric limit.limitValue limit.limitAmountUnits = some allowed ∧
      spentIn db window (planBudgetSelection limit input.planSubscriptionId input.userId) +
        input.maximum limit.metric ≤ allowed := by
  unfold assertPlanBudget at h
  dsimp only at h
  split at h
  · cases h
  · next allowed hallowed => exact ⟨allowed, hallowed, not_lt.mp (rejectIf_eq_ok.mp h)⟩

/-- Every limit of the Plan has room for the admission in the window it falls in. -/
theorem assertInvocationPlanBudgets_eq_ok (h : assertInvocationPlanBudgets db input = .ok u) :
    ∀ limit ∈ db.configuration.planBudgetLimits, limit.planId = input.planId →
      ∃ window allowed,
        fixedBudgetWindow input.subscriptionEffectiveStart input.subscriptionEffectiveEnd
          limit.windowType limit.windowSeconds input.occurredAt = .ok window ∧
        budgetAllowed limit.metric limit.limitValue limit.limitAmountUnits = some allowed ∧
        spentIn db window (planBudgetSelection limit input.planSubscriptionId input.userId) +
          input.maximum limit.metric ≤ allowed := by
  unfold assertInvocationPlanBudgets at h
  obtain ⟨windows, hwindows, hall⟩ := bind_eq_ok.mp h
  intro limit hlimit hplan
  have hmem : limit ∈ db.configuration.planBudgetLimits.filter (·.planId = input.planId) :=
    List.mem_filter.mpr ⟨hlimit, decide_eq_true hplan⟩
  obtain ⟨⟨found, window⟩, hfound, hcomputed⟩ := exists_of_mapM_eq_ok hwindows limit hmem
  obtain ⟨window', hwindow, hpair⟩ := bind_eq_ok.mp hcomputed
  cases hpair
  obtain ⟨allowed, hallowed, hroom⟩ := assertPlanBudget_eq_ok (forAll_eq_ok.mp hall _ hfound)
  exact ⟨window, allowed, hwindow, hallowed, hroom⟩

/-- The window a policy is checked in, which ends before the moment of the admission. -/
def directBudgetWindow (assignment : ScopeBudgetPolicy) (policy : BudgetPolicy)
    (occurredAt : Timestamp) : BudgetWindow :=
  ⟨budgetPolicyStart assignment policy occurredAt, occurredAt⟩

/-- What a policy of an API key counts. -/
def directBudgetSelection (policy : BudgetPolicy) (apiKeyId : String) : BudgetSelection :=
  budgetSelection policy.metric (·.apiKeyId = apiKeyId)

/-- Every policy of the API key has room for the admission. -/
theorem assertInvocationDirectBudgets_eq_ok (h : assertInvocationDirectBudgets db input = .ok u) :
    ∀ active ∈ activeAssignments db.configuration input.apiKeyId, ∃ allowed,
      budgetAllowed active.2.metric active.2.limitValue active.2.limitAmountUnits = some allowed ∧
      spentIn db (directBudgetWindow active.1 active.2 input.occurredAt)
        (directBudgetSelection active.2 input.apiKeyId) + input.maximum active.2.metric ≤
          allowed := by
  intro active hactive
  have hassert := forAll_eq_ok.mp h active hactive
  unfold assertDirectBudget at hassert
  dsimp only at hassert
  split at hassert
  · cases hassert
  · next allowed hallowed => exact ⟨allowed, hallowed, not_lt.mp (rejectIf_eq_ok.mp hassert)⟩

/-! ### Spendable balance -/

/-- The charge fits into the balance next to the other holds. -/
theorem assertInvocationBillingCapacity_eq_ok {db : Database} {account : LockedCreditAccount}
    {userId : String} {requiredUnits userPaygoConcurrencyLimit : Int} {u : Unit}
    (h : assertInvocationBillingCapacity db account userId requiredUnits
      userPaygoConcurrencyLimit = .ok u) :
    heldUnits db.usageReservations account.id + requiredUnits ≤ account.balanceSnapUnits ∧
      ((db.usageReservations.rows.countP fun reservation =>
        reservation.userId = userId && reservation.status.isOpen : Nat) : Int) <
          userPaygoConcurrencyLimit := by
  unfold assertInvocationBillingCapacity at h
  obtain ⟨_, hspendable, hconcurrent⟩ := bind_eq_ok.mp h
  have hnot := rejectIf_eq_ok.mp hspendable
  rw [not_lt] at hnot
  refine ⟨by omega, not_le.mp (rejectIf_eq_ok.mp hconcurrent)⟩

/-! ### Occupation -/

/-- What an admission occupies. -/
structure Occupied (db : Database) (input : InvocationBillingOccupationInput)
    (usageReservationId : Option String) (db' : Database) : Prop where
  claims : db.budgetClaims.insert? (newBudgetClaim input) = some db'.budgetClaims
  claim_accepted : acceptsClaim db (newBudgetClaim input)
  reservations :
    (truthy input.usageChargeAccountId = none ∧ usageReservationId = none ∧
      db'.usageReservations = db.usageReservations) ∨
    ∃ creditAccountId id, truthy input.usageChargeAccountId = some creditAccountId ∧
      usageReservationId = some id ∧
      db.usageReservations.insert? (newUsageReservation input id creditAccountId) =
        some db'.usageReservations ∧
      acceptsReservation db (newUsageReservation input id creditAccountId)
  frame : db' = { db with
    budgetClaims := db'.budgetClaims
    usageReservations := db'.usageReservations }

theorem createInvocationBillingOccupation_eq_ok {input : InvocationBillingOccupationInput}
    {usageReservationId : Option String}
    (h : createInvocationBillingOccupation input s = .ok (usageReservationId, s')) :
    Occupied s.database input usageReservationId s'.database := by
  unfold createInvocationBillingOccupation at h
  obtain ⟨_, -, h⟩ := run_check_bind.mp h
  obtain ⟨_, s₁, hclaim, h⟩ := run_bind.mp h
  obtain ⟨haccepts, claims, hinsert, hset₁⟩ := create_eq_ok hclaim
  cases htruthy : truthy input.usageChargeAccountId with
  | none =>
    simp only [htruthy] at h
    obtain ⟨rfl, rfl⟩ := run_pure.mp h
    exact {
      claims := by
        rw [hset₁]
        exact hinsert
      claim_accepted := haccepts
      reservations := by
        rw [hset₁]
        exact .inl ⟨htruthy, rfl, rfl⟩
      frame := by
        rw [hset₁]
        rfl }
  | some creditAccountId =>
    simp only [htruthy] at h
    obtain ⟨id, s₂, hid, h⟩ := run_bind.mp h
    obtain ⟨_, s₃, hreservation, h⟩ := run_bind.mp h
    obtain ⟨rfl, rfl⟩ := run_pure.mp h
    obtain ⟨haccepted, reservations, hreserved, hset₃⟩ := create_eq_ok hreservation
    rw [createId_eq_ok hid, hset₁] at haccepted hreserved hset₃
    exact {
      claims := by
        rw [hset₃]
        exact hinsert
      claim_accepted := haccepts
      reservations := by
        rw [hset₃]
        exact .inr ⟨creditAccountId, id, htruthy, rfl, hreserved, haccepted⟩
      frame := by
        rw [hset₃]
        rfl }

end Frely.Billing
