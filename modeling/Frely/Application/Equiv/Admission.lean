import Frely.Application.Admission
import Frely.Billing.Equiv.Admission
import Frely.RequestExecution.Equiv.Server

/-!
# What the two admissions do

`admitProviderInvocation_eq_ok` and `admitCpaBasicProviderInvocation_eq_ok`: an admission that
returned repeated an attempt, and changed nothing, or it passed every check of
`ProtectedAdmissible` (or `CpaBasicAdmissible`) and persisted a new attempt, which a protected one
occupies its budgets and its reservation for.
-/

namespace Frely.Application

open Frely.Billing Frely.Postgres Frely.RequestExecution Checked Transaction

variable {s s' : Session Database}

/-! ### Protected admission -/

variable {now : Timestamp} {command : AdmitProviderInvocationCommand}
  {userPaygoConcurrencyLimit : Int}

/-- What a new protected admission has checked. -/
structure ProtectedAdmissible (db : Database) (command : AdmitProviderInvocationCommand)
    (now : Timestamp) (admission : ProtectedAdmission) : Prop where
  request : ∃ request, db.requestLogs.find? command.requestId = some request
  index : 0 ≤ command.attemptIndex
  admissible : Admissible db
    (admissionCommand command.toProviderAttemptAdmissionIdentity command.planSubscriptionId)
    admission.decision
  selected : admission.decision.selectedSourceRef = command.planSubscriptionId
  source : ∃ subscription plan message,
    loadPlanSource db.configuration command.planSubscriptionId command.planId now message =
      .ok (subscription, plan) ∧
    assertInvocationPlanBudgets db
      (admissionBudgetInput command subscription admission.maximumChargeUnits now) = .ok () ∧
    assertInvocationDirectBudgets db
      (admissionBudgetInput command subscription admission.maximumChargeUnits now) = .ok ()
  capacity : ∀ accountId, truthy command.usageChargeAccountId = some accountId → ∃ account,
    db.creditAccounts.find? accountId = some account ∧
    heldUnits db.usageReservations accountId + admission.maximumChargeUnits ≤
      account.balanceSnapUnits
  tokens : admission.maximumTokens = command.inputTokens + command.maxOutputTokens
  terms : admission.material.terms = .protectedV1 admission.terms

theorem inspectProtectedAdmission_eq_ok {db : Database} {admission : ProtectedAdmission}
    (h : inspectProtectedAdmission db command userPaygoConcurrencyLimit now = .ok admission) :
    ProtectedAdmissible db command now admission := by
  unfold inspectProtectedAdmission at h
  obtain ⟨account, haccount, h⟩ := bind_eq_ok.mp h
  obtain ⟨_, hrequest, h⟩ := bind_eq_ok.mp h
  obtain ⟨decision, hdecision, h⟩ := bind_eq_ok.mp h
  obtain ⟨_, hselected, h⟩ := bind_eq_ok.mp h
  obtain ⟨⟨subscription, plan⟩, hsource, h⟩ := bind_eq_ok.mp h
  obtain ⟨facts, -, h⟩ := bind_eq_ok.mp h
  obtain ⟨contexts, -, h⟩ := bind_eq_ok.mp h
  obtain ⟨billingTerms, -, h⟩ := bind_eq_ok.mp h
  obtain ⟨maximumChargeUnits, -, h⟩ := bind_eq_ok.mp h
  obtain ⟨_, -, h⟩ := bind_eq_ok.mp h
  obtain ⟨_, hplan, h⟩ := bind_eq_ok.mp h
  obtain ⟨_, -, h⟩ := bind_eq_ok.mp h
  obtain ⟨_, hdirect, h⟩ := bind_eq_ok.mp h
  obtain ⟨_, hcapacity, h⟩ := bind_eq_ok.mp h
  cases h
  obtain ⟨hindex, hadmissible, -⟩ := inspectNewAdmission_eq_ok hdecision
  obtain ⟨request, hfind, -⟩ :=
    (Option.any_eq_true _ _).mp (not_not.mp (rejectIf_eq_ok.mp hrequest))
  exact {
    request := ⟨request, hfind⟩
    index := hindex
    admissible := hadmissible
    selected := not_not.mp (rejectIf_eq_ok.mp hselected)
    source := ⟨subscription, plan, _, hsource, hplan, hdirect⟩
    capacity := by
      intro accountId htruthy
      obtain ⟨found, hfound, rfl⟩ :=
        (lockInvocationBillingAdmissionFunding_eq_ok haccount).2 accountId htruthy
      unfold assertPaygoCapacity at hcapacity
      rw [htruthy] at hcapacity
      have hid : found.id = accountId := Table.key_of_find? hfound
      have hroom := (assertInvocationBillingCapacity_eq_ok hcapacity).1
      exact ⟨found, hfound, hid ▸ hroom⟩
    tokens := rfl
    terms := rfl }

/-- The attempt a protected admission persists. -/
def protectedAttempt (id : String) (command : AdmitProviderInvocationCommand)
    (admission : ProtectedAdmission) (now : Timestamp) : RequestProviderAttempt :=
  newProviderAttempt id command.toProviderAttemptAdmissionIdentity admission.decision now
    admission.material

/-- What a new protected admission changes: it persists an attempt, then occupies for it. -/
inductive AdmittedProtected (db : Database) (command : AdmitProviderInvocationCommand)
    (now : Timestamp) (id : String) (db' : Database) : Prop where
  | intro (admission : ProtectedAdmission) (execution : RequestExecution) (db₁ : Database)
      (usageReservationId : Option String)
      (hadmissible : ProtectedAdmissible db command now admission)
      (hpersisted : PersistedAttempt db command.toProviderAttemptAdmissionIdentity
        admission.decision (protectedAttempt id command admission now) execution db₁)
      (hoccupied : Occupied db₁ (protectedOccupation command admission
        ⟨command.toProviderAttemptAdmissionIdentity, id, now⟩) usageReservationId db')

theorem admitProviderInvocation_eq_ok {result : ProviderInvocationAdmission}
    (h : admitProviderInvocation userPaygoConcurrencyLimit command now s = .ok (result, s')) :
    s'.database = s.database ∨
      AdmittedProtected s.database command now result.providerAttemptId s'.database := by
  unfold admitProviderInvocation at h
  obtain ⟨_, -, h⟩ := run_check_bind.mp h
  obtain ⟨replay, -, h⟩ := run_read_bind.mp h
  cases replay with
  | some replay =>
    obtain ⟨-, rfl⟩ := read_eq_ok.mp h
    exact .inl rfl
  | none =>
    obtain ⟨admission, hinspect, h⟩ := run_read_bind.mp h
    obtain ⟨attempt, s₁, hpersist, h⟩ := run_bind.mp h
    obtain ⟨usageReservationId, s₂, hoccupy, h⟩ := run_bind.mp h
    obtain ⟨rfl, rfl⟩ := run_pure.mp h
    obtain ⟨id, execution, rfl, -, hpersisted⟩ := persistProviderAttempt_eq_ok hpersist
    exact .inr ⟨admission, execution, s₁.database, usageReservationId,
      inspectProtectedAdmission_eq_ok hinspect, hpersisted,
      createInvocationBillingOccupation_eq_ok hoccupy⟩

/-! ### Claimless admission -/

variable {localeCompare : String → String → Ordering}

/-- What a new claimless admission has checked. -/
structure CpaBasicAdmissible (db : Database) (command : AdmitCpaBasicProviderInvocationCommand)
    (admission : CpaBasicAdmission) : Prop where
  request : ∃ request, db.requestLogs.find? command.requestId = some request ∧
    request.planSubscriptionId = some command.planSubscriptionId
  index : 0 ≤ command.attemptIndex
  admissible : Admissible db
    (admissionCommand command.toProviderAttemptAdmissionIdentity command.planSubscriptionId)
    admission.decision
  terms : ∃ terms, admission.material.terms = .cpaBasicV1 terms ∧
    terms.planSubscriptionId = command.planSubscriptionId

theorem inspectCpaBasicAdmission_eq_ok {db : Database}
    {command : AdmitCpaBasicProviderInvocationCommand} {admission : CpaBasicAdmission}
    (h : inspectCpaBasicAdmission localeCompare db command now = .ok admission) :
    CpaBasicAdmissible db command admission := by
  unfold inspectCpaBasicAdmission at h
  obtain ⟨request, hrequest, h⟩ := bind_eq_ok.mp h
  obtain ⟨_, -, h⟩ := bind_eq_ok.mp h
  obtain ⟨⟨subscription, plan⟩, -, h⟩ := bind_eq_ok.mp h
  obtain ⟨_, -, h⟩ := bind_eq_ok.mp h
  obtain ⟨_, -, h⟩ := bind_eq_ok.mp h
  obtain ⟨_, -, h⟩ := bind_eq_ok.mp h
  obtain ⟨_, -, h⟩ := bind_eq_ok.mp h
  obtain ⟨facts, -, h⟩ := bind_eq_ok.mp h
  obtain ⟨_, -, h⟩ := bind_eq_ok.mp h
  obtain ⟨contexts, -, h⟩ := bind_eq_ok.mp h
  obtain ⟨frozen, -, h⟩ := bind_eq_ok.mp h
  obtain ⟨decision, hdecision, h⟩ := bind_eq_ok.mp h
  cases h
  obtain ⟨hindex, hadmissible, -⟩ := inspectNewAdmission_eq_ok hdecision
  refine ⟨?_, hindex, hadmissible, _, rfl, rfl⟩
  unfold loadCpaBasicRequest at hrequest
  split at hrequest
  · cases hrequest
  · next found hfound =>
      cases hrequest
      obtain ⟨hfind, hmatches⟩ := Option.filter_eq_some_iff.mp hfound
      simp only [Bool.and_eq_true, decide_eq_true_eq] at hmatches
      exact ⟨request, hfind, hmatches.1.2⟩

/-- What a new claimless admission changes. -/
inductive AdmittedCpaBasic (db : Database) (command : AdmitCpaBasicProviderInvocationCommand)
    (now : Timestamp) (id : String) (db' : Database) : Prop where
  | intro (admission : CpaBasicAdmission) (execution : RequestExecution)
      (hadmissible : CpaBasicAdmissible db command admission)
      (hpersisted : PersistedAttempt db command.toProviderAttemptAdmissionIdentity
        admission.decision (newProviderAttempt id command.toProviderAttemptAdmissionIdentity
          admission.decision now admission.material) execution db')

theorem admitCpaBasicProviderInvocation_eq_ok {command : AdmitCpaBasicProviderInvocationCommand}
    {result : CpaBasicProviderInvocationAdmission}
    (h : admitCpaBasicProviderInvocation localeCompare command now s = .ok (result, s')) :
    s'.database = s.database ∨
      AdmittedCpaBasic s.database command now result.providerAttemptId s'.database := by
  unfold admitCpaBasicProviderInvocation at h
  obtain ⟨_, -, h⟩ := run_check_bind.mp h
  obtain ⟨existing, -, h⟩ := run_read_bind.mp h
  split_ifs at h
  · obtain ⟨-, rfl⟩ := read_eq_ok.mp h
    exact .inl rfl
  · obtain ⟨admission, hinspect, h⟩ := run_read_bind.mp h
    obtain ⟨attempt, s₁, hpersist, h⟩ := run_bind.mp h
    obtain ⟨rfl, rfl⟩ := run_pure.mp h
    obtain ⟨id, execution, rfl, -, hpersisted⟩ := persistProviderAttempt_eq_ok hpersist
    exact .inr ⟨admission, execution, inspectCpaBasicAdmission_eq_ok hinspect, hpersisted⟩

end Frely.Application
