import Frely.Application.Commands
import Frely.Application.Equiv.Admission
import Frely.Billing.Equiv.Settlement

/-!
# What one step does

`step_transition`: whatever the command, its environment and its failures, a step leaves the
database as it was or makes one of the changes of `Transition`.  The invariants of the service are
proved from these changes, one case each, and never unfold a command.

A settlement asks twice whether an attempt has final usage: request execution looks at the attempt,
billing at the usage facts.  `FactsMatch` says that the two agree; it is part of the invariant
that every transition keeps, and a step is only a transition of a database where it holds.
-/

namespace Frely.Application

open Frely.Billing Frely.Postgres Frely.RequestExecution Checked Transaction

variable {s s' : Session Database}

/-- An attempt is settled exactly when it has a usage fact. -/
def FactsMatch (db : Database) : Prop :=
  ∀ attempt ∈ db.requestProviderAttempts,
    attempt.usageSettled = (db.providerInvocationUsageFacts.find? attempt.id).isSome

/-! ### Suspension -/

variable {now : Timestamp}

/-- How an attempt comes to wait for its final usage: its owner lost the execution, or a command
reported how it ended. -/
inductive Suspends (old : RequestProviderAttempt) :
    RequestProviderAttempt → ReconciledCostExposure → Prop where
  | abandoned (now : Timestamp) (hpending : old.outcome = none) :
      Suspends old (abandonedAttempt now old) .accruing
  | reconciling (command : ReconcileProviderInvocationCommand) (expected : ExpectedEvidence)
      (now : Timestamp) (conflict : RelayError)
      (hreason : assertReconciliationReason command.reason = .ok ())
      (hexpected : expectedEvidence old command.toProviderAttemptEvidence conflict = .ok expected)
      (hnot : ¬alreadyReconciling old command)
      (hexposure : ¬(old.costExposure = .stopped ∧ command.costExposure = .accruing)) :
      Suspends old (reconcilingAttempt command expected now old) command.costExposure

/-- What a suspension changes: the attempt, perhaps its execution, and then its reservation. -/
inductive Suspended (db : Database) : Database → Prop where
  | intro (old new : RequestProviderAttempt) (costExposure : ReconciledCostExposure)
      (now : Timestamp) (db₁ db' : Database) (hsuspends : Suspends old new costExposure)
      (hupdated : UpdatedAttempt db old new db₁)
      (hmarked : Marked db₁ old.id costExposure now db') : Suspended db db'

/-- What entering reconciliation does: nothing, when the attempt waits for its usage already, or
it suspends the attempt with the evidence of the command. -/
inductive Entered (db : Database) (command : ReconcileProviderInvocationCommand)
    (now : Timestamp) : Database → Prop where
  | already (attempt : RequestProviderAttempt) (expected : ExpectedEvidence)
      (conflict : RelayError)
      (hfind : db.requestProviderAttempts.find? command.providerAttemptRef = some attempt)
      (hexpected : expectedEvidence attempt command.toProviderAttemptEvidence conflict =
        .ok expected)
      (halready : alreadyReconciling attempt command) : Entered db command now db
  | transitioned (attempt : RequestProviderAttempt) (expected : ExpectedEvidence)
      (conflict : RelayError) (hreason : assertReconciliationReason command.reason = .ok ())
      (hfind : db.requestProviderAttempts.find? command.providerAttemptRef = some attempt)
      (hexpected : expectedEvidence attempt command.toProviderAttemptEvidence conflict =
        .ok expected)
      (hnot : ¬alreadyReconciling attempt command)
      (hexposure : ¬(attempt.costExposure = .stopped ∧ command.costExposure = .accruing))
      (db₁ db' : Database)
      (hupdated : UpdatedAttempt db attempt (reconcilingAttempt command expected now attempt) db₁)
      (hmarked : Marked db₁ attempt.id command.costExposure now db') :
      Entered db command now db'

theorem enterReconciliation_eq_ok {command : ReconcileProviderInvocationCommand} {u : Unit}
    (h : enterReconciliation command now s = .ok (u, s')) :
    Entered s.database command now s'.database := by
  unfold enterReconciliation at h
  obtain ⟨decision, s₁, hreconcile, h⟩ := run_bind.mp h
  have hreconciled := reconcileProviderInvocation_eq_ok hreconcile
  generalize hdb : s₁.database = db₁ at hreconciled
  cases hreconciled with
  | already attempt expected status hlock halready =>
    obtain ⟨-, hfind, -, hexpected⟩ := lockReconciliation_eq_ok hlock
    obtain ⟨-, rfl⟩ := run_pure.mp h
    rw [hdb]
    exact .already attempt expected _ hfind hexpected halready
  | transitioned attempt expected status hlock hnot hexposure _ hupdated =>
    obtain ⟨hreason, hfind, -, hexpected⟩ := lockReconciliation_eq_ok hlock
    have hid : attempt.id = command.providerAttemptRef := Table.key_of_find? hfind
    have hmarked := markInvocationBillingReconciliation_eq_ok h
    rw [hdb, ← hid] at hmarked
    exact .transitioned attempt expected _ hreason hfind hexpected hnot hexposure db₁ _ hupdated
      hmarked

theorem Entered.suspended {db db' : Database} {command : ReconcileProviderInvocationCommand}
    (h : Entered db command now db') : db' = db ∨ Suspended db db' := by
  cases h with
  | already attempt expected conflict hfind hexpected halready => exact .inl rfl
  | transitioned attempt expected conflict hreason hfind hexpected hnot hexposure db₁ _ hupdated
      hmarked =>
    exact .inr (.intro attempt _ command.costExposure now db₁ db'
      (.reconciling command expected now conflict hreason hexpected hnot hexposure) hupdated
      hmarked)

/-! ### Dispatch -/

/-- What asserting the ownership of a dispatch answers and changes. -/
inductive OwnershipAsserted (db : Database) (providerAttemptId requestId executionOwnerId : String)
    (now : Timestamp) : Bool → Database → Prop where
  | refused : OwnershipAsserted db providerAttemptId requestId executionOwnerId now false db
  | owned (attempt : RequestProviderAttempt) (execution : RequestExecution)
      (lease : RequestExecutionLease)
      (hstate : dispatchState db providerAttemptId requestId = some (attempt, execution, lease))
      (howns : ownsDispatch attempt execution lease executionOwnerId now) (db' : Database)
      (hupdated : UpdatedAttempt db attempt (dispatchedAttempt attempt) db') :
      OwnershipAsserted db providerAttemptId requestId executionOwnerId now true db'
  | abandoned (db' : Database) (hsuspended : Suspended db db') :
      OwnershipAsserted db providerAttemptId requestId executionOwnerId now false db'

theorem assertDispatchOwnership_eq_ok {providerAttemptId requestId executionOwnerId : String}
    {now : Timestamp} {owned : Bool}
    (h : assertDispatchOwnership providerAttemptId requestId executionOwnerId now s =
      .ok (owned, s')) :
    OwnershipAsserted s.database providerAttemptId requestId executionOwnerId now owned
      s'.database := by
  unfold assertDispatchOwnership at h
  obtain ⟨decision, s₁, hdispatch, h⟩ := run_bind.mp h
  have hdispatched := assertProviderInvocationDispatch_eq_ok hdispatch
  generalize hdb : s₁.database = db₁ at hdispatched
  cases hdispatched with
  | refused =>
    obtain ⟨rfl, rfl⟩ := run_pure.mp h
    rw [hdb]
    exact .refused
  | owned attempt execution lease hstate howns _ hupdated =>
    obtain ⟨rfl, rfl⟩ := run_pure.mp h
    rw [hdb]
    exact .owned attempt execution lease hstate howns db₁ hupdated
  | abandoned attempt execution lease hstate hnot hpending _ hupdated =>
    obtain ⟨_, s₂, hmark, h⟩ := run_bind.mp h
    obtain ⟨rfl, rfl⟩ := run_pure.mp h
    have hid : attempt.id = providerAttemptId :=
      Table.key_of_find? (dispatchState_eq_some hstate).1
    have hmarked := markInvocationBillingReconciliation_eq_ok hmark
    rw [hdb, ← hid] at hmarked
    exact .abandoned _ (.intro attempt _ .accruing now db₁ _ (.abandoned now hpending) hupdated
      hmarked)

/-! ### Settlement -/

variable {command : SettleProviderInvocationCommand} {requireReconciliation : Bool}
  {contract : Option InvocationContract} {result : InvocationBillingSettlementResult}
  {settings : Settings} {zeroReservationOutcome : ZeroReservationOutcome}

/-- What billing settles an attempt with. -/
def settlementInput (db : Database) (command : SettleProviderInvocationCommand)
    (zeroReservationOutcome : ZeroReservationOutcome) (now : Timestamp)
    (attempt : RequestProviderAttempt) : SettleInvocationBillingInput where
  billableInvocationRef := command.providerAttemptId
  usage := command.usage
  zeroReservationOutcome := zeroReservationOutcome
  account := lockInvocationBillingSettlementAccount db command.providerAttemptId
  settledAt := now
  attempt := billingAttemptSnapshot attempt attempt.startedAt

/-- The decision to finalize an attempt. -/
def finalizationDecision (attempt : RequestProviderAttempt) (expected : ExpectedEvidence) :
    ProviderInvocationFinalizationDecision where
  providerAttemptRef := attempt.id
  requestId := attempt.identity.requestId
  invocationContract := attempt.invocationContract
  startedAt := attempt.startedAt
  expected := expected
  alreadyFinalized := attempt.usageSettled

/-- What the final usage of an attempt changes: billing books it, then the attempt, and perhaps
its execution, ends. -/
inductive FinalUsage (db : Database) (command : SettleProviderInvocationCommand)
    (zeroReservationOutcome : ZeroReservationOutcome) (now : Timestamp)
    (fact : ProviderInvocationUsageFact) : Database → Prop where
  | intro (attempt : RequestProviderAttempt) (expected : ExpectedEvidence) (conflict : RelayError)
      (db₁ db' : Database)
      (hfind : db.requestProviderAttempts.find? command.providerAttemptId = some attempt)
      (hunsettled : attempt.usageSettled = false)
      (hexpected : expectedEvidence attempt command.toProviderAttemptEvidence conflict =
        .ok expected)
      (hsettled : Settled db (settlementInput db command zeroReservationOutcome now attempt) fact
        db₁)
      (hupdated : UpdatedAttempt db₁ attempt
        (finalizedAttempt (finalizationDecision attempt expected) (finalizeCommand command) now
          attempt) db') :
      FinalUsage db command zeroReservationOutcome now fact db'

/-- A settlement that returned: it repeats a stored fact, or it stores one. -/
inductive SettlementAnswered (db : Database) (command : SettleProviderInvocationCommand)
    (zeroReservationOutcome : ZeroReservationOutcome) (now : Timestamp) :
    InvocationBillingSettlementResult → Database → Prop where
  | replayed (fact : ProviderInvocationUsageFact)
      (hfind : db.providerInvocationUsageFacts.find? command.providerAttemptId = some fact)
      (husage : fact.usage = command.usage) :
      SettlementAnswered db command zeroReservationOutcome now (storedSettlement fact) db
  | settled (fact : ProviderInvocationUsageFact) (db' : Database)
      (hfinal : FinalUsage db command zeroReservationOutcome now fact db') :
      SettlementAnswered db command zeroReservationOutcome now
        { storedSettlement fact with replayed := false } db'

theorem lockSettlement_eq_ok {db : Database} {decision : ProviderInvocationFinalizationDecision}
    {snapshot : InvocationBillingAttemptSnapshot}
    (h : lockSettlement db command requireReconciliation contract = .ok (decision, snapshot)) :
    ∃ attempt expected conflict,
      db.requestProviderAttempts.find? command.providerAttemptId = some attempt ∧
      expectedEvidence attempt command.toProviderAttemptEvidence conflict = .ok expected ∧
      decision = finalizationDecision attempt expected ∧
      snapshot = billingAttemptSnapshot attempt attempt.startedAt := by
  unfold lockSettlement at h
  obtain ⟨locked, hlock, h⟩ := bind_eq_ok.mp h
  obtain ⟨_, -, h⟩ := bind_eq_ok.mp h
  obtain ⟨found, hread, h⟩ := bind_eq_ok.mp h
  cases h
  obtain ⟨attempt, request, expected, hfind, -, -, hexpected, rfl⟩ := lockFinalization_eq_ok hlock
  have hfind' : db.requestProviderAttempts.find? command.providerAttemptId = some attempt := hfind
  have hid : attempt.id = command.providerAttemptId := Table.key_of_find? hfind'
  refine ⟨attempt, expected, _, hfind', hexpected, rfl, ?_⟩
  unfold readInvocationBillingAttemptSnapshot at hread
  dsimp only at hread
  rw [hid, hfind'] at hread
  exact (Except.ok.inj hread).symm

theorem settleFinalUsage_eq_ok {settings : Settings} {command : SettleProviderInvocationCommand}
    {zeroReservationOutcome : ZeroReservationOutcome} {requireReconciliation : Bool}
    {contract : Option InvocationContract} {now : Timestamp}
    {result : InvocationBillingSettlementResult} (hmatch : FactsMatch s.database)
    (h : settleFinalUsage settings command zeroReservationOutcome requireReconciliation contract
      now s = .ok (result, s')) :
    SettlementAnswered s.database command zeroReservationOutcome now result s'.database := by
  unfold settleFinalUsage at h
  obtain ⟨_, -, h⟩ := run_check_bind.mp h
  obtain ⟨account, haccount, h⟩ := run_read_bind.mp h
  cases haccount
  obtain ⟨⟨decision, snapshot⟩, hlock, h⟩ := run_read_bind.mp h
  dsimp only at h
  obtain ⟨settled, s₁, hbilling, h⟩ := run_bind.mp h
  obtain ⟨_, s₂, hcomplete, h⟩ := run_bind.mp h
  obtain ⟨rfl, rfl⟩ := run_pure.mp h
  obtain ⟨attempt, expected, conflict, hfind, hexpected, rfl, rfl⟩ := lockSettlement_eq_ok hlock
  have hid : attempt.id = command.providerAttemptId := Table.key_of_find? hfind
  have hagree := hmatch attempt (Table.mem_of_find? hfind)
  rw [hid] at hagree
  rcases settleInvocationBilling_eq_ok rfl hbilling with
    ⟨fact, hfact, husage, rfl, rfl⟩ | ⟨hnone, fact, hsettled, rfl⟩
  · -- the usage is final: nothing is finalized again
    rw [hfact] at hagree
    have hfinal : (finalizationDecision attempt expected).alreadyFinalized = true := hagree
    unfold completeFinalization at hcomplete
    rw [if_pos hfinal] at hcomplete
    obtain ⟨-, rfl⟩ := run_pure.mp hcomplete
    exact .replayed fact hfact husage
  · rw [hnone] at hagree
    have hattempts : s₁.database.requestProviderAttempts =
        s.database.requestProviderAttempts := by
      rw [hsettled.frame]
    have hfind₁ : s₁.database.requestProviderAttempts.find?
        (finalizationDecision attempt expected).providerAttemptRef = some attempt := by
      rw [hattempts]
      change s.database.requestProviderAttempts.find? attempt.id = some attempt
      rw [hid]
      exact hfind
    have hupdated := completeFinalization_eq_ok hfind₁ hagree hcomplete
    exact .settled fact _ (.intro attempt expected conflict s₁.database _ hfind hagree hexpected
      hsettled hupdated)

theorem reconcileFinalUsage_eq_ok {command : ReconcileFinalProviderInvocationCommand}
    (hmatch : FactsMatch s.database)
    (h : reconcileFinalUsage settings command now s = .ok (result, s')) :
    SettlementAnswered s.database command.toSettleProviderInvocationCommand .settled now result
      s'.database := by
  unfold reconcileFinalUsage at h
  obtain ⟨_, -, h⟩ := run_check_bind.mp h
  obtain ⟨settled, s₁, hsettle, h⟩ := run_bind.mp h
  obtain ⟨_, s₂, haudit, h⟩ := run_bind.mp h
  obtain ⟨rfl, rfl⟩ := run_pure.mp h
  have hsame : s₁.database = s'.database := Option.some.inj (write_eq_ok haudit)
  rw [← hsame]
  exact settleFinalUsage_eq_ok hmatch hsettle

theorem releaseNotStarted_eq_ok {command : ReleaseNotStartedCommand}
    (hmatch : FactsMatch s.database)
    (h : releaseNotStarted settings command now s = .ok (result, s')) :
    ∃ settled, SettlementAnswered s.database (releaseCommand command) .released now settled
        s'.database ∧
      result = ⟨0, none, settled.billingEventId, settled.replayed⟩ := by
  unfold releaseNotStarted at h
  obtain ⟨settled, s₁, hsettle, h⟩ := run_bind.mp h
  obtain ⟨rfl, rfl⟩ := run_pure.mp h
  exact ⟨settled, settleFinalUsage_eq_ok hmatch hsettle, rfl⟩

/-! ### The request log -/

/-- What a write of the request log changes. -/
theorem writeRequestLog_eq_ok {row : RequestLog} {u : Unit}
    (h : writeRequestLog row s = .ok (u, s')) :
    (∀ old, s.database.requestLogs.find? row.id = some old →
      acceptsRequestLogUpdate s.database old row) ∧
      s'.database = { s.database with requestLogs := s.database.requestLogs.put row } := by
  have hwrite := write_eq_ok h
  cases hfind : s.database.requestLogs.find? row.id with
  | none =>
    rw [hfind] at hwrite
    exact ⟨by simp, (Option.some.inj hwrite).symm⟩
  | some old =>
    rw [hfind] at hwrite
    dsimp only at hwrite
    split_ifs at hwrite with haccepts
    refine ⟨?_, (Option.some.inj hwrite).symm⟩
    rintro _ ⟨⟩
    exact haccepts

/-! ### Steps -/

/-- The commands on leases. -/
def Command.isLease : Command → Prop
  | .acquireLease _ _ _ => True
  | .renewLease _ _ _ => True
  | .releaseLease _ _ => True
  | _ => False

/-- What one step can do to the database. -/
inductive Transition (input : Input) (db : Database) : Database → Prop where
  | idle : Transition input db db
  | leased (leases : Table RequestExecutionLease) (hcommand : input.command.isLease) :
      Transition input db { db with requestExecutionLeases := leases }
  | logged (row : RequestLog)
      (haccepts : ∀ old, db.requestLogs.find? row.id = some old →
        acceptsRequestLogUpdate db old row) :
      Transition input db { db with requestLogs := db.requestLogs.put row }
  | reconfigured (configuration : Configuration)
      (hcommand : input.command = .reconfigure configuration) :
      Transition input db { db with configuration := configuration }
  | admittedProtected (command : AdmitProviderInvocationCommand)
      (hcommand : input.command = .admitProtected command) (id : String) (db' : Database)
      (hadmitted : AdmittedProtected db command input.environment.now id db') :
      Transition input db db'
  | admittedCpaBasic (command : AdmitCpaBasicProviderInvocationCommand)
      (hcommand : input.command = .admitCpaBasic command) (id : String) (db' : Database)
      (hadmitted : AdmittedCpaBasic db command input.environment.now id db') :
      Transition input db db'
  | dispatched (attempt : RequestProviderAttempt) (db' : Database)
      (hpending : attempt.outcome = none)
      (hupdated : UpdatedAttempt db attempt (dispatchedAttempt attempt) db') :
      Transition input db db'
  | suspended (db' : Database) (hsuspended : Suspended db db') : Transition input db db'
  | settled (command : SettleProviderInvocationCommand)
      (zeroReservationOutcome : ZeroReservationOutcome) (now : Timestamp)
      (fact : ProviderInvocationUsageFact) (db' : Database)
      (hfinal : FinalUsage db command zeroReservationOutcome now fact db') :
      Transition input db db'
  | failed (executions : Table RequestExecution)
      (harbitrated : Arbitrated db.requestExecutions executions) :
      Transition input db { db with requestExecutions := executions }

variable {settings : Settings} {input : Input} {db db' : Database}

theorem OwnershipAsserted.transition {providerAttemptId requestId executionOwnerId : String}
    {owned : Bool}
    (h : OwnershipAsserted db providerAttemptId requestId executionOwnerId now owned db') :
    Transition input db db' := by
  cases h with
  | refused => exact .idle
  | owned attempt execution lease hstate howns _ hupdated =>
    exact .dispatched attempt db' howns.2.1 hupdated
  | abandoned _ hsuspended => exact .suspended db' hsuspended

theorem SettlementAnswered.transition
    (h : SettlementAnswered db command zeroReservationOutcome now result db') :
    Transition input db db' := by
  cases h with
  | replayed fact hfind husage => exact .idle
  | settled fact _ hfinal => exact .settled command zeroReservationOutcome now fact db' hfinal

theorem enterReconciliation_transition {command : ReconcileProviderInvocationCommand} {u : Unit}
    (h : enterReconciliation command now s = .ok (u, s')) :
    Transition input s.database s'.database := by
  rcases (enterReconciliation_eq_ok h).suspended with hsame | hsuspended
  · rw [hsame]
    exact .idle
  · exact .suspended _ hsuspended

/-- A live settlement is a settlement, or the suspension after one that failed. -/
theorem settleCpaBasicLive_transition {command : SettleProviderInvocationCommand}
    {environment fallback : Environment} (hmatch : FactsMatch db) :
    Transition input db (settleCpaBasicLive settings command environment fallback db).2 := by
  unfold settleCpaBasicLive
  dsimp only
  split
  · next result hsettled =>
      obtain ⟨s', hrun, hcommitted⟩ := commit_ok hsettled
      rw [hcommitted]
      exact (settleFinalUsage_eq_ok hmatch hrun).transition
  · next failure hsettled =>
      -- the failed settlement was rolled back
      have hsame := commit_error hsettled
      have htransition : Transition input db (commit
          (transitionFailedCpaBasicSettlement command.providerAttemptId
            (fallbackEvidence command) fallback.now) (fallback.session db)).2 :=
        commit_preserves .idle enterReconciliation_transition
      change _ = db at hsame
      rw [hsame]
      split
      · exact htransition
      · exact htransition

/-- A command that fails leaves the database as it was. -/
theorem execute_cases {α : Type} (environment : Environment) (db : Database) (answer : α → Answer)
    (transaction : TransactionClient α) :
    (∃ failure, execute environment db answer transaction = (.error failure, db)) ∨
      ∃ a s', transaction (environment.session db) = .ok (a, s') ∧
        execute environment db answer transaction = (.ok (answer a), s'.database) := by
  unfold execute commit
  cases hrun : transaction (environment.session db) with
  | error failure => exact .inl ⟨failure, rfl⟩
  | ok result => exact .inr ⟨result.1, result.2, rfl, rfl⟩

theorem execute_transition {α : Type} {answer : α → Answer} {transaction : TransactionClient α}
    (h : ∀ {a : α} {s' : Session Database},
      transaction (input.environment.session db) = .ok (a, s') → Transition input db s'.database) :
    Transition input db (execute input.environment db answer transaction).2 :=
  commit_preserves .idle h

/-- **Steps.** A step of the service makes one of the transitions. -/
theorem step_transition (hmatch : FactsMatch db) :
    Transition input db (step settings input db).2 := by
  unfold step
  dsimp only
  -- each command by what it writes when it returns; a rollback is `idle`
  cases hcommand : input.command with
  | acquireLease requestId ownerId leaseTtlSeconds =>
    refine execute_transition fun h => ?_
    rw [(acquireRequestExecutionLease_eq_ok h).2.2.2.2]
    exact .leased _ (hcommand ▸ trivial)
  | renewLease requestId ownerId leaseTtlSeconds =>
    refine execute_transition fun h => ?_
    rw [(renewRequestExecutionLease_eq_ok h).2.2.2.2]
    exact .leased _ (hcommand ▸ trivial)
  | releaseLease requestId ownerId =>
    refine execute_transition fun h => ?_
    rcases releaseRequestExecutionLease_eq_ok h with ⟨-, hsame⟩ | ⟨-, -, hset⟩
    · rw [hsame]
      exact .idle
    · rw [hset]
      exact .leased _ (hcommand ▸ trivial)
  | admitProtected command =>
    refine execute_transition fun h => ?_
    rcases admitProviderInvocation_eq_ok h with hsame | hadmitted
    · rw [hsame]
      exact .idle
    · exact .admittedProtected command hcommand _ _ hadmitted
  | admitCpaBasic command =>
    refine execute_transition fun h => ?_
    rcases admitCpaBasicProviderInvocation_eq_ok h with hsame | hadmitted
    · rw [hsame]
      exact .idle
    · exact .admittedCpaBasic command hcommand _ _ hadmitted
  | assertDispatchOwnership providerAttemptId requestId executionOwnerId =>
    exact execute_transition fun h => (assertDispatchOwnership_eq_ok h).transition
  | settleFinalUsage command =>
    exact execute_transition fun h => (settleFinalUsage_eq_ok hmatch h).transition
  | settleCpaBasicLive command fallback => exact settleCpaBasicLive_transition hmatch
  | reconcileFinalUsage command =>
    exact execute_transition fun h => (reconcileFinalUsage_eq_ok hmatch h).transition
  | releaseNotStarted command =>
    refine execute_transition fun h => ?_
    obtain ⟨settled, hanswered, -⟩ := releaseNotStarted_eq_ok hmatch h
    exact hanswered.transition
  | enterReconciliation command =>
    exact execute_transition enterReconciliation_transition
  | failRequestExecution requestId executionOwnerId errorCode =>
    refine execute_transition fun h => ?_
    obtain ⟨executions, harbitrated, hset⟩ := failRequestExecution_eq_ok h
    rw [hset]
    exact .failed executions harbitrated
  | writeRequestLog row =>
    refine execute_transition fun h => ?_
    obtain ⟨haccepts, hset⟩ := writeRequestLog_eq_ok h
    rw [hset]
    exact .logged row haccepts
  | reconfigure configuration => exact .reconfigured configuration hcommand

end Frely.Application
