import Frely.Application.Admission
import Frely.Lib.Machine

/-!
# Commands on Provider invocations

The commands of the application service, each one transaction (a live claimless settlement that
fails runs a second one), and the machine they make: `step` runs a command against the database,
in an environment that gives it the time, the identifiers it draws and the moment at which it loses
the connection.  A run is any sequence of commands by any parties.

Two inputs are not commands of the service: the request log is written by the gateway, under the
rules of its triggers, and the catalogue is reconfigured at will.
-/

namespace Frely.Application

open Frely.Billing Frely.Postgres Frely.RequestExecution Checked Transaction

structure SettleProviderInvocationCommand extends ProviderAttemptEvidence where
  providerAttemptId : String
  usage : InvocationUsageUnits
  requestTerminalStatus : Option RequestTerminalStatus
  requestTerminalErrorCode : Option String

inductive ReconciliationEvidenceKind where
  | providerOperationQuery
  | providerBillingRecord
  | providerResponse
deriving DecidableEq

structure ReconcileFinalProviderInvocationCommand extends SettleProviderInvocationCommand where
  evidenceKind : ReconciliationEvidenceKind
  evidenceRef : String

/-- A settlement command without usage. -/
structure ReleaseNotStartedCommand extends ProviderAttemptEvidence where
  providerAttemptId : String
  requestTerminalStatus : Option RequestTerminalStatus
  requestTerminalErrorCode : Option String

/-- What the service is set up with: the PayGo concurrency limit, the collation of the runtime
and the test that an evidence reference is safe to store. -/
structure Settings where
  userPaygoConcurrencyLimit : Int
  localeCompare : String → String → Ordering
  isSafeExternalEvidenceRef : String → Bool
  concurrencyLimitCheck : 1 ≤ userPaygoConcurrencyLimit ∧ userPaygoConcurrencyLimit ≤ 100

/-! ### Dispatch -/

def assertDispatchOwnership (providerAttemptId requestId executionOwnerId : String)
    (now : Timestamp) : TransactionClient Bool := do
  let decision ←
    assertProviderInvocationDispatch providerAttemptId requestId executionOwnerId now
  if decision.transitionToReconciliation then
    markInvocationBillingReconciliation providerAttemptId .accruing decision.transitionedAt
    return decision.owned
  else return decision.owned

/-! ### Settlement -/

def finalizeCommand (command : SettleProviderInvocationCommand) :
    FinalizeProviderInvocationCommand :=
  { command.toProviderAttemptEvidence with
    providerAttemptRef := command.providerAttemptId
    trustedUsageSource := command.usage.source
    requestTerminalStatus := command.requestTerminalStatus
    requestTerminalErrorCode := command.requestTerminalErrorCode }

def billingAttemptSnapshot (attempt : RequestProviderAttempt) (startedAt : Timestamp) :
    InvocationBillingAttemptSnapshot where
  billableInvocationRef := attempt.id
  requestId := attempt.identity.requestId
  startedAt := startedAt
  billingScopeRef := attempt.material.billingScopeRef
  planSellerScopeRef := attempt.material.planSellerScopeRef
  planBillingMode := attempt.material.planBillingMode
  subscriptionEffectiveStart := attempt.material.subscriptionEffectiveStart
  providerOwnerScopeRef := attempt.material.providerOwnerScopeRef
  providerId := attempt.identity.candidate.providerId
  providerModelName := attempt.identity.candidate.providerModelName
  providerModelCostId := attempt.material.providerModelCostId
  billablePriceId := attempt.material.billablePriceId
  billablePriceSource := attempt.material.billablePriceSource
  requestedServiceTier := attempt.material.requestedServiceTier
  terms := attempt.material.terms

def readInvocationBillingAttemptSnapshot (db : Database) (providerAttemptId : String)
    (startedAt : Timestamp) : Except RelayError InvocationBillingAttemptSnapshot :=
  match db.requestProviderAttempts.find? providerAttemptId with
  | none => .error ⟨"provider_attempt_not_found", "ProviderAttempt not found", 404⟩
  | some attempt => .ok (billingAttemptSnapshot attempt startedAt)

/-- What a settlement reads before it books anything. -/
def lockSettlement (db : Database) (command : SettleProviderInvocationCommand)
    (requireReconciliation : Bool) (expectedInvocationContract : Option InvocationContract) :
    Except RelayError (ProviderInvocationFinalizationDecision ×
      InvocationBillingAttemptSnapshot) := do
  let decision ← lockFinalization db (finalizeCommand command) requireReconciliation
  rejectIf (∃ contract ∈ expectedInvocationContract, decision.invocationContract ≠ contract)
    ⟨"provider_attempt_contract_mismatch",
      "ProviderAttempt does not match the settlement command contract", 409⟩
  let attempt ←
    readInvocationBillingAttemptSnapshot db decision.providerAttemptRef decision.startedAt
  return (decision, attempt)

def settleFinalUsage (settings : Settings) (command : SettleProviderInvocationCommand)
    (zeroReservationOutcome : ZeroReservationOutcome) (requireReconciliation : Bool)
    (expectedInvocationContract : Option InvocationContract) (now : Timestamp) :
    TransactionClient InvocationBillingSettlementResult := do
  check (validateUsage command.usage)
  let account ← read fun db =>
    .ok (lockInvocationBillingSettlementAccount db command.providerAttemptId)
  let (decision, attempt) ← read fun db =>
    lockSettlement db command requireReconciliation expectedInvocationContract
  let settled ← settleInvocationBilling settings.localeCompare
    ⟨command.providerAttemptId, command.usage, zeroReservationOutcome, account, now, attempt⟩
  completeFinalization decision (finalizeCommand command) now
  return settled

def assertReconciliationEvidence (settings : Settings)
    (command : ReconcileFinalProviderInvocationCommand) : Except RelayError Unit := do
  rejectIf (settings.isSafeExternalEvidenceRef command.evidenceRef = false)
    ⟨"invalid_provider_reconciliation_evidence",
      "evidenceRef must be a bounded non-secret external reference", 400⟩
  let expectedSource : UsageSource :=
    if command.evidenceKind = .providerResponse then .response else .provider
  rejectIf (command.usage.source ≠ expectedSource)
    ⟨"invalid_provider_reconciliation_evidence",
      "Final usage source does not match evidenceKind", 400⟩

/-- The audit event of a reconciliation is written to a table of its own, that nothing here reads:
it can fail like any write, and changes none of the tables. -/
def recordAuditEvent : TransactionClient Unit := write some

def reconcileFinalUsage (settings : Settings) (command : ReconcileFinalProviderInvocationCommand)
    (now : Timestamp) : TransactionClient InvocationBillingSettlementResult := do
  check (assertReconciliationEvidence settings command)
  let settled ← settleFinalUsage settings command.toSettleProviderInvocationCommand .settled true
    none now
  recordAuditEvent
  return settled

def zeroUsage : InvocationUsageUnits := ⟨0, 0, 0, 0, 0, .provider⟩

/-- Closes an attempt with zero usage. -/
def releaseCommand (command : ReleaseNotStartedCommand) : SettleProviderInvocationCommand :=
  { command.toProviderAttemptEvidence with
    providerAttemptId := command.providerAttemptId
    usage := zeroUsage
    requestTerminalStatus := command.requestTerminalStatus
    requestTerminalErrorCode := command.requestTerminalErrorCode }

def releaseNotStarted (settings : Settings) (command : ReleaseNotStartedCommand)
    (now : Timestamp) : TransactionClient InvocationBillingSettlementResult := do
  let settled ←
    settleFinalUsage settings (releaseCommand command) .released false none now
  return ⟨0, none, settled.billingEventId, settled.replayed⟩

/-! ### Reconciliation -/

def enterReconciliation (command : ReconcileProviderInvocationCommand) (now : Timestamp) :
    TransactionClient Unit := do
  let decision ← reconcileProviderInvocation command now
  if decision.transitionToReconciliation then
    markInvocationBillingReconciliation command.providerAttemptRef command.costExposure
      decision.transitionedAt
  else pure ()

/-- The evidence that the live settlement hands to its fallback: it leaves `failureReason` out. -/
def fallbackEvidence (command : SettleProviderInvocationCommand) : ProviderAttemptEvidence where
  outcome := command.outcome
  failureClass := command.failureClass
  failureReason := none
  outputCommitted := command.outputCommitted

/-- The transition after a live claimless settlement failed. -/
def transitionFailedCpaBasicSettlement (providerAttemptId : String)
    (evidence : ProviderAttemptEvidence) (now : Timestamp) : TransactionClient Unit :=
  enterReconciliation {
    evidence with
    providerAttemptRef := providerAttemptId
    costExposure := .stopped
    reason := "provider_usage_settlement_failed" } now

/-! ### The machine -/

/-- What a transaction gets from its surroundings. -/
structure Environment where
  now : Timestamp
  freshId : Nat → String
  writesLeft : Option Nat

/-- The session a transaction starts with. -/
def Environment.session (environment : Environment) (db : Database) : Session Database :=
  ⟨db, environment.freshId, 0, environment.writesLeft⟩

abbrev Result := Except (Failure RelayError)

/-- A live claimless settlement: when it fails, a second transaction moves the attempt to
reconciliation, and the failure is reported. -/
def settleCpaBasicLive (settings : Settings) (command : SettleProviderInvocationCommand)
    (environment fallback : Environment) (db : Database) :
    Result InvocationBillingSettlementResult × Database :=
  let settled := commit
    (settleFinalUsage settings command .settled false (some .cpaBasicV1) environment.now)
    (environment.session db)
  match settled.1 with
  | .ok result => (.ok result, settled.2)
  | .error failure =>
    let transitioned := commit (transitionFailedCpaBasicSettlement command.providerAttemptId
      (fallbackEvidence command) fallback.now) (fallback.session settled.2)
    match transitioned.1 with
    | .ok () => (.error failure, transitioned.2)
    | .error second => (.error second, transitioned.2)

/-- The rules of an update of a request log: references are written once, and the Plan source is
the one its execution selected. -/
def acceptsRequestLogUpdate (db : Database) (old new : RequestLog) : Bool :=
  let once (old new : Option String) : Bool := old = new || old.isNone
  old.apiKeyId = new.apiKeyId && old.userId = new.userId && once old.planId new.planId &&
    once old.planSubscriptionId new.planSubscriptionId &&
    once old.entryAccessPointId new.entryAccessPointId &&
    once old.billingScopeRef new.billingScopeRef &&
    match db.requestExecutions.find? new.id with
    | none => true
    | some execution =>
      new.planSubscriptionId.all (· = execution.selectedPlanSubscriptionId)

/-- The gateway's write of a request log. -/
def writeRequestLog (row : RequestLog) : TransactionClient Unit :=
  write fun db =>
    match db.requestLogs.find? row.id with
    | none => some { db with requestLogs := db.requestLogs.put row }
    | some old =>
      if acceptsRequestLogUpdate db old row then
        some { db with requestLogs := db.requestLogs.put row }
      else none

inductive Command where
  | acquireLease (requestId ownerId : String) (leaseTtlSeconds : Int)
  | renewLease (requestId ownerId : String) (leaseTtlSeconds : Int)
  | releaseLease (requestId ownerId : String)
  | admitProtected (command : AdmitProviderInvocationCommand)
  | admitCpaBasic (command : AdmitCpaBasicProviderInvocationCommand)
  | assertDispatchOwnership (providerAttemptId requestId executionOwnerId : String)
  | settleFinalUsage (command : SettleProviderInvocationCommand)
  | settleCpaBasicLive (command : SettleProviderInvocationCommand) (fallback : Environment)
  | reconcileFinalUsage (command : ReconcileFinalProviderInvocationCommand)
  | releaseNotStarted (command : ReleaseNotStartedCommand)
  | enterReconciliation (command : ReconcileProviderInvocationCommand)
  | failRequestExecution (requestId executionOwnerId errorCode : String)
  | writeRequestLog (row : RequestLog)
  | reconfigure (configuration : Configuration)

structure Input where
  environment : Environment
  command : Command

/-- What a command answers. -/
inductive Answer where
  | lease (lease : RequestExecutionLease)
  | released (released : Bool)
  | admitted (admission : ProviderInvocationAdmission)
  | admittedCpaBasic (admission : CpaBasicProviderInvocationAdmission)
  | owned (owned : Bool)
  | settled (result : InvocationBillingSettlementResult)
  | done

/-- Runs a transaction in its environment and names its answer. -/
def execute {α : Type} (environment : Environment) (db : Database) (answer : α → Answer)
    (transaction : TransactionClient α) : Result Answer × Database :=
  let committed := commit transaction (environment.session db)
  (committed.1.map answer, committed.2)

def step (settings : Settings) (input : Input) (db : Database) : Result Answer × Database :=
  let environment := input.environment
  let now := environment.now
  match input.command with
  | .acquireLease requestId ownerId leaseTtlSeconds =>
    execute environment db .lease (acquireRequestExecutionLease requestId ownerId
      leaseTtlSeconds now)
  | .renewLease requestId ownerId leaseTtlSeconds =>
    execute environment db .lease (renewRequestExecutionLease requestId ownerId leaseTtlSeconds now)
  | .releaseLease requestId ownerId =>
    execute environment db .released (releaseRequestExecutionLease requestId ownerId)
  | .admitProtected command =>
    execute environment db .admitted
      (admitProviderInvocation settings.userPaygoConcurrencyLimit command now)
  | .admitCpaBasic command =>
    execute environment db .admittedCpaBasic
      (admitCpaBasicProviderInvocation settings.localeCompare command now)
  | .assertDispatchOwnership providerAttemptId requestId executionOwnerId =>
    execute environment db .owned
      (assertDispatchOwnership providerAttemptId requestId executionOwnerId now)
  | .settleFinalUsage command =>
    execute environment db .settled (settleFinalUsage settings command .settled false none now)
  | .settleCpaBasicLive command fallback =>
    let settled := settleCpaBasicLive settings command environment fallback db
    (settled.1.map .settled, settled.2)
  | .reconcileFinalUsage command =>
    execute environment db .settled (reconcileFinalUsage settings command now)
  | .releaseNotStarted command =>
    execute environment db .settled (releaseNotStarted settings command now)
  | .enterReconciliation command =>
    execute environment db (fun _ => .done) (enterReconciliation command now)
  | .failRequestExecution requestId executionOwnerId errorCode =>
    execute environment db (fun _ => .done)
      (failRequestExecution requestId executionOwnerId errorCode now)
  | .writeRequestLog row => execute environment db (fun _ => .done) (writeRequestLog row)
  | .reconfigure configuration => (.ok .done, { db with configuration := configuration })

/-- A database without any invocation, on which a run starts. -/
def initialDatabase (configuration : Configuration) (creditAccounts : Table CreditAccount)
    (requestLogs : Table RequestLog) : Database where
  configuration := configuration
  creditAccounts := creditAccounts
  requestLogs := requestLogs

end Frely.Application
