import Frely.Postgres.Writes

/-!
# The request-execution package

Leases, admissions, dispatch, finalization and reconciliation of Provider attempts.  What a
command reads and checks is a function of the database that can fail; what it writes is a
transaction.  Locks are not modelled: a transaction sees and leaves the database alone.
-/

namespace Frely.RequestExecution

open Frely.Postgres Checked Transaction

/-! ### Leases -/

def requestExecutionLeaseUntil (value : Timestamp) (seconds : Int) :
    Except RelayError Timestamp := do
  rejectIf (¬IsSafeInteger seconds ∨ seconds < 1)
    ⟨"request_execution_lease_ttl_invalid", "Request execution lease boundary is invalid", 500⟩
  return value + seconds * 1000

/-- Takes the lease of a request that has none, or whose lease is the owner's or has run out. -/
def acquireRequestExecutionLease (requestId ownerId : String) (leaseTtlSeconds : Int)
    (now : Timestamp) : TransactionClient RequestExecutionLease := do
  let leaseUntil ← check (requestExecutionLeaseUntil now leaseTtlSeconds)
  let lease : RequestExecutionLease := ⟨requestId, ownerId, now, now, leaseUntil⟩
  let held ← read fun db => .ok (db.requestExecutionLeases.find? requestId)
  check (rejectIf (∃ other ∈ held, other.ownerId ≠ ownerId ∧ now < other.leaseUntil)
    ⟨"request_execution_lease_conflict", "Request execution is already owned", 409⟩)
  write fun db =>
    some { db with requestExecutionLeases := db.requestExecutionLeases.put lease }
  return lease

/-- Only the owner renews a lease, and only while it lasts. -/
def renewRequestExecutionLease (requestId ownerId : String) (leaseTtlSeconds : Int)
    (now : Timestamp) : TransactionClient RequestExecutionLease := do
  let leaseUntil ← check (requestExecutionLeaseUntil now leaseTtlSeconds)
  let held ← read fun db =>
    match (db.requestExecutionLeases.find? requestId).filter
      (fun lease => lease.ownerId = ownerId && now < lease.leaseUntil) with
    | none =>
      .error ⟨"request_execution_lease_lost", "Request execution lease is no longer held", 409⟩
    | some lease => .ok lease
  let lease := { held with heartbeatAt := now, leaseUntil := leaseUntil }
  write fun db =>
    some { db with requestExecutionLeases := db.requestExecutionLeases.put lease }
  return lease

/-- Gives the lease back, if the owner has it. -/
def releaseRequestExecutionLease (requestId ownerId : String) : TransactionClient Bool := do
  let held ← read fun db =>
    .ok ((db.requestExecutionLeases.find? requestId).any (·.ownerId = ownerId))
  if held then
    write fun db =>
      some { db with requestExecutionLeases := db.requestExecutionLeases.erase requestId }
    return true
  else return false

/-! ### Ending an execution -/

def isTerminalExecutionStatus (status : Option RequestExecutionStatus) : Bool :=
  status.any (·.terminal?.isSome)

/-- The execution row of a completed execution. -/
def completedExecution (command : CompleteRequestExecutionCommand)
    (execution : RequestExecution) : RequestExecution :=
  { execution with
    status := .ended command.status
    terminalErrorCode := command.terminalErrorCode
    outputCommitted := command.outputCommitted || execution.outputCommitted
    endedAt := some command.completedAt }

/-- Ends an execution; one that has ended can only be ended the same way again. -/
def requestExecutionTerminalArbiter (command : CompleteRequestExecutionCommand)
    (allowMissing : Bool) : TransactionClient Unit := do
  let execution ← read fun db => .ok (db.requestExecutions.find? command.requestId)
  match execution with
  | none =>
    check (rejectIf (allowMissing = false)
      ⟨"request_execution_not_found", "RequestExecution not found", 404⟩)
  | some execution =>
    match execution.status.terminal? with
    | some status =>
      check (rejectIf (¬(status = command.status ∧
          execution.terminalErrorCode = command.terminalErrorCode ∧
          execution.outputCommitted = command.outputCommitted))
        ⟨"request_execution_terminal_conflict",
          "RequestExecution terminal state cannot be rewritten", 409⟩)
    | none =>
      check (rejectIf (execution.ownerId ≠ command.executionOwnerId)
        ⟨"request_execution_owner_conflict",
          "RequestExecution is owned by another executor", 409⟩)
      updateRequestExecution command.requestId (completedExecution command) fun _ => rfl

/-! ### Admission -/

/-- The attempt of a request for a candidate, with the source its execution selected. -/
def readAdmissionAttempt (db : Database) (requestId candidateId : String) :
    Except RelayError (Option ReplayAdmissionDecision) :=
  match db.requestProviderAttempts.rows.find? fun attempt =>
      attempt.identity.requestId = requestId &&
        attempt.identity.candidate.candidateId = candidateId with
  | none => .ok none
  | some attempt =>
    match db.requestExecutions.find? attempt.identity.requestId with
    | none => .ok none
    | some execution => do
      rejectIf (∃ item ∈ attempt.identity.routing.routingRevisions,
          ¬IsSafeInteger item.routingRevision)
        ⟨"provider_attempt_snapshot_invalid",
          "ProviderAttempt routing revision snapshot is invalid", 500⟩
      return some ⟨⟨attempt.identity, attempt.id, attempt.startedAt⟩,
        execution.selectedPlanSubscriptionId⟩

def assertEquivalentAttemptIdentity (existing : ProviderAttemptIdentitySnapshot)
    (command : ProviderAttemptAdmissionIdentity) : Except RelayError Unit :=
  rejectIf (existing.toProviderAttemptAdmissionIdentity ≠ command)
    ⟨"provider_attempt_idempotency_conflict",
      "Existing ProviderAttempt does not match the admission command", 409⟩

/-- The attempt that an admission repeats, if it repeats one. -/
def findReplay (db : Database) (command : AdmissionCommand) :
    Except RelayError (Option ReplayAdmissionDecision) := do
  assertProviderAttemptAdmissionIdentity command.toProviderAttemptAdmissionIdentity
  let existing ← readAdmissionAttempt db command.requestId command.candidate.candidateId
  match existing with
  | none => return none
  | some existing => do
    assertEquivalentAttemptIdentity existing.attempt command.toProviderAttemptAdmissionIdentity
    rejectIf (∃ selected ∈ command.selectedSourceRef, selected ≠ existing.selectedSourceRef)
      ⟨"request_execution_plan_source_conflict",
        "A RequestExecution cannot change its admitted source", 409⟩
    return some existing

/-- The first attempt of a request starts its execution. -/
def inspectFirstAdmission (db : Database) (command : AdmissionCommand)
    (lease : RequestExecutionLease) : Except RelayError NewAdmissionDecision :=
  match db.requestExecutions.find? command.requestId, command.selectedSourceRef with
  | none, some selectedSourceRef => do
    rejectIf (command.attemptIndex ≠ 0)
      ⟨"request_execution_conflict",
        "First ProviderAttempt does not match RequestExecution state", 409⟩
    return ⟨.first, lease.leaseUntil, selectedSourceRef⟩
  | _, _ => .error ⟨"request_execution_conflict",
      "First ProviderAttempt does not match RequestExecution state", 409⟩

/-- A further attempt needs the running execution, and final usage of the attempt before it. -/
def inspectFallbackAdmission (db : Database) (command : AdmissionCommand)
    (lease : RequestExecutionLease) : Except RelayError NewAdmissionDecision :=
  match db.requestExecutions.find? command.requestId with
  | none => .error ⟨"request_execution_conflict",
      "RequestExecution does not match the next ProviderAttempt", 409⟩
  | some execution => do
    rejectIf (execution.status ≠ .running ∨ execution.ownerId ≠ command.executionOwnerId ∨
        execution.attemptCount ≠ command.attemptIndex)
      ⟨"request_execution_conflict",
        "RequestExecution does not match the next ProviderAttempt", 409⟩
    let previous := db.requestProviderAttempts.rows.find? fun attempt =>
      attempt.identity.requestId = command.requestId &&
        attempt.identity.attemptIndex = command.attemptIndex - 1
    rejectIf (¬previous.any (·.usageSettled))
      ⟨"provider_attempt_previous_unsettled",
        "A fallback ProviderAttempt cannot be admitted before the previous attempt has final usage",
        409⟩
    return ⟨.fallback, lease.leaseUntil, execution.selectedPlanSubscriptionId⟩

/-- Inspects an admission that repeats no attempt: every caller has looked for one before, in the
same transaction. -/
def inspectNewAdmission (db : Database) (command : AdmissionCommand) (inspectedAt : Timestamp)
    (kind : AdmissionKind) : Except RelayError NewAdmissionDecision := do
  assertProviderAttemptAdmissionIdentity command.toProviderAttemptAdmissionIdentity
  match (db.requestExecutionLeases.find? command.requestId).filter fun lease =>
      lease.ownerId = command.executionOwnerId && inspectedAt < lease.leaseUntil with
  | none => .error ⟨"request_execution_lease_lost",
      "Request execution lease is not continuously held", 409⟩
  | some lease =>
    match kind with
    | .first => inspectFirstAdmission db command lease
    | .fallback => inspectFallbackAdmission db command lease

/-- The row a new attempt starts with. -/
def newProviderAttempt (providerAttemptRef : String) (identity : ProviderAttemptAdmissionIdentity)
    (decision : NewAdmissionDecision) (startedAt : Timestamp)
    (material : ProviderAttemptPersistenceMaterial) : RequestProviderAttempt where
  id := providerAttemptRef
  identity := identity
  startedAt := startedAt
  admissionLeaseUntil := decision.leaseUntil
  material := material
  outcome := none
  failureClass := none
  failureReason := none
  outputCommitted := false
  trustedUsageSource := none
  endedAt := none
  costExposure := .notStarted
  finalUsageEvidence := .pending
  usageSettled := false
  reconciliationReason := none

/-- The execution a first attempt starts. -/
def newRequestExecution (identity : ProviderAttemptAdmissionIdentity)
    (decision : NewAdmissionDecision) (startedAt : Timestamp) : RequestExecution where
  requestId := identity.requestId
  status := .running
  ownerId := identity.executionOwnerId
  attemptCount := 0
  outputCommitted := false
  terminalErrorCode := none
  selectedPlanSubscriptionId := decision.selectedSourceRef
  startedAt := startedAt
  endedAt := none

/-- An execution with one more attempt. -/
def countedExecution (execution : RequestExecution) : RequestExecution :=
  { execution with attemptCount := execution.attemptCount + 1 }

/-- A first attempt creates the execution of its request. -/
def startRequestExecution (identity : ProviderAttemptAdmissionIdentity)
    (decision : NewAdmissionDecision) (startedAt : Timestamp) : TransactionClient Unit :=
  match decision.kind with
  | .first => createRequestExecution (newRequestExecution identity decision startedAt)
  | .fallback => pure ()

def createProviderAttemptRef : Option String → TransactionClient String
  | some id => pure id
  | none => createId "provider_attempt"

/-- The request execution goes on with a new attempt. -/
def persistProviderAttempt (identity : ProviderAttemptAdmissionIdentity)
    (decision : NewAdmissionDecision) (startedAt : Timestamp)
    (material : ProviderAttemptPersistenceMaterial) (providerAttemptRef : Option String) :
    TransactionClient ProviderAttemptIdentitySnapshot := do
  startRequestExecution identity decision startedAt
  let id ← createProviderAttemptRef providerAttemptRef
  createRequestProviderAttempt (newProviderAttempt id identity decision startedAt material)
  updateRequestExecution identity.requestId countedExecution fun _ => rfl
  return ⟨identity, id, startedAt⟩

/-! ### Dispatch -/

/-- An attempt with its execution and its lease, when all three are there. -/
def dispatchState (db : Database) (providerAttemptRef requestId : String) :
    Option (RequestProviderAttempt × RequestExecution × RequestExecutionLease) := do
  let attempt ← (db.requestProviderAttempts.find? providerAttemptRef).filter
    (·.identity.requestId = requestId)
  let execution ← db.requestExecutions.find? requestId
  let lease ← db.requestExecutionLeases.find? requestId
  return (attempt, execution, lease)

/-- Everything a dispatch needs: one owner of attempt, execution and unexpired lease, and an
attempt that was not dispatched before. -/
def ownsDispatch (attempt : RequestProviderAttempt) (execution : RequestExecution)
    (lease : RequestExecutionLease) (executionOwnerId : String) (checkedAt : Timestamp) : Prop :=
  attempt.identity.executionOwnerId = executionOwnerId ∧ attempt.outcome = none ∧
    execution.ownerId = executionOwnerId ∧ execution.status = .running ∧
    lease.ownerId = executionOwnerId ∧ checkedAt < lease.leaseUntil ∧
    attempt.costExposure = .notStarted

instance (attempt : RequestProviderAttempt) (execution : RequestExecution)
    (lease : RequestExecutionLease) (executionOwnerId : String) (checkedAt : Timestamp) :
    Decidable (ownsDispatch attempt execution lease executionOwnerId checkedAt) :=
  inferInstanceAs (Decidable (_ ∧ _ ∧ _ ∧ _ ∧ _ ∧ _ ∧ _))

def dispatchedAttempt (attempt : RequestProviderAttempt) : RequestProviderAttempt :=
  { attempt with costExposure := .accruing }

/-- An attempt whose owner lost the execution before dispatch. -/
def abandonedAttempt (checkedAt : Timestamp) (attempt : RequestProviderAttempt) :
    RequestProviderAttempt :=
  { attempt with
    outcome := some .failed
    failureClass := some .nonRetryable
    endedAt := some checkedAt
    costExposure := .accruing
    finalUsageEvidence := .pending
    reconciliationReason := some "execution_ownership_lost" }

/-- The dispatch is owned once, by the owner of the lease. -/
def assertProviderInvocationDispatch (providerAttemptRef requestId executionOwnerId : String)
    (checkedAt : Timestamp) : TransactionClient ProviderInvocationDispatchDecision := do
  let state ← read fun db => .ok (dispatchState db providerAttemptRef requestId)
  match state with
  | none => return ⟨false, false, checkedAt⟩
  | some (attempt, execution, lease) =>
    if ownsDispatch attempt execution lease executionOwnerId checkedAt then
      updateRequestProviderAttempt providerAttemptRef dispatchedAttempt fun _ => rfl
      return ⟨true, false, checkedAt⟩
    else if attempt.outcome = none then
      updateRequestProviderAttempt providerAttemptRef (abandonedAttempt checkedAt) fun _ => rfl
      requestExecutionTerminalArbiter {
        requestId := requestId
        executionOwnerId := execution.ownerId
        status := .failed
        terminalErrorCode := some "execution_ownership_lost"
        outputCommitted := attempt.outputCommitted
        completedAt := checkedAt } false
      return ⟨false, true, checkedAt⟩
    else return ⟨false, false, checkedAt⟩

/-! ### Finalization -/

/-- The evidence a command gives an attempt, against the one the attempt has: terminal evidence
cannot be rewritten. -/
def expectedEvidence (attempt : RequestProviderAttempt) (evidence : ProviderAttemptEvidence)
    (conflict : RelayError) : Except RelayError ExpectedEvidence := do
  let failureClass := providerAttemptFailureClass evidence.outcome evidence.failureClass
  let failureReason ← providerAttemptFailureReason evidence.outcome
    (evidence.failureReason <|> attempt.failureReason)
  let outputCommitted := evidence.outputCommitted.getD false
  rejectIf (attempt.outcome ≠ none ∧ ¬(attempt.outcome = some evidence.outcome ∧
      attempt.failureClass = failureClass ∧ attempt.failureReason = failureReason ∧
      attempt.outputCommitted = outputCommitted)) conflict
  return ⟨failureClass, failureReason, outputCommitted⟩

/-- An attempt can be reconciled to final usage once its execution (`protected@1`) or its request
(`cpa-basic@1`) has ended. -/
def reconciliationReady (db : Database) (attempt : RequestProviderAttempt) (request : RequestLog) :
    Bool :=
  match attempt.invocationContract with
  | .protectedV1 => isTerminalExecutionStatus
      ((db.requestExecutions.find? attempt.identity.requestId).map (·.status))
  | .cpaBasicV1 => request.endedAt.isSome

/-- What a finalization finds, and whether it was made before. -/
def lockFinalization (db : Database) (command : FinalizeProviderInvocationCommand)
    (requireReconciliation : Bool) : Except RelayError ProviderInvocationFinalizationDecision :=
  match db.requestProviderAttempts.find? command.providerAttemptRef with
  | none => .error ⟨"provider_attempt_not_found", "ProviderAttempt not found", 404⟩
  | some attempt =>
    match db.requestLogs.find? attempt.identity.requestId with
    | none => .error ⟨"provider_attempt_not_found", "ProviderAttempt not found", 404⟩
    | some request => do
      rejectIf (requireReconciliation ∧ attempt.usageSettled = false ∧
          (truthy attempt.reconciliationReason = none ∨
            reconciliationReady db attempt request = false))
        ⟨"provider_attempt_not_reconcilable",
          "ProviderAttempt has not entered the explicit reconciliation flow", 409⟩
      let expected ← expectedEvidence attempt command.toProviderAttemptEvidence
        ⟨"provider_attempt_settlement_conflict",
          "ProviderAttempt terminal evidence does not match the finalization command", 409⟩
      return ⟨attempt.id, attempt.identity.requestId, attempt.invocationContract,
        attempt.startedAt, expected, attempt.usageSettled⟩

/-- An attempt with final usage. -/
def finalizedAttempt (decision : ProviderInvocationFinalizationDecision)
    (command : FinalizeProviderInvocationCommand) (completedAt : Timestamp)
    (attempt : RequestProviderAttempt) : RequestProviderAttempt :=
  { attempt with
    outcome := some command.outcome
    failureClass := decision.expected.failureClass
    failureReason := decision.expected.failureReason
    outputCommitted := decision.expected.outputCommitted
    trustedUsageSource := some command.trustedUsageSource
    endedAt := some completedAt
    costExposure := .stopped
    finalUsageEvidence := .final
    usageSettled := true
    reconciliationReason := none }

/-- Ends the execution of a finalized attempt, when the command says how. -/
def completeFinalizedRequest (decision : ProviderInvocationFinalizationDecision)
    (command : FinalizeProviderInvocationCommand) (completedAt : Timestamp) :
    TransactionClient Unit :=
  match command.requestTerminalStatus with
  | none => pure ()
  | some status => do
    let executionOwnerId ← read fun db =>
      match db.requestProviderAttempts.find? decision.providerAttemptRef with
      | none => .error ⟨"provider_attempt_not_found", "ProviderAttempt not found", 404⟩
      | some attempt => .ok attempt.identity.executionOwnerId
    requestExecutionTerminalArbiter {
      requestId := decision.requestId
      executionOwnerId := executionOwnerId
      status := status
      terminalErrorCode := command.requestTerminalErrorCode
      outputCommitted := command.outputCommitted.getD false
      completedAt := completedAt } false

/-- Writes the outcome of the attempt and of its request. -/
def completeFinalization (decision : ProviderInvocationFinalizationDecision)
    (command : FinalizeProviderInvocationCommand) (completedAt : Timestamp) :
    TransactionClient Unit :=
  if decision.alreadyFinalized then pure ()
  else do
    updateRequestProviderAttempt decision.providerAttemptRef
      (finalizedAttempt decision command completedAt) fun _ => rfl
    completeFinalizedRequest decision command completedAt

/-! ### Reconciliation -/

/-- An attempt whose final usage is still to come. -/
def reconcilingAttempt (command : ReconcileProviderInvocationCommand) (expected : ExpectedEvidence)
    (transitionedAt : Timestamp) (attempt : RequestProviderAttempt) : RequestProviderAttempt :=
  { attempt with
    outcome := some command.outcome
    failureClass := expected.failureClass
    failureReason := expected.failureReason
    outputCommitted := expected.outputCommitted
    endedAt := some (attempt.endedAt.getD transitionedAt)
    costExposure := command.costExposure.costExposure
    finalUsageEvidence := .pending
    reconciliationReason := some command.reason }

def reconciledRequestStatus : ProviderAttemptOutcome → RequestTerminalStatus
  | .aborted => .aborted
  | .succeeded => .succeeded
  | .failed => .failed

/-- Ends the execution of a reconciling attempt. -/
def completeReconciledRequest (command : ReconcileProviderInvocationCommand)
    (expected : ExpectedEvidence) (attempt : RequestProviderAttempt)
    (status : RequestExecutionStatus) (transitionedAt : Timestamp) : TransactionClient Unit :=
  match status.terminal? with
  | some _ => pure ()
  | none =>
    requestExecutionTerminalArbiter {
      requestId := attempt.identity.requestId
      executionOwnerId := attempt.identity.executionOwnerId
      status := reconciledRequestStatus command.outcome
      terminalErrorCode := if command.outcome = .succeeded then none else some command.reason
      outputCommitted := expected.outputCommitted
      completedAt := transitionedAt } false

/-- What a reconciliation reads: the attempt, the evidence it will have and the status of its
execution. -/
def lockReconciliation (db : Database) (command : ReconcileProviderInvocationCommand) :
    Except RelayError (RequestProviderAttempt × ExpectedEvidence × RequestExecutionStatus) := do
  assertReconciliationReason command.reason
  match db.requestProviderAttempts.find? command.providerAttemptRef with
  | none => .error ⟨"provider_attempt_not_found", "ProviderAttempt not found", 404⟩
  | some attempt =>
    match db.requestExecutions.find? attempt.identity.requestId with
    | none => .error ⟨"provider_attempt_not_found", "ProviderAttempt not found", 404⟩
    | some execution => do
      let expected ← expectedEvidence attempt command.toProviderAttemptEvidence
        ⟨"provider_attempt_reconciliation_conflict",
          "ProviderAttempt terminal evidence cannot be rewritten while usage is pending", 409⟩
      return (attempt, expected, execution.status)

/-- A reconciliation that is there already: the usage is final, or the attempt waits for it with
the same exposure. -/
def alreadyReconciling (attempt : RequestProviderAttempt)
    (command : ReconcileProviderInvocationCommand) : Prop :=
  attempt.usageSettled ∨ (attempt.outcome ≠ none ∧
    truthy attempt.reconciliationReason ≠ none ∧
    attempt.costExposure = command.costExposure.costExposure)

instance (attempt : RequestProviderAttempt) (command : ReconcileProviderInvocationCommand) :
    Decidable (alreadyReconciling attempt command) :=
  inferInstanceAs (Decidable (_ ∨ (_ ∧ _ ∧ _)))

/-- Suspends a request whose cost is not known. -/
def reconcileProviderInvocation (command : ReconcileProviderInvocationCommand)
    (transitionedAt : Timestamp) :
    TransactionClient ProviderInvocationReconciliationDecision := do
  let (attempt, expected, status) ← read fun db => lockReconciliation db command
  if alreadyReconciling attempt command then return ⟨false, transitionedAt⟩
  else do
    check (rejectIf (attempt.costExposure = .stopped ∧ command.costExposure = .accruing)
      ⟨"provider_attempt_cost_exposure_conflict",
        "Stopped Provider cost exposure cannot return to accruing", 409⟩)
    updateRequestProviderAttempt command.providerAttemptRef
      (reconcilingAttempt command expected transitionedAt) fun _ => rfl
    completeReconciledRequest command expected attempt status transitionedAt
    return ⟨true, transitionedAt⟩

/-! ### Failure -/

/-- Fails a request that has not ended. -/
def failRequestExecution (requestId executionOwnerId errorCode : String) (failedAt : Timestamp) :
    TransactionClient Unit := do
  let execution ← read fun db => .ok (db.requestExecutions.find? requestId)
  match execution with
  | none => pure ()
  | some execution =>
    match execution.status.terminal? with
    | some status =>
      check (rejectIf (¬(status = .failed ∧ execution.terminalErrorCode = some errorCode ∧
          execution.outputCommitted = false))
        ⟨"request_execution_terminal_conflict",
          "RequestExecution terminal state cannot be rewritten", 409⟩)
    | none =>
      requestExecutionTerminalArbiter {
        requestId := requestId
        executionOwnerId := executionOwnerId
        status := .failed
        terminalErrorCode := some errorCode
        outputCommitted := false
        completedAt := failedAt } true

end Frely.RequestExecution
