import Frely.Billing.InvocationDomain
import Frely.Core.Values

/-!
# Contracts of the request-execution package

A request is executed by one owner at a time, who holds its lease, in Provider attempts with
indices `0, 1, …`.  These are the identities an admission is made with, the commands that end an
attempt and the decisions the operations answer with.

The four fields that say how an attempt ended travel together through every command: they are one
structure here, `ProviderAttemptEvidence`, whose optional fields are the optional fields of the
commands.  `failureClass` and `failureReason` may be `null` or absent there, which every use of
them treats alike.
-/

namespace Frely.RequestExecution

open Billing (UsageSource)

inductive ProviderAttemptOutcome where
  | succeeded
  | failed
  | aborted
deriving DecidableEq

inductive RequestTerminalStatus where
  | succeeded
  | failed
  | aborted
deriving DecidableEq

/-- The status of an execution.  `pending` is read by the code but written by none of it. -/
inductive RequestExecutionStatus where
  | pending
  | running
  | ended (status : RequestTerminalStatus)
deriving DecidableEq

/-- How an execution ended, if it has. -/
def RequestExecutionStatus.terminal? : RequestExecutionStatus → Option RequestTerminalStatus
  | pending => none
  | running => none
  | ended status => some status

inductive ProviderFailureClass where
  | connectError
  | timeout
  | rateLimited
  | upstream5xx
  | nonRetryable
deriving DecidableEq

inductive ProviderCredentialFailureReason where
  | authUnauthorized
  | authUnavailable
  | authNotFound
  | modelCooldown
deriving DecidableEq

inductive ProviderCostExposure where
  | notStarted
  | accruing
  | stopped
deriving DecidableEq

inductive ProviderFinalUsageEvidence where
  | absent
  | pending
  | final
deriving DecidableEq

/-- The exposures a reconciliation can be entered with. -/
inductive ReconciledCostExposure where
  | accruing
  | stopped
deriving DecidableEq

def ReconciledCostExposure.costExposure : ReconciledCostExposure → ProviderCostExposure
  | accruing => .accruing
  | stopped => .stopped

/-- `protected@1` and `cpa-basic@1`. -/
inductive InvocationContract where
  | protectedV1
  | cpaBasicV1
deriving DecidableEq

structure RoutingRevisionExpectation where
  accessPointId : String
  routingRevision : Int
deriving DecidableEq

structure FrozenProviderCandidate where
  candidateId : String
  providerModelId : String
  providerId : String
  providerModelName : String
deriving DecidableEq

structure FrozenProviderRouting where
  selectorAccessPointId : String
  selectorId : String
  selectorBehaviorVersion : Int
  routingRevision : Int
  routingRevisions : List RoutingRevisionExpectation
  selectorTargetEdgeId : String
  pathTargetEdgeIds : List String
  accessPointChainIds : List String
deriving DecidableEq

structure ProviderAttemptAdmissionIdentity where
  requestId : String
  executionOwnerId : String
  attemptIndex : Int
  candidate : FrozenProviderCandidate
  routing : FrozenProviderRouting
deriving DecidableEq

structure ProviderAttemptIdentitySnapshot extends ProviderAttemptAdmissionIdentity where
  providerAttemptRef : String
  startedAt : Timestamp

/-- An admission names its Plan source only when it is the request's first. -/
structure AdmissionCommand extends ProviderAttemptAdmissionIdentity where
  selectedSourceRef : Option String

inductive AdmissionKind where
  | first
  | fallback
deriving DecidableEq

/-- The decision to admit a new attempt. -/
structure NewAdmissionDecision where
  kind : AdmissionKind
  leaseUntil : Timestamp
  selectedSourceRef : String

/-- The attempt an admission repeats. -/
structure ReplayAdmissionDecision where
  attempt : ProviderAttemptIdentitySnapshot
  selectedSourceRef : String

/-- How an attempt ended, as a command reports it. -/
structure ProviderAttemptEvidence where
  outcome : ProviderAttemptOutcome
  failureClass : Option ProviderFailureClass
  failureReason : Option ProviderCredentialFailureReason
  outputCommitted : Option Bool
deriving DecidableEq

structure FinalizeProviderInvocationCommand extends ProviderAttemptEvidence where
  providerAttemptRef : String
  trustedUsageSource : UsageSource
  requestTerminalStatus : Option RequestTerminalStatus
  requestTerminalErrorCode : Option String

structure CompleteRequestExecutionCommand where
  requestId : String
  executionOwnerId : String
  status : RequestTerminalStatus
  terminalErrorCode : Option String
  outputCommitted : Bool
  completedAt : Timestamp

/-- The evidence that an attempt has, or will have once the command is applied. -/
structure ExpectedEvidence where
  failureClass : Option ProviderFailureClass
  failureReason : Option ProviderCredentialFailureReason
  outputCommitted : Bool
deriving DecidableEq

structure ProviderInvocationFinalizationDecision where
  providerAttemptRef : String
  requestId : String
  invocationContract : InvocationContract
  startedAt : Timestamp
  expected : ExpectedEvidence
  alreadyFinalized : Bool

structure ReconcileProviderInvocationCommand extends ProviderAttemptEvidence where
  providerAttemptRef : String
  costExposure : ReconciledCostExposure
  reason : String

structure ProviderInvocationDispatchDecision where
  owned : Bool
  transitionToReconciliation : Bool
  transitionedAt : Timestamp

structure ProviderInvocationReconciliationDecision where
  transitionToReconciliation : Bool
  transitionedAt : Timestamp

/-! ### Rules on the evidence alone -/

structure ProviderAttemptFailureArbitrationInput where
  costExposure : ProviderCostExposure
  finalUsageEvidence : ProviderFinalUsageEvidence
  hasTrustedFinalUsage : Bool
  outputCommitted : Bool
  requestCancelled : Bool

inductive ArbitratedSettlement where
  | releaseNotStarted
  | settleFinalUsage
  | reconcile
deriving DecidableEq

inductive ArbitrationStopReason where
  | requestCancelled
  | outputCommitted
  | evidencePending
deriving DecidableEq

structure ProviderAttemptFailureArbitration where
  settlement : ArbitratedSettlement
  fallbackPermitted : Bool
  stopReason : Option ArbitrationStopReason

def arbitrateProviderAttemptFailure (input : ProviderAttemptFailureArbitrationInput) :
    ProviderAttemptFailureArbitration :=
  let releaseNotStarted := input.costExposure = .notStarted ∧ input.finalUsageEvidence = .absent ∧
    ¬input.hasTrustedFinalUsage
  let settleFinalUsage := input.costExposure = .stopped ∧ input.finalUsageEvidence = .final ∧
    input.hasTrustedFinalUsage
  let settlement : ArbitratedSettlement :=
    if releaseNotStarted then .releaseNotStarted
    else if settleFinalUsage then .settleFinalUsage
    else .reconcile
  let stopReason : Option ArbitrationStopReason :=
    if input.requestCancelled then some .requestCancelled
    else if input.outputCommitted then some .outputCommitted
    else if settlement = .reconcile then some .evidencePending
    else none
  ⟨settlement, stopReason.isNone, stopReason⟩

def assertProviderAttemptAdmissionIdentity (input : ProviderAttemptAdmissionIdentity) :
    Except RelayError Unit := do
  Checked.rejectIf (¬IsSafeInteger input.attemptIndex ∨ input.attemptIndex < 0)
    ⟨"invalid_provider_attempt", "ProviderAttempt index is invalid", 400⟩
  Checked.rejectIf (¬IsSafeInteger input.routing.selectorBehaviorVersion ∨
      ¬IsSafeInteger input.routing.routingRevision)
    ⟨"invalid_provider_attempt", "ProviderAttempt revisions are invalid", 400⟩

def providerAttemptFailureClass (outcome : ProviderAttemptOutcome)
    (failureClass : Option ProviderFailureClass) : Option ProviderFailureClass :=
  if outcome = .failed then some (failureClass.getD .nonRetryable) else none

def providerAttemptFailureReason (outcome : ProviderAttemptOutcome)
    (reason : Option ProviderCredentialFailureReason) :
    Except RelayError (Option ProviderCredentialFailureReason) :=
  if outcome ≠ .failed ∧ reason.isSome then
    .error ⟨"provider_attempt_failure_reason_invalid",
      "ProviderAttempt failure reason is invalid", 400⟩
  else .ok reason

/-- The first character of a reconciliation reason. -/
def isReasonStart (c : Char) : Bool :=
  ('A' ≤ c && c ≤ 'Z') || ('a' ≤ c && c ≤ 'z') || ('0' ≤ c && c ≤ '9')

/-- The characters after the first: `[A-Za-z0-9_.:-]`. -/
def isReasonRest (c : Char) : Bool := isReasonStart c || c ∈ ['_', '.', ':', '-']

def assertReconciliationReason (reason : String) : Except RelayError Unit :=
  let accepted : Bool := match reason.toList with
    | [] => false
    | first :: rest => isReasonStart first && rest.all isReasonRest && rest.length ≤ 191
  Checked.rejectIf (accepted = false)
    ⟨"invalid_provider_reconciliation_reason",
      "Reconciliation reason must be a bounded non-secret code", 400⟩

end Frely.RequestExecution
