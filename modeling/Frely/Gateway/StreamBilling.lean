import Frely.Application.Commands
import Frely.Lib.Effects

/-!
# Billing of a provider stream

`wrapStreamForBilling` passes the events of a provider stream on to its consumer and settles the
provider attempt on the way: as completed at a terminal event, as failed at an error, at an
incomplete end, or when the consumer stops reading.

The wrapper is an asynchronous generator.  It runs from one read of the consumer to the next; a
consumer that stops reading closes it where it is suspended.  A generator that was never read is
closed without running at all.

The callbacks of the gateway are parameters: `outcomes` says how the n-th call of one ends.  An
absent callback is one that does nothing.  The state records the calls made.
-/

namespace Frely.Gateway

open Frely.Application Frely.Billing Frely.RequestExecution Effects

/-! ### Failures -/

/-- What the gateway reads of a diagnostic. -/
structure ProviderFetchDiagnostic where
  causeCode : Option String
  retryable : Bool
deriving DecidableEq

structure ProviderAttemptFailure where
  failureClass : ProviderFailureClass
  failureReason : Option ProviderCredentialFailureReason
  costExposure : ProviderCostExposure
  finalUsageEvidence : ProviderFinalUsageEvidence
  trustedUsage : Option InvocationUsageUnits
deriving DecidableEq

structure ProviderExecutionEvidence where
  costExposure : ProviderCostExposure
  finalUsageEvidence : ProviderFinalUsageEvidence
  trustedUsage : Option InvocationUsageUnits
deriving DecidableEq

def isTrustedProviderUsage (usage : InvocationUsageUnits) : Bool :=
  let counts := [usage.inputTokens, usage.cachedInputTokens, usage.cacheWriteTokens,
    usage.outputTokens, usage.totalTokens]
  counts.all (fun count => IsSafeInteger count ∧ 0 ≤ count) &&
    usage.cachedInputTokens + usage.cacheWriteTokens ≤ usage.inputTokens &&
    usage.totalTokens = usage.inputTokens + usage.outputTokens

def unresolvedProviderFailure (failureClass : ProviderFailureClass) : ProviderAttemptFailure :=
  ⟨failureClass, none, .accruing, .pending, none⟩

/-- A failure whose parts contradict each other counts as one of unknown cost. -/
def parseProviderAttemptFailure :
    Option ProviderAttemptFailure → Option ProviderAttemptFailure
  | none => none
  | some failure =>
    if failure.trustedUsage.any (fun usage => !isTrustedProviderUsage usage) ∨
        ((failure.finalUsageEvidence = .final) ≠ failure.trustedUsage.isSome) ∨
        (failure.costExposure = .notStarted ∧
          (failure.finalUsageEvidence ≠ .absent ∨ failure.trustedUsage ≠ none)) ∨
        (failure.costExposure = .stopped ∧ failure.finalUsageEvidence = .absent) then
      some (unresolvedProviderFailure .nonRetryable)
    else some failure

/-- A test for a word anywhere in a text, whatever the case of its letters. -/
def mentions (text word : String) : Bool :=
  (text.toList.map Char.toLower).tails.any fun rest => word.toList.isPrefixOf rest

def isLineTerminator (c : Char) : Bool := c ∈ ['\n', '\r', '\u2028', '\u2029']

/-- `/rate.?limit/i`. -/
def mentionsRateLimit (text : String) : Bool :=
  (text.toList.map Char.toLower).tails.any fun rest =>
    "ratelimit".toList.isPrefixOf rest ||
      ("rate".toList.isPrefixOf rest && match rest.drop 4 with
        | [] => false
        | c :: rest => !isLineTerminator c && "limit".toList.isPrefixOf rest)

def failureClassFromProviderError (code : String) (diagnostic : Option ProviderFetchDiagnostic) :
    ProviderFailureClass :=
  if mentionsRateLimit code then .rateLimited
  else if ["timeout", "lifetime", "idle"].any (mentions code) ∨
      diagnostic.any (·.causeCode = some "TIMEOUT") then .timeout
  else if ["fetch", "connect", "socket", "network"].any (mentions code) then .connectError
  else if diagnostic.any (·.retryable) then .upstream5xx
  else .nonRetryable

inductive FailureOutcome where
  | failed
  | aborted
deriving DecidableEq

/-! ### Streams -/

inductive ProviderStreamTerminal where
  | succeeded (evidence : ProviderExecutionEvidence)
  | failed (code : String) (diagnostic : Option ProviderFetchDiagnostic)
    (failure : ProviderAttemptFailure)
deriving DecidableEq

/-- An event of a provider stream, with data of any type. -/
inductive ProviderStreamEvent (δ : Type) where
  | chunk (data : δ) (terminal : Option ProviderStreamTerminal)
  | usage (usage : InvocationUsageUnits)
  | error (code message : String) (retryable : Bool) (diagnostic : Option ProviderFetchDiagnostic)
    (failure : Option ProviderAttemptFailure)
  | done (usage : Option InvocationUsageUnits) (serviceTier : Option String)
    (evidence : Option ProviderExecutionEvidence)
deriving DecidableEq

/-- What is thrown: a relay error with its code, or anything else. -/
inductive Thrown where
  | relayError (code : String)
  | other
deriving DecidableEq

def Thrown.code : Thrown → String
  | relayError code => code
  | other => "provider_error"

/-- The calls of the callbacks. -/
inductive Call (δ : Type) where
  | captureStreamEvent (event : ProviderStreamEvent δ)
  | completeRequest (evidence : Option ProviderExecutionEvidence)
  | commitBilling (usage : InvocationUsageUnits)
  | finalizeFailure (failure : ProviderAttemptFailure) (outcome : FailureOutcome)
    (outputCommitted : Bool) (errorCode : String)
  | closeRiskUnknown
  | failRequest (code : String) (diagnostic : Option ProviderFetchDiagnostic)
    (failureReason : Option ProviderCredentialFailureReason)
  | captureStreamDone (errorCode : Option String)

/-- A provider stream ends by itself after its events, or fails; closing it early may fail too. -/
structure StreamBillingInput (δ : Type) where
  events : List (ProviderStreamEvent δ)
  failure : Option Thrown
  closeFailure : Option Thrown
  providerInvocationManaged : Bool
  outcomes : Nat → Option Thrown

/-- The variables of the generator, the events it has delivered, the reads the consumer still makes
before it stops, and the calls made with what they threw. -/
structure StreamBilling (δ : Type) where
  settled : Bool := false
  captured : Bool := false
  publicChunkObserved : Bool := false
  capturePending : Bool := false
  pendingCaptureCode : Option String := none
  delivered : List (ProviderStreamEvent δ) := []
  readsLeft : Nat
  calls : List (Call δ × Option Thrown) := []

section Generator

variable {δ : Type}

abbrev StreamEffect (δ : Type) := Effect (StreamBilling δ) Thrown

def throwIf (failure : Option Thrown) : StreamEffect δ Unit :=
  match failure with
  | none => pure ()
  | some thrown => throw thrown

def StreamBilling.record (s : StreamBilling δ) (call : Call δ) (outcome : Option Thrown) :
    StreamBilling δ :=
  { s with calls := s.calls ++ [(call, outcome)] }

def invoke (input : StreamBillingInput δ) (call : Call δ) : StreamEffect δ Unit := do
  let outcome ← inspect fun s => input.outcomes s.calls.length
  change fun s => s.record call outcome
  throwIf outcome

def captureDone (input : StreamBillingInput δ) (errorCode : Option String) :
    StreamEffect δ Unit := do
  if ← inspect (·.captured) then pure ()
  else
    change fun s => { s with captured := true }
    invoke input (.captureStreamDone errorCode)

def finalUsage (failure : ProviderAttemptFailure) : Option InvocationUsageUnits :=
  if failure.costExposure = .stopped ∧ failure.finalUsageEvidence = .final then
    failure.trustedUsage.filter isTrustedProviderUsage
  else none

def commitFailedUsage (input : StreamBillingInput δ) (failure : ProviderAttemptFailure) :
    StreamEffect δ Unit :=
  match finalUsage failure with
  | some usage =>
    if input.providerInvocationManaged then pure () else invoke input (.commitBilling usage)
  | none => pure ()

/-- The step of a failure settlement that is skipped when its first call throws. -/
def finalizeFailedUsage (input : StreamBillingInput δ) (code : String)
    (failure : ProviderAttemptFailure) : StreamEffect δ Unit := do
  commitFailedUsage input failure
  let publicChunkObserved ← inspect (·.publicChunkObserved)
  invoke input (.finalizeFailure failure
    (if code = "cliproxy_request_aborted" then .aborted else .failed) publicChunkObserved code)

/-- Captures the end of the stream, or leaves that for the next error, the end or the close. -/
def captureFailure (input : StreamBillingInput δ) (code : String) (finalizeCapture : Bool) :
    StreamEffect δ Unit :=
  if finalizeCapture then captureDone input (some code)
  else change fun s => { s with capturePending := true, pendingCaptureCode := some code }

/-- Every step of a failure settlement is taken; the first error is thrown at the end. -/
def settleFailure (input : StreamBillingInput δ) (code : String)
    (diagnostic : Option ProviderFetchDiagnostic) (rawFailure : Option ProviderAttemptFailure)
    (finalizeCapture : Bool) : StreamEffect δ Unit := do
  if ← inspect (·.settled) then pure ()
  else
    change fun s => { s with settled := true }
    let failure := (parseProviderAttemptFailure rawFailure).getD
      (unresolvedProviderFailure (failureClassFromProviderError code diagnostic))
    let finalizeError ← attempt (finalizeFailedUsage input code failure)
    let closeError ← attempt (invoke input .closeRiskUnknown)
    let failError ← attempt (invoke input (.failRequest code diagnostic failure.failureReason))
    let captureError ← attempt (captureFailure input code finalizeCapture)
    throwIf (finalizeError <|> closeError <|> failError <|> captureError)

def capturedEvent : ProviderStreamEvent δ → ProviderStreamEvent δ
  | .chunk data _ => .chunk data none
  | .error code message retryable _ _ => .error code message retryable none none
  | event => event

def settleTerminal (input : StreamBillingInput δ) (terminal : Option ProviderStreamTerminal) :
    StreamEffect δ Unit := do
  if ← inspect (·.settled) then pure ()
  else match terminal with
    | some (.succeeded evidence) => do
      invoke input (.completeRequest (some evidence))
      change fun s => { s with settled := true, capturePending := true, pendingCaptureCode := none }
    | some (.failed code diagnostic failure) =>
      settleFailure input code diagnostic (some failure) false
    | none => pure ()

def capturePendingDone (input : StreamBillingInput δ) : StreamEffect δ Unit := do
  let pendingCaptureCode ← inspect (·.pendingCaptureCode)
  captureDone input pendingCaptureCode

def settleError (input : StreamBillingInput δ) (code : String)
    (diagnostic : Option ProviderFetchDiagnostic) (failure : Option ProviderAttemptFailure) :
    StreamEffect δ Unit := do
  if ← inspect (·.settled) then
    if ← inspect (·.capturePending) then capturePendingDone input else pure ()
  else settleFailure input code diagnostic failure true

def completeDone (input : StreamBillingInput δ) (evidence : Option ProviderExecutionEvidence) :
    StreamEffect δ Unit := do
  if ← inspect (·.settled) then pure ()
  else
    invoke input (.completeRequest evidence)
    change fun s => { s with settled := true }

def settleDone (input : StreamBillingInput δ) (evidence : Option ProviderExecutionEvidence) :
    StreamEffect δ Unit := do
  completeDone input evidence
  let errorCode ← inspect fun s => if s.capturePending then s.pendingCaptureCode else none
  captureDone input errorCode

/-- What the generator does with an event before it yields it; an error and `done` are the last. -/
def handleEvent (input : StreamBillingInput δ) (event : ProviderStreamEvent δ) :
    StreamEffect δ Bool := do
  invoke input (.captureStreamEvent (capturedEvent event))
  match event with
  | .chunk _ terminal => do
    change fun s => { s with publicChunkObserved := true }
    settleTerminal input terminal
    return false
  | .usage _ => return false
  | .error code _ _ diagnostic failure => do
    settleError input code diagnostic failure
    return true
  | .done _ _ evidence => do
    settleDone input evidence
    return true

/-- Delivers an event, and tells whether the consumer goes on reading. -/
def yieldEvent (event : ProviderStreamEvent δ) : StreamEffect δ Bool := do
  let resumed ← inspect fun s => decide (0 < s.readsLeft)
  change fun s => { s with delivered := s.delivered ++ [event], readsLeft := s.readsLeft - 1 }
  return resumed

/-- The loop over the events; whether it ended with the stream, or was left before. -/
def forEvents (input : StreamBillingInput δ) : List (ProviderStreamEvent δ) → StreamEffect δ Bool
  | [] => do
    throwIf input.failure
    return true
  | event :: rest => do
    let last ← handleEvent input event
    let resumed ← yieldEvent event
    if last || !resumed then do
      throwIf input.closeFailure
      return false
    else forEvents input rest

def settleUnsettled (input : StreamBillingInput δ) (code : String) : StreamEffect δ Unit := do
  if ← inspect (·.settled) then pure () else settleFailure input code none none true

def streamBody (input : StreamBillingInput δ) : StreamEffect δ Unit := do
  let exhausted ← forEvents input input.events
  if exhausted then settleUnsettled input "provider_stream_incomplete" else pure ()

def handleThrown (input : StreamBillingInput δ) (thrown : Thrown) : StreamEffect δ Unit := do
  settleUnsettled input thrown.code
  throw thrown

/-- The `finally` block. -/
def closeStream (input : StreamBillingInput δ) : StreamEffect δ Unit := do
  if ← inspect (·.settled) then
    if ← inspect (fun s => s.capturePending && !s.captured) then capturePendingDone input
    else pure ()
  else settleFailure input "cliproxy_request_aborted" none none true

def runStream (input : StreamBillingInput δ) : StreamEffect δ Unit :=
  ensure (tryCatch (streamBody input) (handleThrown input)) (closeStream input)

/-- The state after a consumer has made up to `reads` reads and then closed the generator, unless it
ended before. -/
def wrapStreamForBilling (input : StreamBillingInput δ) : Nat → StreamBilling δ
  | 0 => { readsLeft := 0 }
  | reads + 1 => (runStream input { readsLeft := reads }).2

end Generator

end Frely.Gateway
