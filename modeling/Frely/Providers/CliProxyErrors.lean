import Frely.ProviderRuntime.AttemptFailure

/-!
# Errors of the CPA client

`CliProxyError` carries what is known of the cost of an attempt.  What a constructor is not told, it
takes from the stage of the error.  Errors are wrapped again on their way out; the wrappers copy the
cost.
-/

namespace Frely.Providers

open Frely.RequestExecution Frely.ProviderRuntime

variable {ν : Type}

inductive CliProxyErrorStage where
  | configuration
  | request
  | responseHeaders
  | streamRead
  | protocol
deriving DecidableEq

inductive FetchStage where
  | responseHeaders
  | streamRead
deriving DecidableEq

structure ProviderFetchDiagnostic where
  stage : FetchStage
  retryable : Bool
  eventsReceived : Nat
  causeCode : Option String
deriving DecidableEq

structure CliProxyErrorDetails where
  upstreamStatus : Option Nat := none
  upstreamCode : Option String := none
  upstreamType : Option String := none
deriving DecidableEq

structure CliProxyError extends RelayError where
  retryable : Bool
  stage : CliProxyErrorStage
  diagnostic : Option ProviderFetchDiagnostic
  costExposure : ProviderCostExposure
  finalUsageEvidence : ProviderFinalUsageEvidence
  failureReason : Option ProviderCredentialFailureReason
  details : CliProxyErrorDetails
deriving DecidableEq

structure CliProxyErrorOptions where
  retryable : Bool := false
  stage : CliProxyErrorStage := .request
  diagnostic : Option ProviderFetchDiagnostic := none
  costExposure : Option ProviderCostExposure := none
  finalUsageEvidence : Option ProviderFinalUsageEvidence := none
  failureReason : Option ProviderCredentialFailureReason := none
  details : CliProxyErrorDetails := {}

/-- A response header or a malformed stream does not prove that the generation has stopped. -/
def CliProxyErrorOptions.exposure (options : CliProxyErrorOptions) : ProviderCostExposure :=
  options.costExposure.getD (if options.stage = .configuration then .notStarted else .accruing)

/-- The constructor. -/
def CliProxyError.new (code message : String) (status : Nat) (options : CliProxyErrorOptions) :
    CliProxyError where
  code := code
  message := message
  status := status
  retryable := options.retryable
  stage := options.stage
  diagnostic := options.diagnostic
  costExposure := options.exposure
  finalUsageEvidence := options.finalUsageEvidence.getD
    (if options.exposure = .notStarted then .absent else .pending)
  failureReason := options.failureReason
  details := options.details

/-- A value that is thrown.  Of one that is no `CliProxyError` only these are read: whether it is a
`RelayError`, its name, the code of its cause and its members. -/
structure OtherThrown (ν : Type) where
  relay : Option RelayError := none
  name : String := ""
  causeCode : Option String := none
  members : List (String × Json ν) := []

inductive Thrown (ν : Type) where
  | cliProxyError (error : CliProxyError)
  | other (thrown : OtherThrown ν)

/-- `/^[A-Za-z0-9_.-]{1,64}$/`. -/
def isToken (text : String) : Bool :=
  let chars := text.toList
  1 ≤ chars.length && chars.length ≤ 64 &&
    chars.all fun c => c.isAlphanum || c = '_' || c = '.' || c = '-'

def safeErrorToken : Json ν → Option String
  | .string text => if isToken text then some text else none
  | _ => none

def cliProxyDiagnostic (stage : FetchStage) (retryable : Bool) (eventsReceived : Nat)
    (causeCode : Option String) : ProviderFetchDiagnostic where
  stage := stage
  retryable := retryable
  eventsReceived := min 1000000 eventsReceived
  causeCode := causeCode.filter isToken

def providerFetchCauseCode : Thrown ν → Option String
  | .cliProxyError error => if isToken error.code then some error.code else none
  | .other thrown => thrown.causeCode.filter isToken

/-! ### Errors of the client itself -/

def cliProxyConfigurationError (message : String) : CliProxyError :=
  .new "cliproxy_configuration_error" message 503 { stage := .configuration }

def protocolError (message : String) : CliProxyError :=
  .new "cliproxy_protocol_error" message 502
    { stage := .protocol
      diagnostic := some
        (cliProxyDiagnostic .streamRead false 0 (some "CLIPROXY_PROTOCOL_ERROR")) }

def cliProxyFetchError (error : Thrown ν) (aborted : Option (Thrown ν)) : CliProxyError :=
  match error, aborted with
  | .cliProxyError error, _ => error
  | .other _, some (.cliProxyError reason) => reason
  | .other _, some (.other _) =>
    .new "cliproxy_request_aborted" "CLIProxyAPI request was cancelled" 499
      { stage := .request
        costExposure := some .accruing
        finalUsageEvidence := some .pending
        diagnostic := some (cliProxyDiagnostic .responseHeaders false 0 (some "ABORT_ERR")) }
  | .other thrown, none =>
    .new "cliproxy_fetch_failed" "CLIProxyAPI request failed" 502
      { retryable := true
        stage := .responseHeaders
        costExposure := some .accruing
        finalUsageEvidence := some .pending
        diagnostic := some (cliProxyDiagnostic .responseHeaders true 0
          (providerFetchCauseCode (.other thrown))) }

/-- An error that reached the stream. -/
def CliProxyError.inStream (error : CliProxyError) (eventsReceived : Nat) : CliProxyError :=
  if error.diagnostic.any (fun diagnostic =>
      diagnostic.stage = .streamRead ∧ diagnostic.eventsReceived = eventsReceived) then error
  else
    .new error.code error.message error.status
      { retryable := error.retryable
        stage := .streamRead
        costExposure := some error.costExposure
        finalUsageEvidence := some error.finalUsageEvidence
        failureReason := error.failureReason
        details := error.details
        diagnostic := some (cliProxyDiagnostic .streamRead error.retryable eventsReceived
          (error.diagnostic.bind ProviderFetchDiagnostic.causeCode)) }

def Thrown.isTimeout : Thrown ν → Bool
  | .cliProxyError error => error.code = "cliproxy_timeout"
  | .other _ => false

def streamAborted (reason : Thrown ν) (eventsReceived : Nat) : CliProxyError :=
  if reason.isTimeout then
    .new "cliproxy_timeout" "CLIProxyAPI request timed out" 504
      { retryable := true
        stage := .streamRead
        costExposure := some .accruing
        finalUsageEvidence := some .pending
        diagnostic := some (cliProxyDiagnostic .streamRead true eventsReceived (some "TIMEOUT")) }
  else
    .new "cliproxy_request_aborted" "CLIProxyAPI request was cancelled" 499
      { stage := .streamRead
        costExposure := some .accruing
        finalUsageEvidence := some .pending
        diagnostic := some
          (cliProxyDiagnostic .streamRead false eventsReceived (some "ABORT_ERR")) }

/-- `cliProxyStreamError`; `aborted` is the reason of a signal that is aborted. -/
def streamError (error : Thrown ν) (eventsReceived : Nat) (aborted : Option (Thrown ν)) :
    CliProxyError :=
  match error, aborted with
  | .cliProxyError error, _ => error.inStream eventsReceived
  | .other _, some reason => streamAborted reason eventsReceived
  | .other thrown, none =>
    .new "cliproxy_stream_failed" "CLIProxyAPI stream ended unexpectedly" 502
      { retryable := true
        stage := .streamRead
        costExposure := some .accruing
        finalUsageEvidence := some .pending
        diagnostic := some (cliProxyDiagnostic .streamRead true eventsReceived
          (providerFetchCauseCode (.other thrown))) }

/-! ### Errors of the upstream -/

/-- The members of an object. -/
def recordFromUnknown : Json ν → Option (List (String × Json ν))
  | .object members => some members
  | _ => none

/-- A member of a value, `null` where there is none. -/
def memberOf (value : Json ν) (key : String) : Json ν :=
  ((recordFromUnknown value).bind fun record => Json.member? record key).getD .null

/-- `??`. -/
def orElse : Json ν → Json ν → Json ν
  | .null, other => other
  | value, _ => value

def safeUpstreamError (body : Json ν) : Option String × Option String :=
  let nested := [memberOf body "error", memberOf (memberOf body "response") "error",
    memberOf (memberOf body "body") "error"]
  let error := (nested.find? fun value => (recordFromUnknown value).isSome).getD .null
  let eventType := safeErrorToken (memberOf body "type")
  let eventType : Json ν := match eventType with
    | some text => if text = "error" then .null else .string text
    | none => .null
  (safeErrorToken (orElse (memberOf error "code") (memberOf body "code")),
    safeErrorToken (orElse (orElse (memberOf error "type") (memberOf body "error_type")) eventType))

/-- The code, the message and whether to try again. -/
def cliProxyCredentialFailure : ProviderCredentialFailureReason → String × String × Bool
  | .authUnauthorized => ("cliproxy_provider_credentials_unauthorized",
    "CLIProxyAPI provider credential is unauthorized", false)
  | .authUnavailable => ("cliproxy_provider_credentials_unavailable",
    "CLIProxyAPI provider credential is temporarily unavailable", true)
  | .authNotFound => ("cliproxy_provider_credentials_not_found",
    "CLIProxyAPI provider credential is unavailable", false)
  | .modelCooldown => ("cliproxy_provider_credentials_cooldown",
    "CLIProxyAPI provider credential is cooling down", true)

def cliProxyRequestError (status : Nat) (upstreamType : Option String) :
    Option (String × String × Nat) :=
  if upstreamType = some "invalid_request_error" ∨ upstreamType = some "bad_request_error" ∨
      status = 400 then
    some ("cliproxy_invalid_request", "Provider rejected the request as invalid", 400)
  else if upstreamType = some "not_found_error" ∨ status = 404 then
    some ("cliproxy_not_found", "Provider could not find the requested resource", 404)
  else if status = 409 then
    some ("cliproxy_conflict", "Provider rejected the request due to a conflict", 409)
  else if status = 422 then
    some ("cliproxy_unprocessable_request", "Provider could not process the request", 422)
  else if 400 ≤ status ∧ status < 500 ∧ status ≠ 408 then
    some ("cliproxy_provider_error", "CLIProxyAPI rejected the provider request", status)
  else none

/-- The code, the message, the status and whether to try again, of an error that is no credential
failure. -/
def httpErrorKind (status : Nat) (upstreamCode upstreamType : Option String) :
    String × String × Nat × Bool :=
  if status = 401 ∨ upstreamType = some "authentication_error" then
    ("cliproxy_authentication_failed", "CLIProxyAPI rejected the service credential", 502, false)
  else if status = 403 ∨ upstreamType = some "permission_error" then
    ("cliproxy_access_denied", "CLIProxyAPI denied the provider request", 502, false)
  else if status = 429 ∨ upstreamType = some "rate_limit_error" then
    ("cliproxy_rate_limited", "CLIProxyAPI provider capacity is temporarily unavailable", 429, true)
  else match cliProxyRequestError status upstreamType with
    | some (code, message, status) => (code, message, status, false)
    | none =>
      if status = 502 ∧ upstreamCode.any isRetryableUpstreamCode then
        ("cliproxy_unavailable", "CLIProxyAPI provider capacity is temporarily unavailable", 502,
          true)
      else if status = 502 ∧ upstreamCode.isSome then
        ("cliproxy_provider_error", "CLIProxyAPI rejected the provider request", 502, false)
      else if 500 ≤ status then
        ("cliproxy_unavailable", "CLIProxyAPI is temporarily unavailable", 502, true)
      else ("cliproxy_provider_error", "CLIProxyAPI rejected the provider request", 502, false)

def cliProxyHttpError (status : Nat) (body : Json ν) : CliProxyError :=
  let (upstreamCode, upstreamType) := safeUpstreamError body
  let details : CliProxyErrorDetails := ⟨some status, upstreamCode, upstreamType⟩
  match upstreamCode.bind credentialFailureReason? with
  | some failureReason =>
    let (code, message, retryable) := cliProxyCredentialFailure failureReason
    .new code message 502
      { retryable, stage := .responseHeaders, failureReason := some failureReason, details
        diagnostic := some (cliProxyDiagnostic .responseHeaders retryable 0
          (some (credentialFailureReasonText failureReason))) }
  | none =>
    let (code, message, publicStatus, retryable) := httpErrorKind status upstreamCode upstreamType
    .new code message publicStatus
      { retryable, stage := .responseHeaders, details
        diagnostic := some (cliProxyDiagnostic .responseHeaders retryable 0 upstreamCode) }

/-! ### What is answered -/

def cliProxyAttemptFailure (error : CliProxyError) : ProviderAttemptFailure where
  failureClass :=
    if error.code = "cliproxy_rate_limited" then .rateLimited
    else if ["timeout", "lifetime", "idle"].any (hasWord error.code) then .timeout
    else if ["fetch_failed", "connect", "socket"].any (hasWord error.code) then .connectError
    else if error.retryable ∧ 500 ≤ error.status then .upstream5xx
    else .nonRetryable
  failureReason := error.failureReason
  costExposure := error.costExposure
  finalUsageEvidence := error.finalUsageEvidence
  trustedUsage := none

def cliProxyErrorBody (error : CliProxyError) : Json ν :=
  let optional (key : String) (value : Option String) : List (String × Json ν) :=
    ((value.filter isToken).map fun text => (key, Json.string text)).toList
  .object [("error", .object ([("code", .string error.code), ("message", .string error.message)] ++
    optional "providerCode" error.details.upstreamCode ++
    optional "providerType" error.details.upstreamType))]

/-- The error that is answered for a thrown value. -/
def normalizedError : Thrown ν → CliProxyError
  | .cliProxyError error => error
  | .other _ =>
    .new "cliproxy_request_failed" "CLIProxyAPI request failed" 502 { retryable := true }

/-- What `providerFailureFromThrown` reads of a thrown value. -/
def Thrown.value : Thrown ν → ThrownValue ν
  | .cliProxyError error =>
    { code := error.code
      status := error.status
      members :=
        [("costExposure", .string (providerCostExposureText error.costExposure)),
          ("finalUsageEvidence", .string (providerFinalUsageEvidenceText error.finalUsageEvidence))]
        ++ (error.failureReason.map fun reason =>
          ("failureReason", Json.string (credentialFailureReasonText reason))).toList }
  | .other thrown =>
    { code := (thrown.relay.map RelayError.code).getD thrown.name
      status := (thrown.relay.map RelayError.status).getD 0
      members := thrown.members }

end Frely.Providers
