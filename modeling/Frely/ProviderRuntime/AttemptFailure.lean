import Frely.ProviderRuntime.CpaBasicEnvelope

/-!
# Failures of provider attempts

What is known of the cost of an attempt that failed.  `providerFailureFromThrown` reads it off the
fields of whatever was thrown; `parseProviderAttemptFailure` takes nothing that contradicts itself.
-/

namespace Frely.ProviderRuntime

open Frely.RequestExecution

variable {ν : Type}

structure ProviderExecutionEvidence where
  costExposure : ProviderCostExposure
  finalUsageEvidence : ProviderFinalUsageEvidence
  trustedUsage : Option ProviderUsage
deriving DecidableEq

structure ProviderAttemptFailure where
  failureClass : ProviderFailureClass
  failureReason : Option ProviderCredentialFailureReason
  costExposure : ProviderCostExposure
  finalUsageEvidence : ProviderFinalUsageEvidence
  trustedUsage : Option ProviderUsage
deriving DecidableEq

def unresolvedProviderExecutionEvidence : ProviderExecutionEvidence := ⟨.accruing, .pending, none⟩

def unresolvedProviderFailure (failureClass : ProviderFailureClass) : ProviderAttemptFailure :=
  ⟨failureClass, none, .accruing, .pending, none⟩

/-! ### Texts -/

def failureClassText : ProviderFailureClass → String
  | .connectError => "connect_error"
  | .timeout => "timeout"
  | .rateLimited => "rate_limited"
  | .upstream5xx => "upstream_5xx"
  | .nonRetryable => "non_retryable"

def credentialFailureReasonText : ProviderCredentialFailureReason → String
  | .authUnauthorized => "auth_unauthorized"
  | .authUnavailable => "auth_unavailable"
  | .authNotFound => "auth_not_found"
  | .modelCooldown => "model_cooldown"

def credentialFailureReason? : String → Option ProviderCredentialFailureReason
  | "auth_unauthorized" => some .authUnauthorized
  | "auth_unavailable" => some .authUnavailable
  | "auth_not_found" => some .authNotFound
  | "model_cooldown" => some .modelCooldown
  | _ => none

def isProviderCredentialFailureReason : Json ν → Option ProviderCredentialFailureReason
  | .string text => credentialFailureReason? text
  | _ => none

def providerCostExposureText : ProviderCostExposure → String
  | .notStarted => "not_started"
  | .accruing => "accruing"
  | .stopped => "stopped"

def providerFinalUsageEvidenceText : ProviderFinalUsageEvidence → String
  | .absent => "absent"
  | .pending => "pending"
  | .final => "final"

/-- A regular expression that is a word. -/
def hasWord (text word : String) : Bool :=
  text.toList.tails.any fun rest => word.toList.isPrefixOf rest

def lowerAscii (text : String) : String := String.ofList (text.toList.map Char.toLower)

/-- `/(?:^|_)(?:unavailable|upstream_5xx|stream_failed)(?:$|_)/i`. -/
def isRetryableUpstreamCode (code : String) : Bool :=
  ["_unavailable_", "_upstream_5xx_", "_stream_failed_"].any
    (hasWord ("_" ++ lowerAscii code ++ "_"))

/-! ### Failures -/

variable (format : Json.NumberFormat ν)

/-- `??` on a member. -/
def memberOr (record : List (String × Json ν)) (key : String) (default : String) : Json ν :=
  match Json.member? record key with
  | none | some .null => .string default
  | some value => value

def attemptFailureKeys : List String :=
  ["version", "failureClass", "failureReason", "costExposure", "finalUsageEvidence", "trustedUsage"]

/-- The failure that a record declares, if it is one that does not contradict itself. -/
def declaredFailure (record : List (String × Json ν)) : Option ProviderAttemptFailure :=
  if record.any (fun member => member.1 ∉ attemptFailureKeys) ∨
      safeCount format (Json.member? record "version") ≠ some 1 then none
  else do
    let failureClass ← isProviderFailureClass (ν := ν)
      (.string (textOf format (Json.member? record "failureClass")))
    let failureReason ← optionalField (Json.member? record "failureReason")
      isProviderCredentialFailureReason
    let costExposure ← isProviderCostExposure
      (textOf format (some (memberOr record "costExposure" "accruing")))
    let finalUsageEvidence ← isProviderFinalUsageEvidence
      (textOf format (some (memberOr record "finalUsageEvidence" "pending")))
    let trustedUsage ← optionalField (Json.member? record "trustedUsage")
      (trustedProviderUsage format)
    if decide (finalUsageEvidence = .final) ≠ trustedUsage.isSome ∨
        (costExposure = .notStarted ∧ (finalUsageEvidence ≠ .absent ∨ trustedUsage.isSome)) ∨
        (costExposure = .stopped ∧ finalUsageEvidence = .absent) then none
    else some ⟨failureClass, failureReason, costExposure, finalUsageEvidence, trustedUsage⟩

/-- What is declared; `none` is `undefined`. -/
def parseProviderAttemptFailure : Option (Json ν) → Option ProviderAttemptFailure
  | none => none
  | some (.object record) =>
    some ((declaredFailure format record).getD (unresolvedProviderFailure .nonRetryable))
  | some _ => some (unresolvedProviderFailure .nonRetryable)

/-- What is read of a thrown value: the code of a `RelayError` or the name of another error, the
status of a `RelayError`, and the members of an object. -/
structure ThrownValue (ν : Type) where
  code : String := ""
  status : Nat := 0
  members : List (String × Json ν) := []

def ThrownValue.failureClass (thrown : ThrownValue ν) : ProviderFailureClass :=
  let code := lowerAscii thrown.code
  let failureReason := (Json.member? thrown.members "failureReason").bind
    isProviderCredentialFailureReason
  let retryableCredentialFailure :=
    failureReason = some .authUnavailable ∨ failureReason = some .modelCooldown
  if thrown.status = 429 then .rateLimited
  else if hasWord code "timeout" then .timeout
  else if ["fetch", "connect", "socket", "network"].any (hasWord code) then .connectError
  else if 500 ≤ thrown.status ∧
      (retryableCredentialFailure ∨ isRetryableUpstreamCode thrown.code) then .upstream5xx
  else .nonRetryable

/-- A member, if there is one. -/
def copiedMember (members : List (String × Json ν)) (key : String) : List (String × Json ν) :=
  (Json.member? members key).toList.map fun value => (key, value)

def ThrownValue.failure (thrown : ThrownValue ν) : List (String × Json ν) :=
  [("version", .number (format.ofNat 1)),
    ("failureClass", .string (failureClassText thrown.failureClass))] ++
  (match credentialFailureReason? thrown.code with
    | some _ => [("failureReason", .string thrown.code)]
    | none => copiedMember thrown.members "failureReason") ++
  copiedMember thrown.members "costExposure" ++ copiedMember thrown.members "finalUsageEvidence" ++
  copiedMember thrown.members "trustedUsage"

def providerFailureFromThrown (thrown : ThrownValue ν) : ProviderAttemptFailure :=
  (parseProviderAttemptFailure format (some (.object (thrown.failure format)))).getD
    (unresolvedProviderFailure thrown.failureClass)

/-! ### The envelope of a JSON response -/

/-- The response and the evidence of an envelope. -/
def parseCpaBasicJsonEnvelope (value : Json ν) (expectedProviderAttemptRef : String) :
    Option (Json ν × CpaBasicEvidenceEnvelope) :=
  match value with
  | .object record =>
    if record.any (fun member => member.1 ∉ ["contract", "version", "response", "evidence"]) ∨
        stringField record "contract" ≠ some "cpa-basic-json@1" ∨
        safeCount format (Json.member? record "version") ≠ some 1 then none
    else do
      let response ← Json.member? record "response"
      let evidence ← parseCpaBasicEvidenceEnvelope format
        ((Json.member? record "evidence").getD .null) expectedProviderAttemptRef
      pure (response, evidence)
  | _ => none

end Frely.ProviderRuntime
