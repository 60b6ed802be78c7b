import Frely.Core.Text
import Frely.Lib.Json
import Frely.RequestExecution.Contracts

/-!
# The evidence that CPA sends

`parseCpaBasicEvidenceEnvelope` takes a value that was parsed from JSON.  It projects the envelope
of an attempt and takes nothing that contradicts itself.
-/

namespace Frely.ProviderRuntime

open Frely.RequestExecution

variable {ν : Type}

structure ProviderUsage where
  inputTokens : Nat
  cachedInputTokens : Nat
  cacheWriteTokens : Nat
  outputTokens : Nat
  totalTokens : Nat
  source : String
deriving DecidableEq

structure CpaBasicEvidenceEnvelope where
  providerAttemptRef : String
  costExposure : ProviderCostExposure
  finalUsageEvidence : ProviderFinalUsageEvidence
  failureClass : Option ProviderFailureClass
  trustedUsage : Option ProviderUsage
  serviceTier : Option String
deriving DecidableEq

def isProviderCostExposure : String → Option ProviderCostExposure
  | "not_started" => some .notStarted
  | "accruing" => some .accruing
  | "stopped" => some .stopped
  | _ => none

def isProviderFinalUsageEvidence : String → Option ProviderFinalUsageEvidence
  | "absent" => some .absent
  | "pending" => some .pending
  | "final" => some .final
  | _ => none

def isProviderFailureClass : Json ν → Option ProviderFailureClass
  | .string "connect_error" => some .connectError
  | .string "timeout" => some .timeout
  | .string "rate_limited" => some .rateLimited
  | .string "upstream_5xx" => some .upstream5xx
  | .string "non_retryable" => some .nonRetryable
  | _ => none

/-- A field that is a string. -/
def stringField (record : List (String × Json ν)) (key : String) : Option String :=
  match Json.member? record key with
  | some (.string text) => some text
  | _ => none

variable (format : Json.NumberFormat ν)

/-- `Number.isSafeInteger(value) && value >= 0`. -/
def safeCount (value : Option (Json ν)) : Option Nat :=
  match value with
  | some (.number number) => (format.toNat? number).filter (· ≤ 9007199254740991)
  | _ => none

mutual

/-- `String(value)`; `undefined` and `null` are the empty text here, as they are in arrays and after
`??`. -/
def stringOf : Json ν → List Char
  | .null => []
  | .bool value => (toString value).toList
  | .number number => format.print number
  | .string text => text.toList
  | .array items => stringOfItems items
  | .object _ => "[object Object]".toList

def stringOfItems : List (Json ν) → List Char
  | [] => []
  | [item] => stringOf item
  | item :: rest => stringOf item ++ ',' :: stringOfItems rest

end

def textOf (value : Option (Json ν)) : String := String.ofList (stringOf format (value.getD .null))

/-- `isTrustedProviderUsage`, with the usage. -/
def trustedProviderUsage : Json ν → Option ProviderUsage
  | .object usage => do
    if usage.any fun member => member.1 ∉ ["inputTokens", "cachedInputTokens", "cacheWriteTokens",
        "outputTokens", "totalTokens", "source"] then none
    else
      let source ← (stringField usage "source").filter fun source =>
        source = "provider" || source = "response"
      let inputTokens ← safeCount format (Json.member? usage "inputTokens")
      let cachedInputTokens ← safeCount format (Json.member? usage "cachedInputTokens")
      let cacheWriteTokens ← safeCount format (Json.member? usage "cacheWriteTokens")
      let outputTokens ← safeCount format (Json.member? usage "outputTokens")
      let totalTokens ← safeCount format (Json.member? usage "totalTokens")
      if cachedInputTokens + cacheWriteTokens ≤ inputTokens ∧
          totalTokens = inputTokens + outputTokens then
        some ⟨inputTokens, cachedInputTokens, cacheWriteTokens, outputTokens, totalTokens, source⟩
      else none
  | _ => none

def cpaBasicEnvelopeKeys : List String :=
  ["contract", "version", "providerAttemptRef", "costExposure", "finalUsageEvidence",
    "failureClass", "trustedUsage", "serviceTier"]

/-- A check on an optional field: the field is absent, or it has a value. -/
def optionalField {α β : Type} (value : Option α) (check : α → Option β) : Option (Option β) :=
  match value with
  | none => some none
  | some value => (check value).map some

def boundedTier : Json ν → Option String
  | .string tier => if utf16Length tier < 1 ∨ 64 < utf16Length tier then none else some tier
  | _ => none

/-- What a consistent envelope says of its cost. -/
def consistentEvidence (costExposure : ProviderCostExposure)
    (finalUsageEvidence : ProviderFinalUsageEvidence) (hasUsage : Bool) : Bool :=
  !(decide (finalUsageEvidence = .final) ≠ hasUsage ||
    costExposure = .notStarted && (finalUsageEvidence ≠ .absent || hasUsage) ||
    costExposure = .stopped && finalUsageEvidence = .absent ||
    costExposure = .accruing && finalUsageEvidence ≠ .pending)

def parseCpaBasicEvidenceEnvelope (value : Json ν) (expectedProviderAttemptRef : String) :
    Option CpaBasicEvidenceEnvelope :=
  match value with
  | .object record =>
    if record.any (fun member => member.1 ∉ cpaBasicEnvelopeKeys) ∨
        stringField record "contract" ≠ some "cpa-basic@1" ∨
        safeCount format (Json.member? record "version") ≠ some 1 ∨
        stringField record "providerAttemptRef" ≠ some expectedProviderAttemptRef then none
    else do
      let costExposure ← isProviderCostExposure (textOf format (Json.member? record "costExposure"))
      let finalUsageEvidence ← isProviderFinalUsageEvidence
        (textOf format (Json.member? record "finalUsageEvidence"))
      let failureClass ← optionalField (Json.member? record "failureClass") isProviderFailureClass
      let trustedUsage ← optionalField (Json.member? record "trustedUsage")
        (trustedProviderUsage format)
      let serviceTier ← optionalField (Json.member? record "serviceTier") boundedTier
      if consistentEvidence costExposure finalUsageEvidence trustedUsage.isSome then
        some ⟨expectedProviderAttemptRef, costExposure, finalUsageEvidence, failureClass,
          trustedUsage, serviceTier⟩
      else none
  | _ => none

/-- `parseCpaBasicStreamEvidenceEvent`. -/
def parseCpaBasicStreamEvidenceEvent (value : Json ν) (expectedProviderAttemptRef : String) :
    Option CpaBasicEvidenceEnvelope :=
  match value with
  | .object record =>
    if record.any (fun member => member.1 ∉ ["type", "envelope"]) ∨
        stringField record "type" ≠ some "cpa.basic.evidence" then none
    else
      parseCpaBasicEvidenceEnvelope format ((Json.member? record "envelope").getD .null)
        expectedProviderAttemptRef
  | _ => none

end Frely.ProviderRuntime
