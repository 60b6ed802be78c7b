import Frely.Capture.Codec
import Frely.Core.Dates
import Frely.Core.Text

/-!
# Capture records

The records of `request-capture-v3.ts`: what is written for one request and its response, and how a
record is checked when it is built and whenever it is read.
-/

namespace Frely.Capture

open Checked

variable {ν : Type}

structure HashRecord where
  algorithm : String
  value : String
deriving DecidableEq

structure Ownership where
  userId : String
  apiKeyId : String
  teamId : Option String
deriving DecidableEq

structure OriginalRecord (ν : Type) where
  body : Json ν
  hash : HashRecord

structure EffectiveRecord (ν : Type) where
  representation : Json ν
  patchFormat : Option String
  patch : Json ν
  fullBody : Json ν
  hash : Option HashRecord
  unavailableReason : Option String

structure RequestRecord (ν : Type) where
  capturedAt : String
  original : OriginalRecord ν
  effective : EffectiveRecord ν

structure ResponseRecord (ν : Type) where
  captureId : String
  capturedAt : String
  status : ν
  errorCode : Option String
  body : Json ν

structure RequestCaptureV3Record (ν : Type) where
  captureId : String
  requestId : String
  ownership : Ownership
  kind : String
  model : String
  request : RequestRecord ν
  response : Option (ResponseRecord ν)

/-! ### Records as JSON -/

def nullable : Option String → Json ν
  | some text => .string text
  | none => .null

def HashRecord.toJson (hash : HashRecord) : Json ν :=
  .object [("algorithm", .string hash.algorithm), ("value", .string hash.value)]

def Ownership.toJson (ownership : Ownership) : Json ν :=
  .object [("userId", .string ownership.userId), ("apiKeyId", .string ownership.apiKeyId),
    ("teamId", nullable ownership.teamId)]

def OriginalRecord.toJson (original : OriginalRecord ν) : Json ν :=
  .object [("body", original.body), ("hash", original.hash.toJson)]

def EffectiveRecord.toJson (effective : EffectiveRecord ν) : Json ν :=
  .object [("representation", effective.representation),
    ("patchFormat", nullable effective.patchFormat), ("patch", effective.patch),
    ("fullBody", effective.fullBody), ("hash", effective.hash.elim .null HashRecord.toJson),
    ("unavailableReason", nullable effective.unavailableReason)]

def RequestRecord.toJson (request : RequestRecord ν) : Json ν :=
  .object [("capturedAt", .string request.capturedAt), ("original", request.original.toJson),
    ("effective", request.effective.toJson)]

def ResponseRecord.toJson (response : ResponseRecord ν) : Json ν :=
  .object [("captureId", .string response.captureId), ("capturedAt", .string response.capturedAt),
    ("status", .number response.status), ("errorCode", nullable response.errorCode),
    ("body", response.body)]

/-- The members of a record before its response. -/
def baseMembers (format : Json.NumberFormat ν) (record : RequestCaptureV3Record ν) :
    List (String × Json ν) :=
  [("schemaVersion", .number (format.ofNat 3)), ("captureId", .string record.captureId),
    ("requestId", .string record.requestId), ("ownership", record.ownership.toJson),
    ("kind", .string record.kind), ("model", .string record.model),
    ("request", record.request.toJson)]

def RequestCaptureV3Record.toJson (format : Json.NumberFormat ν)
    (record : RequestCaptureV3Record ν) : Json ν :=
  .object (baseMembers format record ++
    [("response", record.response.elim .null ResponseRecord.toJson)])

/-! ### Checking records -/

def captureV3Error (code message : String) (status : Nat) : CaptureError :=
  .relay ⟨code, message, status⟩

def v3IntegrityError : CaptureError :=
  captureV3Error "request_capture_integrity_failed"
    "Request Capture integrity verification failed" 503

def recordInvalid : CaptureError :=
  captureV3Error "request_capture_v3_record_invalid" "Request Capture v3 record is invalid" 503

def plainRecord : Json ν → Result (List (String × Json ν))
  | .object members => return members
  | _ => .error recordInvalid

def exactKeys (members : List (String × Json ν)) (expected : List String) : Result Unit :=
  rejectIf (hasKeys members expected = false) v3IntegrityError

/-- A member that `exactKeys` has found. -/
def member (members : List (String × Json ν)) (key : String) : Result (Json ν) :=
  (Json.member? members key).elim (.error v3IntegrityError) .ok

def requiredString : Json ν → Result String
  | .string text => do
    rejectIf (text = "") v3IntegrityError
    return text
  | _ => .error v3IntegrityError

def nullableString : Json ν → Result (Option String)
  | .null => return none
  | value => do
    let text ← requiredString value
    return some text

/-- `d` stands for a digit, every other character for itself. -/
def fits : List Char → List Char → Bool
  | [], [] => true
  | 'd' :: pattern, c :: text => c.isDigit && fits pattern text
  | p :: pattern, c :: text => p = c && fits pattern text
  | _, _ => false

def isoPattern : List Char :=
  ['d', 'd', 'd', 'd', '-', 'd', 'd', '-', 'd', 'd', 'T', 'd', 'd', ':', 'd', 'd', ':', 'd', 'd',
    '.', 'd', 'd', 'd', 'Z']

def datePattern : List Char := ['d', 'd', 'd', 'd', '-', 'd', 'd', '-', 'd', 'd']

def hashRecord (value : Json ν) : Result HashRecord := do
  let hash ← plainRecord value
  exactKeys hash ["algorithm", "value"]
  match ← member hash "algorithm", ← member hash "value" with
  | .string algorithm, .string value => do
    rejectIf (algorithm ≠ hashAlgorithm ∨ isHexDigest value = false) v3IntegrityError
    return ⟨algorithm, value⟩
  | _, _ => .error v3IntegrityError

def nullableHash : Json ν → Result (Option HashRecord)
  | .null => return none
  | value => do
    let hash ← hashRecord value
    return some hash

def assertSafeRequestId (value : String) : Result Unit :=
  rejectIf (isSafeRequestId value = false) (captureV3Error "request_capture_v3_invalid_request_id"
    "Request Capture request id is invalid" 400)

def deterministicCaptureId (runtime : CaptureRuntime ν) (kind requestId : String) : String :=
  kind ++ "_" ++ String.ofList ((runtime.sha256 (Utf8.encode requestId.toList)).toList.take 32)

variable (runtime : CaptureRuntime ν)

def isoText (timestamp : String) : Result String := do
  rejectIf (timestamp = "" ∨ fits isoPattern timestamp.toList = false ∨
    (Date.parse runtime.parseOther timestamp).isNone) v3IntegrityError
  return timestamp

def isoTimestamp (value : Json ν) : Result String := do
  let timestamp ← requiredString value
  isoText runtime timestamp

/-- The date part of a text in the ISO format, when it is a date of the calendar. -/
def assertArchiveDate (value : String) : Result String := do
  let invalidDate := captureV3Error "request_capture_v3_invalid_date"
    "Request Capture UTC date is invalid" 400
  rejectIf (fits datePattern value.toList = false) invalidDate
  match (Date.parse runtime.parseOther (value ++ "T00:00:00.000Z")).bind Date.toISOString with
  | some text => do
    rejectIf (String.ofList (text.toList.take 10) ≠ value) invalidDate
    return value
  -- `toISOString` throws a `RangeError`
  | none => .error (.codec "RangeError")

def utcDate (value : String) : Result String := do
  let timestamp ← isoText runtime value
  assertArchiveDate runtime (String.ofList (timestamp.toList.take 10))

/-- Whole numbers from 100 to 599. -/
def isStatus (status : ν) : Bool :=
  match runtime.format.toNat? status with
  | some n => decide (100 ≤ n) && decide (n ≤ 599)
  | none => false

def readStatus (value : Json ν) : Result ν :=
  match runtime.number value with
  | some status => do
    rejectIf (isStatus runtime status = false) v3IntegrityError
    return status
  | none => .error v3IntegrityError

def readResponse (value : Json ν) : Result (ResponseRecord ν) := do
  let input ← plainRecord value
  exactKeys input ["captureId", "capturedAt", "status", "errorCode", "body"]
  let status ← readStatus runtime (← member input "status")
  let captureId ← requiredString (← member input "captureId")
  let capturedAt ← isoTimestamp runtime (← member input "capturedAt")
  let errorCode ← nullableString (← member input "errorCode")
  let body ← safeTree (← member input "body")
  return ⟨captureId, capturedAt, status, errorCode, body⟩

def readNullableResponse : Json ν → Result (Option (ResponseRecord ν))
  | .null => return none
  | value => do
    let response ← readResponse runtime value
    return some response

/-- A tree where `null` stands for none. -/
def nullableTree : Json ν → Result (Json ν)
  | .null => return .null
  | value => safeTree value

def readEncoding (request : List (String × Json ν)) : Result (RequestCaptureEncoding ν) := do
  let original ← plainRecord (← member request "original")
  exactKeys original ["body", "hash"]
  let originalHash ← hashRecord (← member original "hash")
  let effective ← plainRecord (← member request "effective")
  exactKeys effective
    ["representation", "patchFormat", "patch", "fullBody", "hash", "unavailableReason"]
  let body ← safeTree (← member original "body")
  let representation ← member effective "representation"
  let patchFormat ← nullableString (← member effective "patchFormat")
  let patch ← nullableTree (← member effective "patch")
  let payload ← nullableTree (← member effective "fullBody")
  let hash ← nullableHash (← member effective "hash")
  let reason ← nullableString (← member effective "unavailableReason")
  return {
    original := body
    originalHashAlgorithm := originalHash.algorithm
    originalSha256 := originalHash.value
    effectiveRepresentation := representation
    effectivePatchFormat := patchFormat
    effectivePatch := patch
    effectivePayload := payload
    effectiveHashAlgorithm := hash.map HashRecord.algorithm
    effectiveSha256 := hash.map HashRecord.value
    effectiveUnavailableReason := reason }

/-- The hash of an encoding, when it has both parts of one. -/
def effectiveHash (encoding : RequestCaptureEncoding ν) : Option HashRecord :=
  match encoding.effectiveHashAlgorithm, encoding.effectiveSha256 with
  | some algorithm, some value => some ⟨algorithm, value⟩
  | _, _ => none

/-- The request part that a record keeps of an encoding. -/
def recordedRequest (capturedAt : String) (encoding : RequestCaptureEncoding ν) :
    RequestRecord ν where
  capturedAt := capturedAt
  original := ⟨encoding.original, ⟨encoding.originalHashAlgorithm, encoding.originalSha256⟩⟩
  effective :=
    { representation := encoding.effectiveRepresentation
      patchFormat := encoding.effectivePatchFormat
      patch := encoding.effectivePatch
      fullBody := encoding.effectivePayload
      hash := effectiveHash encoding
      unavailableReason := encoding.effectiveUnavailableReason }

def isSchemaVersion (value : Json ν) : Bool :=
  match value with
  | .number n => runtime.format.toNat? n = some 3
  | _ => false

def readOwnership (value : Json ν) : Result (List (String × Json ν)) := do
  let ownership ← plainRecord value
  exactKeys ownership ["userId", "apiKeyId", "teamId"]
  return ownership

def validateRequestCaptureV3Record (value : Json ν) :
    Result (RequestCaptureV3Record ν × EffectiveCapture ν) := do
  let record ← plainRecord value
  exactKeys record
    ["schemaVersion", "captureId", "requestId", "ownership", "kind", "model", "request", "response"]
  rejectIf (isSchemaVersion runtime (← member record "schemaVersion") = false) v3IntegrityError
  let captureId ← requiredString (← member record "captureId")
  let requestId ← requiredString (← member record "requestId")
  assertSafeRequestId requestId
  let ownership ← readOwnership (← member record "ownership")
  let request ← plainRecord (← member record "request")
  exactKeys request ["capturedAt", "original", "effective"]
  let encoding ← readEncoding request
  let effective ← reconstructEffectiveCapture runtime encoding
  let response ← readNullableResponse runtime (← member record "response")
  let userId ← requiredString (← member ownership "userId")
  let apiKeyId ← requiredString (← member ownership "apiKeyId")
  let teamId ← nullableString (← member ownership "teamId")
  let kind ← requiredString (← member record "kind")
  let model ← requiredString (← member record "model")
  let capturedAt ← isoTimestamp runtime (← member request "capturedAt")
  return (⟨captureId, requestId, ⟨userId, apiKeyId, teamId⟩, kind, model,
    recordedRequest capturedAt encoding, response⟩, effective)

def parseRequestCaptureV3Record (value : Json ν) : Result (RequestCaptureV3Record ν) := do
  let (record, _) ← validateRequestCaptureV3Record runtime value
  return record

def newline : UInt8 := 0x0a

def carriageReturn : UInt8 := 0x0d

/-- The value on a line of JSON. -/
def jsonLine (raw : List UInt8) : Result (Json ν) := do
  rejectIf (raw.getLast? ≠ some newline) v3IntegrityError
  let body := raw.dropLast
  rejectIf (newline ∈ body ∨ carriageReturn ∈ body) v3IntegrityError
  (Json.parse runtime.format (Utf8.decodeAll body)).elim (.error v3IntegrityError) .ok

def parseRequestCaptureV3Jsonl (raw : List UInt8) : Result (RequestCaptureV3Record ν) := do
  let parsed ← jsonLine runtime raw
  parseRequestCaptureV3Record runtime parsed

/-! ### What is read from a record -/

structure CapturedRequest (ν : Type) where
  id : String
  requestId : String
  apiKeyId : String
  userId : String
  teamId : Option String
  kind : String
  reqModel : String
  effectiveRepresentation : Json ν
  effectivePatchFormat : Option String
  originalHashAlgorithm : String
  originalSha256 : String
  effectiveHashAlgorithm : Option String
  effectiveSha256 : Option String
  effectiveUnavailableReason : Option String
  createdAt : String
  payload : Json ν
  effective : EffectiveCapture ν

structure CapturedResponse (ν : Type) where
  id : String
  requestId : String
  status : ν
  errorCode : Option String
  createdAt : String
  body : Json ν

structure CapturedExchange (ν : Type) where
  request : CapturedRequest ν
  response : Option (CapturedResponse ν)

def capturedExchange (record : RequestCaptureV3Record ν) (effective : EffectiveCapture ν) :
    CapturedExchange ν where
  request :=
    { id := record.captureId
      requestId := record.requestId
      apiKeyId := record.ownership.apiKeyId
      userId := record.ownership.userId
      teamId := record.ownership.teamId
      kind := record.kind
      reqModel := record.model
      effectiveRepresentation := record.request.effective.representation
      effectivePatchFormat := record.request.effective.patchFormat
      originalHashAlgorithm := record.request.original.hash.algorithm
      originalSha256 := record.request.original.hash.value
      effectiveHashAlgorithm := record.request.effective.hash.map HashRecord.algorithm
      effectiveSha256 := record.request.effective.hash.map HashRecord.value
      effectiveUnavailableReason := record.request.effective.unavailableReason
      createdAt := record.request.capturedAt
      payload := record.request.original.body
      effective := effective }
  response := record.response.map fun response =>
    { id := response.captureId
      requestId := record.requestId
      status := response.status
      errorCode := response.errorCode
      createdAt := response.capturedAt
      body := response.body }

def decodeJson (value : Json ν) : Result (CapturedExchange ν) := do
  let (record, effective) ← validateRequestCaptureV3Record runtime value
  return capturedExchange record effective

def decodeRequestCaptureV3Record (record : RequestCaptureV3Record ν) :
    Result (CapturedExchange ν) :=
  decodeJson runtime (record.toJson runtime.format)

def maxUncompressedBytes : Nat := 64 * 1024 * 1024

def decodeRequestCaptureV3Jsonl (raw : List UInt8) (expectedRequestId : String) :
    Result (CapturedExchange ν) := do
  rejectIf (maxUncompressedBytes < raw.length) v3IntegrityError
  let parsed ← jsonLine runtime raw
  let exchange ← decodeJson runtime parsed
  rejectIf (exchange.request.requestId ≠ expectedRequestId) v3IntegrityError
  return exchange

/-! ### Building records -/

structure RequestCaptureV3BaseInput (ν : Type) where
  requestLogStartedAt : String
  requestId : String
  apiKeyId : String
  userId : String
  teamId : Option String
  kind : String
  reqModel : String
  originalPayload : Unknown ν
  effectivePayload : Option (Unknown ν)
  unavailableReason : Option String
  requestCapturedAt : Option String

structure CapturedResponseInput (ν : Type) where
  status : ν
  body : Unknown ν
  errorCode : Option String
  capturedAt : Option String

structure WriteRequestCaptureV3ExchangeInput (ν : Type) extends RequestCaptureV3BaseInput ν where
  response : CapturedResponseInput ν

def encodeInput (input : RequestCaptureV3BaseInput ν) : Result (RequestCaptureEncoding ν) :=
  match input.unavailableReason.filter (· ≠ "") with
  | some reason => encodeUnavailableRequestCapture runtime input.originalPayload reason
  | none =>
    encodeRequestCapture runtime input.originalPayload
      (input.effectivePayload.getD input.originalPayload)

/-- The record of an input and its encoding, before it is checked. -/
def baseRecord (input : RequestCaptureV3BaseInput ν) (encoding : RequestCaptureEncoding ν) :
    RequestCaptureV3Record ν where
  captureId := deterministicCaptureId runtime "capture" input.requestId
  requestId := input.requestId
  ownership := ⟨input.userId, input.apiKeyId, input.teamId⟩
  kind := input.kind
  model := input.reqModel
  request := recordedRequest (input.requestCapturedAt.getD input.requestLogStartedAt) encoding
  response := none

def requestCaptureV3BaseRecord (input : RequestCaptureV3BaseInput ν) :
    Result (RequestCaptureV3Record ν) := do
  assertSafeRequestId input.requestId
  let _ ← utcDate runtime input.requestLogStartedAt
  let encoding ← encodeInput runtime input
  parseRequestCaptureV3Record runtime ((baseRecord runtime input encoding).toJson runtime.format)

/-- The response part of a record, where `now` is the current time. -/
def responseRecord (now requestId : String) (response : CapturedResponseInput ν)
    (body : Json ν) : ResponseRecord ν where
  captureId := deterministicCaptureId runtime "capture_response" requestId
  capturedAt := response.capturedAt.getD now
  status := response.status
  errorCode := response.errorCode
  body := body

def requestCaptureV3Record (now : String) (input : WriteRequestCaptureV3ExchangeInput ν) :
    Result (RequestCaptureV3Record ν) := do
  let base ← requestCaptureV3BaseRecord runtime input.toRequestCaptureV3BaseInput
  let body ← toSafeJsonTree input.response.body
  let response := responseRecord runtime now input.requestId input.response body
  parseRequestCaptureV3Record runtime
    ({ base with response := some response }.toJson runtime.format)

/-- A record as a line of JSON. -/
def recordBytes (record : RequestCaptureV3Record ν) : List UInt8 :=
  Utf8.encode (Json.stringify runtime.format (record.toJson runtime.format)) ++ [newline]

end Frely.Capture
