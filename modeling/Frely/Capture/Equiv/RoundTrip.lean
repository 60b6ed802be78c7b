import Frely.Capture.Equiv.Records

/-!
# Captured exchanges are read back as they were

A record is written as one line of JSON.  Reading the line gives the record's own JSON
(`jsonLine_stringify`), and the record built from safe bodies gives these bodies back, unless its
patch nests too deep: then there is no record at all (`roundTrips_iff`).
-/

namespace Frely.Capture

open Checked

variable {ν : Type} {runtime : CaptureRuntime ν}

/-! ### Lines -/

theorem not_mem_encode {text : List Char} (h : Json.Printable text) {byte : UInt8}
    (hbyte : byte.toNat < 32) : byte ∉ Utf8.encode text := by
  intro hmem
  rcases Utf8.mem_encode hmem with ⟨c, hc, heq⟩ | hlarge
  · have hc := h c hc
    omega
  · omega

/-- The line that is written for a value is read back as the value. -/
theorem jsonLine_stringify {value : Json ν} (h : value.Distinct) :
    jsonLine runtime (Utf8.encode (Json.stringify runtime.format value) ++ [newline]) =
      .ok value := by
  have hprintable : Json.Printable (Json.stringify runtime.format value) :=
    Json.printable_stringify value
  have hline : ¬(newline ∈ Utf8.encode (Json.stringify runtime.format value) ∨
      carriageReturn ∈ Utf8.encode (Json.stringify runtime.format value)) := by
    rw [not_or]
    exact ⟨not_mem_encode hprintable (by decide), not_mem_encode hprintable (by decide)⟩
  rw [jsonLine, rejectIf_of_not (by simp), bind_ok]
  simp only [List.dropLast_concat]
  rw [rejectIf_of_not hline, bind_ok, Utf8.decodeAll_encode, Json.parse_stringify h]
  rfl

/-! ### Inputs -/

variable {encoding : RequestCaptureEncoding ν}

/-- The words of an input are those that a request log has. -/
structure RequestCaptureV3BaseInput.Valid (runtime : CaptureRuntime ν)
    (input : RequestCaptureV3BaseInput ν) : Prop where
  requestId : isSafeRequestId input.requestId = true
  startedAt : ∃ date, utcDate runtime input.requestLogStartedAt = .ok date
  capturedAt : isoText runtime (input.requestCapturedAt.getD input.requestLogStartedAt) =
    .ok (input.requestCapturedAt.getD input.requestLogStartedAt)
  userId : input.userId ≠ ""
  apiKeyId : input.apiKeyId ≠ ""
  teamId : input.teamId ≠ some ""
  kind : input.kind ≠ ""
  model : input.reqModel ≠ ""

/-- A response that makes a valid record. -/
structure CapturedResponseInput.Valid (runtime : CaptureRuntime ν) (now : String)
    (response : CapturedResponseInput ν) : Prop where
  status : isStatus runtime response.status = true
  capturedAt : isoText runtime (response.capturedAt.getD now) = .ok (response.capturedAt.getD now)
  errorCode : response.errorCode ≠ some ""

theorem deterministicCaptureId_ne_empty (kind requestId : String) :
    deterministicCaptureId runtime kind requestId ≠ "" := by
  intro h
  have hlength := congrArg String.length h
  simp [deterministicCaptureId] at hlength

theorem valid_baseRecord {input : RequestCaptureV3BaseInput ν} (h : input.Valid runtime)
    (encoding : RequestCaptureEncoding ν) : (baseRecord runtime input encoding).Valid runtime where
  captureId := deterministicCaptureId_ne_empty _ _
  requestId := h.requestId
  userId := h.userId
  apiKeyId := h.apiKeyId
  teamId := h.teamId
  kind := h.kind
  model := h.model
  capturedAt := h.capturedAt
  response := nofun

theorem valid_responseRecord {now : String} {response : CapturedResponseInput ν}
    (h : response.Valid runtime now) (requestId : String) (body : Json ν) :
    (responseRecord runtime now requestId response body).Valid runtime where
  captureId := deterministicCaptureId_ne_empty _ _
  capturedAt := h.capturedAt
  status := h.status
  errorCode := h.errorCode

/-- The base record of an encoding that can be reconstructed: its patch must be a safe tree. -/
theorem parse_baseRecord {input : RequestCaptureV3BaseInput ν} (h : input.Valid runtime)
    (hencoding : encoding.Recordable) (horiginal : encoding.original.nesting ≤ maxDepth)
    (hpayload : encoding.effectivePayload.nesting ≤ maxDepth) {effective : EffectiveCapture ν}
    (hreconstruct : reconstructEffectiveCapture runtime encoding = .ok effective) :
    parseRequestCaptureV3Record runtime
        ((baseRecord runtime input encoding).toJson runtime.format) =
      if encoding.effectivePatch.nesting ≤ maxDepth then .ok (baseRecord runtime input encoding)
      else .error limitExceeded := by
  have hvalidate := validate_toJson (valid_baseRecord h encoding) hencoding rfl
  rw [parseRequestCaptureV3Record, hvalidate, safeTree_eq, if_pos horiginal, bind_ok, safeTree_eq]
  split_ifs
  · rw [bind_ok, safeTree_eq, if_pos hpayload, bind_ok, hreconstruct]
    rfl
  · rfl

/-- The same with a response. -/
theorem validate_withResponse {now : String} {input : WriteRequestCaptureV3ExchangeInput ν}
    (h : input.toRequestCaptureV3BaseInput.Valid runtime)
    (hresponse : input.response.Valid runtime now) (hencoding : encoding.Recordable)
    (horiginal : encoding.original.nesting ≤ maxDepth)
    (hpayload : encoding.effectivePayload.nesting ≤ maxDepth)
    (hpatch : encoding.effectivePatch.nesting ≤ maxDepth) {effective : EffectiveCapture ν}
    (hreconstruct : reconstructEffectiveCapture runtime encoding = .ok effective) {body : Json ν}
    (hbody : body.nesting ≤ maxDepth) :
    let record := { baseRecord runtime input.toRequestCaptureV3BaseInput encoding with
      response := some (responseRecord runtime now input.requestId input.response body) }
    validateRequestCaptureV3Record runtime (record.toJson runtime.format) =
      .ok (record, effective) := by
  intro record
  have hbase := valid_baseRecord h encoding
  have hvalid : record.Valid runtime :=
    { hbase with
      response := by
        rintro response ⟨⟩
        exact valid_responseRecord hresponse _ body }
  have hchecked : checkedResponse record.response = .ok () := by
    show (do
      let _ ← safeTree body
      return () : Result Unit) = .ok ()
    rw [safeTree_eq, if_pos hbody]
    rfl
  rw [validate_toJson hvalid hencoding rfl, safeTree_eq, if_pos horiginal, bind_ok, safeTree_eq,
    if_pos hpatch, bind_ok, safeTree_eq, if_pos hpayload, bind_ok, hreconstruct, bind_ok, hchecked]
  rfl

/-! ### The JSON of a record has distinct keys -/

variable {original effective : Json ν}

theorem distinct_nullable (text : Option String) : (nullable text : Json ν).Distinct := by
  cases text <;> trivial

/-- The trees in a record have distinct keys. -/
structure RequestCaptureEncoding.Distinct (encoding : RequestCaptureEncoding ν) : Prop where
  original : encoding.original.Distinct
  representation : encoding.effectiveRepresentation.Distinct
  patch : encoding.effectivePatch.Distinct
  payload : encoding.effectivePayload.Distinct

theorem distinct_hash (hash : HashRecord) : (hash.toJson : Json ν).Distinct := by
  have hkeys : (["algorithm", "value"] : List String).Nodup := by decide
  exact ⟨hkeys, trivial, trivial, trivial⟩

theorem distinct_request {capturedAt : String} (h : encoding.Distinct) :
    (recordedRequest capturedAt encoding).toJson.Distinct := by
  have hhash : ((effectiveHash encoding).elim .null HashRecord.toJson : Json ν).Distinct := by
    cases effectiveHash encoding with
    | none => trivial
    | some hash => exact distinct_hash hash
  have hkeys : (["body", "hash"] : List String).Nodup ∧
      (["capturedAt", "original", "effective"] : List String).Nodup ∧
      (["representation", "patchFormat", "patch", "fullBody", "hash",
        "unavailableReason"] : List String).Nodup := by decide
  have horiginal : (recordedRequest capturedAt encoding).original.toJson.Distinct :=
    ⟨hkeys.1, h.original, distinct_hash _, trivial⟩
  have heffective : (recordedRequest capturedAt encoding).effective.toJson.Distinct :=
    ⟨hkeys.2.2, h.representation, distinct_nullable _, h.patch, h.payload, hhash,
      distinct_nullable _, trivial⟩
  exact ⟨hkeys.2.1, trivial, horiginal, heffective, trivial⟩

theorem distinct_response {response : Option (ResponseRecord ν)}
    (h : ∀ found ∈ response, found.body.Distinct) :
    (response.elim .null ResponseRecord.toJson : Json ν).Distinct := by
  cases response with
  | none => trivial
  | some response =>
    have hkeys : (["captureId", "capturedAt", "status", "errorCode", "body"] : List String).Nodup :=
      by decide
    exact ⟨hkeys, trivial, trivial, trivial, distinct_nullable _, h response rfl, trivial⟩

theorem distinct_toJson {record : RequestCaptureV3Record ν} (h : encoding.Distinct)
    (hrequest : record.request = recordedRequest record.request.capturedAt encoding)
    (hresponse : ∀ found ∈ record.response, found.body.Distinct) :
    (record.toJson runtime.format).Distinct := by
  have hkeys : (["schemaVersion", "captureId", "requestId", "ownership", "kind", "model",
      "request", "response"] : List String).Nodup := by decide
  have hownership : (record.ownership.toJson : Json ν).Distinct := by
    have hkeys : (["userId", "apiKeyId", "teamId"] : List String).Nodup := by decide
    exact ⟨hkeys, trivial, trivial, distinct_nullable _, trivial⟩
  have hrequestDistinct : record.request.toJson.Distinct := by
    rw [hrequest]
    exact distinct_request h
  exact ⟨hkeys, trivial, trivial, trivial, hownership, trivial, trivial, hrequestDistinct,
    distinct_response hresponse, trivial⟩

theorem distinct_encodeTrees (horiginal : original.Distinct) (heffective : effective.Distinct) :
    (encodeTrees runtime original effective).Distinct := by
  rcases encodeTrees_cases runtime original effective with
    ⟨hform, -⟩ | hform | ⟨patch, hform, hpatch⟩ <;> rw [hform]
  · exact ⟨horiginal, trivial, trivial, trivial⟩
  · exact ⟨horiginal, trivial, trivial, heffective⟩
  · have hcompare := (effectivePatch_eq_ok hpatch).1
    exact ⟨horiginal, trivial,
      runtime.distinct_compare original effective patch horiginal heffective hcompare, trivial⟩

/-! ### Round trips -/

/-- The record of an exchange, written as a line and decoded, has the bodies of the exchange. -/
def RoundTrips (runtime : CaptureRuntime ν) (now : String)
    (input : WriteRequestCaptureV3ExchangeInput ν) (original effective body : Json ν) : Prop :=
  ∃ record, requestCaptureV3Record runtime now input = .ok record ∧
    ∃ read exchange, parseRequestCaptureV3Jsonl runtime (recordBytes runtime record) = .ok read ∧
      decodeRequestCaptureV3Record runtime read = .ok exchange ∧
      exchange.request.payload.Same original ∧
      (∃ representation found, exchange.request.effective = .verified representation found ∧
        found.Same effective) ∧
      ∃ response, exchange.response = some response ∧ response.body.Same body

theorem distinct_of_toSafeJsonTree {value : Unknown ν} {tree : Json ν}
    (h : toSafeJsonTree value = .ok tree) : tree.Distinct ∧ tree.nesting ≤ maxDepth := by
  obtain ⟨hdistinct, -, hnesting⟩ := toSafeJsonTree_eq_ok.mp h
  exact ⟨hdistinct, hnesting⟩

theorem nesting_payload_encodeTrees (h : effective.nesting ≤ maxDepth) :
    (encodeTrees runtime original effective).effectivePayload.nesting ≤ maxDepth := by
  rcases encodeTrees_cases runtime original effective with
    ⟨hform, -⟩ | hform | ⟨patch, hform, -⟩ <;> rw [hform]
  · exact Nat.zero_le _
  · exact h
  · exact Nat.zero_le _

theorem original_encodeTrees : (encodeTrees runtime original effective).original = original := by
  rcases encodeTrees_cases runtime original effective with
    ⟨hform, -⟩ | hform | ⟨patch, hform, -⟩ <;> rw [hform] <;> rfl

section

variable {now : String} {input : WriteRequestCaptureV3ExchangeInput ν}
  {original effective body : Json ν}

/-- Two bodies are encoded when the input gives no reason against it. -/
theorem encodeInput_eq (hreason : input.unavailableReason = none)
    (horiginal : toSafeJsonTree input.originalPayload = .ok original)
    (heffective : toSafeJsonTree (input.effectivePayload.getD input.originalPayload) =
      .ok effective) :
    encodeInput runtime input.toRequestCaptureV3BaseInput =
      .ok (encodeTrees runtime original effective) := by
  rw [encodeInput, hreason]
  simp only [Option.filter_none, encodeRequestCapture, horiginal, heffective, bind_ok]
  rfl

theorem requestCaptureV3BaseRecord_eq (h : input.toRequestCaptureV3BaseInput.Valid runtime)
    (hreason : input.unavailableReason = none)
    (horiginal : toSafeJsonTree input.originalPayload = .ok original)
    (heffective : toSafeJsonTree (input.effectivePayload.getD input.originalPayload) =
      .ok effective) :
    requestCaptureV3BaseRecord runtime input.toRequestCaptureV3BaseInput =
      if (encodeTrees runtime original effective).effectivePatch.nesting ≤ maxDepth then
        .ok (baseRecord runtime input.toRequestCaptureV3BaseInput
          (encodeTrees runtime original effective))
      else .error limitExceeded := by
  obtain ⟨hdistinct, hnesting⟩ := distinct_of_toSafeJsonTree horiginal
  obtain ⟨hdistinct', hnesting'⟩ := distinct_of_toSafeJsonTree heffective
  obtain ⟨representation, found, hreconstruct, -⟩ :=
    @reconstruct_encodeTrees ν runtime original effective hnesting hnesting' hdistinct hdistinct'
  obtain ⟨date, hdate⟩ := h.startedAt
  have hsafe : ¬isSafeRequestId input.requestId = false := by
    rw [h.requestId]
    decide
  rw [requestCaptureV3BaseRecord, assertSafeRequestId, rejectIf_of_not hsafe, bind_ok, hdate,
    bind_ok, encodeInput_eq hreason horiginal heffective, bind_ok]
  exact parse_baseRecord h recordable_encodeTrees (by rw [original_encodeTrees]; exact hnesting)
    (nesting_payload_encodeTrees hnesting') hreconstruct

/-- The record of an exchange: the patch of the encoding must be a safe tree. -/
theorem requestCaptureV3Record_eq (h : input.toRequestCaptureV3BaseInput.Valid runtime)
    (hresponse : input.response.Valid runtime now) (hreason : input.unavailableReason = none)
    (horiginal : toSafeJsonTree input.originalPayload = .ok original)
    (heffective : toSafeJsonTree (input.effectivePayload.getD input.originalPayload) =
      .ok effective) (hbody : toSafeJsonTree input.response.body = .ok body) :
    requestCaptureV3Record runtime now input =
      if (encodeTrees runtime original effective).effectivePatch.nesting ≤ maxDepth then
        .ok { baseRecord runtime input.toRequestCaptureV3BaseInput
            (encodeTrees runtime original effective) with
          response := some (responseRecord runtime now input.requestId input.response body) }
      else .error limitExceeded := by
  obtain ⟨hdistinct, hnesting⟩ := distinct_of_toSafeJsonTree horiginal
  obtain ⟨hdistinct', hnesting'⟩ := distinct_of_toSafeJsonTree heffective
  obtain ⟨-, hbodyNesting⟩ := distinct_of_toSafeJsonTree hbody
  obtain ⟨representation, found, hreconstruct, -⟩ :=
    @reconstruct_encodeTrees ν runtime original effective hnesting hnesting' hdistinct hdistinct'
  rw [requestCaptureV3Record, requestCaptureV3BaseRecord_eq h hreason horiginal heffective]
  split_ifs with hpatch
  · have hvalidate := validate_withResponse h hresponse recordable_encodeTrees
      (by rw [original_encodeTrees]; exact hnesting) (nesting_payload_encodeTrees hnesting') hpatch
      hreconstruct hbodyNesting
    rw [bind_ok, hbody, bind_ok, parseRequestCaptureV3Record, hvalidate]
    rfl
  · rfl

/-- What is decoded from the line of the record of an exchange. -/
theorem decode_recordBytes (h : input.toRequestCaptureV3BaseInput.Valid runtime)
    (hresponse : input.response.Valid runtime now)
    (horiginal : toSafeJsonTree input.originalPayload = .ok original)
    (heffective : toSafeJsonTree (input.effectivePayload.getD input.originalPayload) =
      .ok effective) (hbody : toSafeJsonTree input.response.body = .ok body)
    (hpatch : (encodeTrees runtime original effective).effectivePatch.nesting ≤ maxDepth) :
    ∃ representation found,
      let record := { baseRecord runtime input.toRequestCaptureV3BaseInput
          (encodeTrees runtime original effective) with
        response := some (responseRecord runtime now input.requestId input.response body) }
      parseRequestCaptureV3Jsonl runtime (recordBytes runtime record) = .ok record ∧
      decodeRequestCaptureV3Record runtime record =
        .ok (capturedExchange record (.verified representation found)) ∧ found.Same effective := by
  obtain ⟨hdistinct, hnesting⟩ := distinct_of_toSafeJsonTree horiginal
  obtain ⟨hdistinct', hnesting'⟩ := distinct_of_toSafeJsonTree heffective
  obtain ⟨hbodyDistinct, hbodyNesting⟩ := distinct_of_toSafeJsonTree hbody
  obtain ⟨representation, found, hreconstruct, hsame⟩ :=
    @reconstruct_encodeTrees ν runtime original effective hnesting hnesting' hdistinct hdistinct'
  refine ⟨representation, found, ?_⟩
  intro record
  have hvalidate := validate_withResponse h hresponse recordable_encodeTrees
    (by rw [original_encodeTrees]; exact hnesting) (nesting_payload_encodeTrees hnesting') hpatch
    hreconstruct hbodyNesting
  have hrecord : (record.toJson runtime.format).Distinct := by
    refine distinct_toJson (distinct_encodeTrees hdistinct hdistinct') rfl ?_
    rintro response ⟨⟩
    exact hbodyDistinct
  refine ⟨?_, ?_, hsame⟩
  · rw [parseRequestCaptureV3Jsonl, recordBytes, jsonLine_stringify hrecord, bind_ok,
      parseRequestCaptureV3Record, hvalidate]
    rfl
  · rw [decodeRequestCaptureV3Record, decodeJson, hvalidate]
    rfl

/-- An exchange makes the round trip unless the codec keeps a patch that nests too deep. -/
theorem roundTrips_iff (h : input.toRequestCaptureV3BaseInput.Valid runtime)
    (hresponse : input.response.Valid runtime now) (hreason : input.unavailableReason = none)
    (horiginal : toSafeJsonTree input.originalPayload = .ok original)
    (heffective : toSafeJsonTree (input.effectivePayload.getD input.originalPayload) =
      .ok effective) (hbody : toSafeJsonTree input.response.body = .ok body) :
    RoundTrips runtime now input original effective body ↔
      ∀ patch, KeepsPatch runtime original effective patch → patch.nesting ≤ maxDepth := by
  have hrecord := requestCaptureV3Record_eq h hresponse hreason horiginal heffective hbody
  constructor
  · rintro ⟨record, hok, -⟩ patch hkeeps
    by_contra hdeep
    rw [encodeTrees_of_keepsPatch hkeeps] at hrecord
    have hnot : ¬(patchEncoding runtime original effective patch).effectivePatch.nesting ≤
        maxDepth := hdeep
    rw [if_neg hnot, hok] at hrecord
    cases hrecord
  · intro hpatches
    have hpatch : (encodeTrees runtime original effective).effectivePatch.nesting ≤ maxDepth := by
      rcases keepsPatch_or_null runtime original effective with hnull | ⟨patch, hkeeps, heq⟩
      · rw [hnull]
        exact Nat.zero_le _
      · rw [heq]
        exact hpatches patch hkeeps
    rw [if_pos hpatch] at hrecord
    obtain ⟨representation, found, hparse, hdecode, hsame⟩ :=
      decode_recordBytes h hresponse horiginal heffective hbody hpatch
    refine ⟨_, hrecord, _, _, hparse, hdecode, ?_, ⟨representation, found, rfl, hsame⟩, _, rfl,
      Json.Same.refl body⟩
    show (encodeTrees runtime original effective).original.Same original
    rw [original_encodeTrees]
    exact Json.Same.refl original

end

/-! ### A runtime to run the codec with -/

/-- The lowest digits of a number, in hexadecimal. -/
def hexDigits : Nat → Nat → List Char
  | 0, _ => []
  | count + 1, n => Json.hexDigit (n % 16) :: hexDigits count (n / 16)

theorem length_hexDigits (count n : Nat) : (hexDigits count n).length = count := by
  induction count generalizing n with
  | zero => rfl
  | succ count ih => rw [hexDigits, List.length_cons, ih]

theorem all_hexDigits (count n : Nat) : (hexDigits count n).all fun c =>
    c.isDigit || (decide ('a' ≤ c) && decide (c ≤ 'f')) := by
  have hdigit : ∀ digit < 16, ((Json.hexDigit digit).isDigit ||
      (decide ('a' ≤ Json.hexDigit digit) && decide (Json.hexDigit digit ≤ 'f'))) = true := by
    decide
  induction count generalizing n with
  | zero => rfl
  | succ count ih =>
    rw [hexDigits, List.all_cons, ih, Bool.and_true]
    exact hdigit (n % 16) (Nat.mod_lt _ (by decide))

/-- A checksum in the form of a digest. -/
def plainSha256 (bytes : List UInt8) : String :=
  String.ofList (hexDigits 64 (bytes.foldl (fun sum byte => (sum * 257 + byte.toNat) % 2 ^ 200) 7))

theorem isHexDigest_plainSha256 (bytes : List UInt8) : isHexDigest (plainSha256 bytes) = true := by
  simp only [isHexDigest, plainSha256, String.toList_ofList, length_hexDigits, all_hexDigits]
  decide

/-- The difference of objects that differ in their first member only. -/
def plainCompare : Json Nat → Json Nat → Option (Json Nat)
  | _, .object ((key, value) :: _) =>
    some (.array [.object
      [("op", .string "replace"), ("path", .string ("/" ++ key)), ("value", value)]])
  | _, _ => none

theorem distinct_plainCompare (value other patch : Json Nat) (_ : value.Distinct)
    (hother : other.Distinct) (h : plainCompare value other = some patch) : patch.Distinct := by
  unfold plainCompare at h
  split at h
  · cases h
    have hkeys : (["op", "path", "value"] : List String).Nodup := by decide
    exact ⟨⟨hkeys, trivial, trivial, hother.2.1, trivial⟩, trivial⟩
  · cases h

def plainRuntime : CaptureRuntime Nat where
  format := Json.natFormat
  sha256 := plainSha256
  isHexDigest_sha256 := isHexDigest_plainSha256
  canonicalize := Json.stringify Json.natFormat
  same_of_canonicalize value other hvalue hother h := by
    rw [Json.eq_of_stringify_eq hvalue hother h]
    exact Json.Same.refl other
  number
    | .number n => some n
    | _ => none
  number_number _ := rfl
  parseOther _ := none
  compare := plainCompare
  distinct_compare := distinct_plainCompare

/-- Arrays in arrays. -/
def nested : Nat → Json Nat
  | 0 => .null
  | depth + 1 => .array [nested depth]

theorem distinct_nested (depth : Nat) : (nested depth).Distinct := by
  induction depth with
  | zero => trivial
  | succ depth ih => exact ⟨ih, trivial⟩

def padded (value : Json Nat) : Json Nat :=
  .object [("a", value), ("pad", .string "................................")]

theorem distinct_padded {value : Json Nat} (h : value.Distinct) : (padded value).Distinct := by
  have hkeys : (["a", "pad"] : List String).Nodup := by decide
  exact ⟨hkeys, h, trivial, trivial⟩

/-- A request whose first member was replaced by arrays in arrays. -/
def plainExchange (depth : Nat) : WriteRequestCaptureV3ExchangeInput Nat where
  requestLogStartedAt := "2026-01-01T00:00:00.000Z"
  requestId := "req_1"
  apiKeyId := "key"
  userId := "user"
  teamId := none
  kind := "chat"
  reqModel := "model"
  originalPayload := .tree (padded .null) (distinct_padded trivial)
  effectivePayload := some (.tree (padded (nested depth)) (distinct_padded (distinct_nested depth)))
  unavailableReason := none
  requestCapturedAt := none
  response :=
    { status := 200, body := .tree .null trivial, errorCode := none, capturedAt := none }

def plainNow : String := "2026-01-01T00:00:01.000Z"

theorem utcDate_plain : utcDate plainRuntime "2026-01-01T00:00:00.000Z" = .ok "2026-01-01" := by
  decide

theorem isoText_plain : isoText plainRuntime "2026-01-01T00:00:00.000Z" =
    .ok "2026-01-01T00:00:00.000Z" := by
  decide

theorem isoText_plainNow : isoText plainRuntime plainNow = .ok plainNow := by
  decide

theorem isSafeRequestId_plain : isSafeRequestId "req_1" = true := by
  decide

theorem plainExchange_valid (depth : Nat) :
    (plainExchange depth).toRequestCaptureV3BaseInput.Valid plainRuntime where
  requestId := isSafeRequestId_plain
  startedAt := ⟨"2026-01-01", utcDate_plain⟩
  capturedAt := isoText_plain
  userId := (by decide : "user" ≠ "")
  apiKeyId := (by decide : "key" ≠ "")
  teamId := nofun
  kind := (by decide : "chat" ≠ "")
  model := (by decide : "model" ≠ "")

theorem plainResponse_valid (depth : Nat) :
    (plainExchange depth).response.Valid plainRuntime plainNow where
  status := (by decide : isStatus plainRuntime 200 = true)
  capturedAt := isoText_plainNow
  errorCode := nofun

theorem original_plain (depth : Nat) :
    toSafeJsonTree (plainExchange depth).originalPayload = .ok (padded .null) :=
  toSafeJsonTree_eq_ok.mpr ⟨_, rfl, by decide⟩

theorem nesting_nested (depth : Nat) : (nested depth).nesting = depth := by
  induction depth with
  | zero => rfl
  | succ depth ih => simp only [nested, Json.nesting, Json.nestingItems, ih, Nat.max_zero]

theorem effective_plain {depth : Nat} (h : depth ≤ 63) :
    toSafeJsonTree ((plainExchange depth).effectivePayload.getD
      (plainExchange depth).originalPayload) = .ok (padded (nested depth)) := by
  refine toSafeJsonTree_eq_ok.mpr ⟨_, rfl, ?_⟩
  simp only [padded, Json.nesting, Json.nestingMembers, nesting_nested, maxDepth]
  omega

/-- The patch from one of these bodies to the other. -/
def plainPatch (depth : Nat) : Json Nat :=
  .array [.object
    [("op", .string "replace"), ("path", .string ("/" ++ "a")), ("value", nested depth)]]

theorem keepsPatch_plain :
    KeepsPatch plainRuntime (padded .null) (padded (nested 63)) (plainPatch 63) where
  differ h := by
    have hequal : deepEqualJson plainRuntime (padded .null) (padded (nested 63)) = false := by
      decide
    exact absurd h.2 (by rw [hequal]; decide)
  small := by decide +kernel
  compare := rfl
  valid := by
    have htest : (validatePatch plainRuntime.format (plainPatch 63)).toOption.any
        (fun _ => true) = true := by decide +kernel
    obtain ⟨operations, hvalid, -⟩ := exists_of_test htest
    exact ⟨operations, hvalid⟩
  shorter := by decide +kernel
  leads := by
    have htest : (applyRequestCapturePatch plainRuntime.format (padded .null)
        (plainPatch 63)).toOption.any (fun body =>
          deepEqualJson plainRuntime body (padded (nested 63)) &&
            decide (canonicalSha256 plainRuntime body =
              canonicalSha256 plainRuntime (padded (nested 63)))) = true := by decide +kernel
    obtain ⟨body, hbody, hchecks⟩ := exists_of_test htest
    rw [Bool.and_eq_true, decide_eq_true_eq] at hchecks
    exact ⟨body, hbody, hchecks⟩

theorem body_plain (depth : Nat) :
    toSafeJsonTree (plainExchange depth).response.body = .ok .null := rfl

theorem plainExchange_roundTrips :
    RoundTrips plainRuntime plainNow (plainExchange 3) (padded .null) (padded (nested 3))
      .null := by
  refine (roundTrips_iff (plainExchange_valid 3) (plainResponse_valid 3) rfl (original_plain 3)
    (effective_plain (by decide)) (body_plain 3)).mpr ?_
  intro patch hkeeps
  have hpatch : patch = plainPatch 3 := (Option.some.inj hkeeps.compare).symm
  rw [hpatch]
  decide

/-- All bodies are safe trees, and still the record of this exchange cannot be built. -/
theorem plainExchange_not_roundTrips :
    (plainExchange 63).toRequestCaptureV3BaseInput.Valid plainRuntime ∧
    (plainExchange 63).response.Valid plainRuntime plainNow ∧
    toSafeJsonTree (plainExchange 63).originalPayload = .ok (padded .null) ∧
    toSafeJsonTree ((plainExchange 63).effectivePayload.getD
      (plainExchange 63).originalPayload) = .ok (padded (nested 63)) ∧
    toSafeJsonTree (plainExchange 63).response.body = .ok .null ∧
    ¬RoundTrips plainRuntime plainNow (plainExchange 63) (padded .null) (padded (nested 63))
      .null := by
  have heffective := effective_plain (Nat.le_refl 63)
  refine ⟨plainExchange_valid 63, plainResponse_valid 63, original_plain 63, heffective,
    body_plain 63, ?_⟩
  rintro ⟨record, hok, -⟩
  have hrecord := requestCaptureV3Record_eq (plainExchange_valid 63) (plainResponse_valid 63) rfl
    (original_plain 63) heffective (body_plain 63)
  have hdeep : ¬(patchEncoding plainRuntime (padded .null) (padded (nested 63))
      (plainPatch 63)).effectivePatch.nesting ≤ maxDepth := by
    decide +kernel
  rw [encodeTrees_of_keepsPatch keepsPatch_plain, if_neg hdeep, hok] at hrecord
  cases hrecord

end Frely.Capture
