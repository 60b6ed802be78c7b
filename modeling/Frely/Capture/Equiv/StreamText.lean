import Frely.Capture.StreamWriter
import Frely.Capture.Equiv.RoundTrip

/-!
# The text of a streamed capture

The writer of a stream cuts the text of a record at the place of its events and puts them there one
by one.  `text_streamed` says that what it has written in the end is the text of one JSON value,
`streamedObject`, and reading that value is reading the record that a whole exchange with the same
events has (`parse_streamed`).

A record is checked as a whole when it is read, and an event when it is added, alone.  In the record
an event stands two levels below the body of the response, so that an event that nests deeper than
62 levels goes into a file that nobody can read (`stored_iff`).
-/

namespace Frely.Capture

open Checked Machine

variable {ν : Type} {runtime : CaptureRuntime ν}

/-! ### Texts -/

theorem lastIndexOf_append {token rest : List Char} {index : Nat}
    (h : lastIndexOf token rest = some index) (text : List Char) :
    lastIndexOf token (text ++ rest) = some (index + text.length) := by
  induction text with
  | nil => exact h
  | cons c text ih =>
    rw [List.cons_append, lastIndexOf, ih]
    exact congrArg some (by rw [List.length_cons]; omega)

/-- A member of an object after its first. -/
def memberText (format : Json.NumberFormat ν) (member : String × Json ν) : List Char :=
  ',' :: Json.quote member.1 ++ ':' :: Json.stringify format member.2

theorem stringifyMembers_append (format : Json.NumberFormat ν)
    (members more : List (String × Json ν)) :
    Json.stringifyMembers format (members ++ more) =
      members.flatMap (memberText format) ++ Json.stringifyMembers format more := by
  induction members with
  | nil => rfl
  | cons member rest ih =>
    rw [List.cons_append, Json.stringifyMembers, ih, List.flatMap_cons, memberText]
    simp only [List.cons_append, List.append_assoc]

/-- The items of an array as they are written one by one. -/
def itemsText (format : Json.NumberFormat ν) : List (Json ν) → List Char
  | [] => []
  | item :: rest =>
    Json.stringify format item ++ rest.flatMap fun item => ',' :: Json.stringify format item

theorem stringifyItems_eq (format : Json.NumberFormat ν) (items : List (Json ν)) :
    Json.stringifyItems format items =
      (items.flatMap fun item => ',' :: Json.stringify format item) ++ [']'] := by
  induction items with
  | nil => rfl
  | cons item rest ih =>
    rw [Json.stringifyItems, ih, List.flatMap_cons]
    simp only [List.cons_append, List.append_assoc]

theorem stringify_array (format : Json.NumberFormat ν) (items : List (Json ν)) :
    Json.stringify format (.array items) = '[' :: itemsText format items ++ [']'] := by
  cases items with
  | nil => rfl
  | cons item rest =>
    rw [Json.stringify, stringifyItems_eq, itemsText]
    simp only [List.cons_append, List.append_assoc]

theorem itemsText_concat (format : Json.NumberFormat ν) (items : List (Json ν)) (item : Json ν) :
    itemsText format (items ++ [item]) = itemsText format items ++
      ((if items.length = 0 then [] else [',']) ++ Json.stringify format item) := by
  cases items with
  | nil => simp [itemsText]
  | cons first rest => simp [itemsText]

/-! ### The record of a stream -/

variable (runtime)

/-- The JSON of a record whose response was streamed; `closing` is what comes after its body. -/
def streamedObject (base : RequestCaptureV3Record ν) (status : ν) (events : List (Json ν))
    (closing : List (String × Json ν)) : Json ν :=
  .object (baseMembers runtime.format base ++ [("response", .object
    ([("captureId", .string (deterministicCaptureId runtime "capture_response" base.requestId)),
      ("status", .number status), ("body", streamBody events)] ++ closing))])

/-- What is written before the events. -/
def streamStart (base : RequestCaptureV3Record ν) (status : ν) : List Char :=
  '{' :: Json.quote "schemaVersion" ++ ':' ::
    Json.stringify runtime.format (.number (runtime.format.ofNat 3)) ++
    ((baseMembers runtime.format base).tail.flatMap (memberText runtime.format)) ++
    (',' :: Json.quote "response" ++ ':' :: '{' :: Json.quote "captureId" ++ ':' ::
      Json.quote (deterministicCaptureId runtime "capture_response" base.requestId)) ++
    memberText runtime.format ("status", .number status) ++
    (',' :: Json.quote "body" ++ ':' :: '{' :: Json.quote "stream" ++ ':' ::
      Json.stringify runtime.format (.bool true)) ++
    (',' :: Json.quote "events" ++ [':'])

variable {runtime}

theorem stringify_streamedObject (base : RequestCaptureV3Record ν) (status : ν)
    (events : List (Json ν)) (closing : List (String × Json ν)) :
    Json.stringify runtime.format (streamedObject runtime base status events closing) =
      streamStart runtime base status ++ Json.stringify runtime.format (.array events) ++
        ('}' :: Json.stringifyMembers runtime.format closing ++ ['}']) := by
  have hmembers : streamedObject runtime base status events closing =
      .object (("schemaVersion", .number (runtime.format.ofNat 3)) ::
        ((baseMembers runtime.format base).tail ++ [("response", .object
          (("captureId",
            .string (deterministicCaptureId runtime "capture_response" base.requestId)) ::
          ("status", .number status) :: ("body", streamBody events) :: closing))])) := rfl
  rw [hmembers, Json.stringify, stringifyMembers_append, streamStart]
  simp only [streamBody, Json.stringify, Json.stringifyMembers, memberText, List.cons_append,
    List.append_assoc, List.nil_append]

/-- The members that close a response. -/
def closingMembers (capturedAt : String) (errorCode : Option String) : List (String × Json ν) :=
  [("capturedAt", .string capturedAt), ("errorCode", nullable errorCode)]

/-- What the writer writes is the text of the record and a line feed. -/
theorem text_streamed (base : RequestCaptureV3Record ν) (status : ν) (events : List (Json ν))
    (capturedAt : String) (errorCode : Option String) :
    streamStart runtime base status ++ ['['] ++ itemsText runtime.format events ++
        closingText runtime capturedAt errorCode =
      Json.stringify runtime.format
        (streamedObject runtime base status events (closingMembers capturedAt errorCode)) ++
        ['\n'] := by
  rw [stringify_streamedObject, stringify_array, closingText]
  simp only [closingMembers, Json.stringifyMembers, Json.stringify, List.cons_append,
    List.append_assoc, List.nil_append]

/-- The events begin where the text of the record without events has its last brackets. -/
theorem lastIndexOf_prefixObject (base : RequestCaptureV3Record ν) (status : ν) :
    lastIndexOf ['[', ']'] (Json.stringify runtime.format (prefixObject runtime base status)) =
      some (streamStart runtime base status).length := by
  have htext : Json.stringify runtime.format (prefixObject runtime base status) =
      streamStart runtime base status ++ ['[', ']', '}', '}', '}'] := by
    have hobject : prefixObject runtime base status =
      streamedObject runtime base status [] [] := rfl
    rw [hobject, stringify_streamedObject, List.append_assoc]
    rfl
  have hlast : lastIndexOf ['[', ']'] ['[', ']', '}', '}', '}'] = some 0 := by decide
  rw [htext, lastIndexOf_append hlast, Nat.zero_add]

theorem take_prefixObject (base : RequestCaptureV3Record ν) (status : ν) :
    (Json.stringify runtime.format (prefixObject runtime base status)).take
      (streamStart runtime base status).length = streamStart runtime base status := by
  have hobject : prefixObject runtime base status = streamedObject runtime base status [] [] := rfl
  rw [hobject, stringify_streamedObject, List.append_assoc, List.take_left]

/-! ### Reading the record of a stream -/

variable {encoding : RequestCaptureEncoding ν} {record read base : RequestCaptureV3Record ν}
  {effective : EffectiveCapture ν} {input : RequestCaptureV3BaseInput ν}

variable (runtime)

/-- `validateRequestCaptureV3Record` of a record's own JSON; what is read as its response is left
open. -/
def readRecord (record : RequestCaptureV3Record ν)
    (response : Result (Option (ResponseRecord ν))) :
    Result (RequestCaptureV3Record ν × EffectiveCapture ν) := do
  rejectIf (isSchemaVersion runtime (.number (runtime.format.ofNat 3)) = false) v3IntegrityError
  let captureId ← requiredString (.string record.captureId : Json ν)
  let requestId ← requiredString (.string record.requestId : Json ν)
  assertSafeRequestId requestId
  let encoding ← readEncoding (requestMembers record.request)
  let effective ← reconstructEffectiveCapture runtime encoding
  let response ← response
  let userId ← requiredString (.string record.ownership.userId : Json ν)
  let apiKeyId ← requiredString (.string record.ownership.apiKeyId : Json ν)
  let teamId ← nullableString (nullable record.ownership.teamId : Json ν)
  let kind ← requiredString (.string record.kind : Json ν)
  let model ← requiredString (.string record.model : Json ν)
  let capturedAt ← isoTimestamp runtime (.string record.request.capturedAt)
  return (⟨captureId, requestId, ⟨userId, apiKeyId, teamId⟩, kind, model,
    recordedRequest capturedAt encoding, response⟩, effective)

variable {runtime}

theorem validate_eq_readRecord (record : RequestCaptureV3Record ν) :
    validateRequestCaptureV3Record runtime (record.toJson runtime.format) =
      readRecord runtime record (readNullableResponse runtime
        (record.response.elim .null ResponseRecord.toJson)) := rfl

theorem validate_streamedObject (base : RequestCaptureV3Record ν) (status : ν)
    (events : List (Json ν)) (capturedAt : String) (errorCode : Option String) :
    let response : ResponseRecord ν :=
      ⟨deterministicCaptureId runtime "capture_response" base.requestId, capturedAt, status,
        errorCode, streamBody events⟩
    validateRequestCaptureV3Record runtime
        (streamedObject runtime base status events (closingMembers capturedAt errorCode)) =
      validateRequestCaptureV3Record runtime
        ({ base with response := some response }.toJson runtime.format) := rfl

theorem requiredString_eq_ok {text read : String}
    (h : requiredString (.string text : Json ν) = .ok read) : read = text := by
  obtain ⟨_, -, hread⟩ := bind_eq_ok.mp h
  exact (Except.ok.inj hread).symm

theorem nullableString_eq_ok {text read : Option String}
    (h : nullableString (nullable text : Json ν) = .ok read) : read = text := by
  cases text with
  | none => exact (Except.ok.inj h).symm
  | some text =>
    obtain ⟨value, hvalue, hread⟩ := bind_eq_ok.mp h
    rw [requiredString_eq_ok hvalue] at hread
    exact (Except.ok.inj hread).symm

theorem hashRecord_eq_ok {hash read : HashRecord}
    (h : hashRecord (hash.toJson : Json ν) = .ok read) : read = hash := by
  have hrest : (do
      rejectIf (hash.algorithm ≠ hashAlgorithm ∨ isHexDigest hash.value = false) v3IntegrityError
      return hash : Result HashRecord) = .ok read := h
  obtain ⟨_, -, hread⟩ := bind_eq_ok.mp hrest
  exact (Except.ok.inj hread).symm

theorem nullableHash_eq_ok {hash read : Option HashRecord}
    (h : nullableHash (hash.elim .null HashRecord.toJson : Json ν) = .ok read) : read = hash := by
  cases hash with
  | none => exact (Except.ok.inj h).symm
  | some hash =>
    obtain ⟨value, hvalue, hread⟩ := bind_eq_ok.mp h
    rw [hashRecord_eq_ok hvalue] at hread
    exact (Except.ok.inj hread).symm

theorem nullableTree_eq_ok {value tree : Json ν} (h : nullableTree value = .ok tree) :
    tree = value := by
  rw [nullableTree_eq] at h
  exact (safeTree_eq_ok.mp h).2

/-- The request that is read from a request is the request itself. -/
theorem readEncoding_eq_ok {request : RequestRecord ν}
    (h : readEncoding (requestMembers request) = .ok encoding) :
    recordedRequest request.capturedAt encoding = request := by
  have hunfold : readEncoding (requestMembers request) = (do
      let originalHash ← hashRecord (request.original.hash.toJson : Json ν)
      let body ← safeTree request.original.body
      let patchFormat ← nullableString (nullable request.effective.patchFormat : Json ν)
      let patch ← nullableTree request.effective.patch
      let payload ← nullableTree request.effective.fullBody
      let hash ← nullableHash (request.effective.hash.elim .null HashRecord.toJson : Json ν)
      let reason ← nullableString (nullable request.effective.unavailableReason : Json ν)
      return {
        original := body
        originalHashAlgorithm := originalHash.algorithm
        originalSha256 := originalHash.value
        effectiveRepresentation := request.effective.representation
        effectivePatchFormat := patchFormat
        effectivePatch := patch
        effectivePayload := payload
        effectiveHashAlgorithm := hash.map HashRecord.algorithm
        effectiveSha256 := hash.map HashRecord.value
        effectiveUnavailableReason := reason }) := rfl
  rw [hunfold] at h
  obtain ⟨originalHash, horiginalHash, h⟩ := bind_eq_ok.mp h
  obtain ⟨body, hbody, h⟩ := bind_eq_ok.mp h
  obtain ⟨patchFormat, hformat, h⟩ := bind_eq_ok.mp h
  obtain ⟨patch, hpatch, h⟩ := bind_eq_ok.mp h
  obtain ⟨payload, hpayload, h⟩ := bind_eq_ok.mp h
  obtain ⟨hash, hhash, h⟩ := bind_eq_ok.mp h
  obtain ⟨reason, hreason, h⟩ := bind_eq_ok.mp h
  rw [← Except.ok.inj h, hashRecord_eq_ok horiginalHash, (safeTree_eq_ok.mp hbody).2,
    nullableString_eq_ok hformat, nullableTree_eq_ok hpatch, nullableTree_eq_ok hpayload,
    nullableHash_eq_ok hhash, nullableString_eq_ok hreason]
  obtain ⟨capturedAt, original, ⟨representation, format, patch, fullBody, hash, reason⟩⟩ := request
  cases hash <;> rfl

theorem isoTimestamp_eq_ok {text read : String}
    (h : isoTimestamp runtime (.string text) = .ok read) : read = text := by
  obtain ⟨value, hvalue, hread⟩ := bind_eq_ok.mp h
  obtain ⟨_, -, hread⟩ := bind_eq_ok.mp hread
  rw [requiredString_eq_ok hvalue] at hread
  exact (Except.ok.inj hread).symm

/-- A record that is read without a response is read with any, and it is the record itself. -/
theorem readRecord_response (h : readRecord runtime record (.ok none) = .ok (read, effective)) :
    read = { record with response := none } ∧
    ∀ response, readRecord runtime record (.ok response) =
      .ok ({ record with response := response }, effective) := by
  obtain ⟨_, hversion, h⟩ := bind_eq_ok.mp h
  obtain ⟨captureId, hcaptureId, h⟩ := bind_eq_ok.mp h
  obtain ⟨requestId, hrequestId, h⟩ := bind_eq_ok.mp h
  obtain ⟨_, hsafe, h⟩ := bind_eq_ok.mp h
  obtain ⟨encoding, hencoding, h⟩ := bind_eq_ok.mp h
  obtain ⟨found, heffective, h⟩ := bind_eq_ok.mp h
  obtain ⟨_, hnone, h⟩ := bind_eq_ok.mp h
  obtain ⟨userId, huserId, h⟩ := bind_eq_ok.mp h
  obtain ⟨apiKeyId, hapiKeyId, h⟩ := bind_eq_ok.mp h
  obtain ⟨teamId, hteamId, h⟩ := bind_eq_ok.mp h
  obtain ⟨kind, hkind, h⟩ := bind_eq_ok.mp h
  obtain ⟨model, hmodel, h⟩ := bind_eq_ok.mp h
  obtain ⟨capturedAt, hcapturedAt, h⟩ := bind_eq_ok.mp h
  cases hnone
  obtain rfl := requiredString_eq_ok hcaptureId
  obtain rfl := requiredString_eq_ok hrequestId
  obtain rfl := requiredString_eq_ok huserId
  obtain rfl := requiredString_eq_ok hapiKeyId
  obtain rfl := nullableString_eq_ok hteamId
  obtain rfl := requiredString_eq_ok hkind
  obtain rfl := requiredString_eq_ok hmodel
  obtain rfl := isoTimestamp_eq_ok hcapturedAt
  rw [readEncoding_eq_ok hencoding] at h
  obtain ⟨hread, heq⟩ := Prod.mk.inj (Except.ok.inj h)
  refine ⟨hread.symm, fun response => ?_⟩
  rw [readRecord, hversion, bind_ok, hcaptureId, bind_ok, hrequestId, bind_ok, hsafe, bind_ok,
    hencoding, bind_ok, heffective, bind_ok, bind_ok, huserId, bind_ok, hapiKeyId, bind_ok, hteamId,
    bind_ok, hkind, bind_ok, hmodel, bind_ok, hcapturedAt, bind_ok, readEncoding_eq_ok hencoding,
    ← heq]
  rfl

/-- A record is not read when its response is not. -/
theorem readRecord_error {response : Result (Option (ResponseRecord ν))}
    (h : readRecord runtime record response = .ok (read, effective)) :
    ∃ found, response = .ok found := by
  obtain ⟨_, -, h⟩ := bind_eq_ok.mp h
  obtain ⟨_, -, h⟩ := bind_eq_ok.mp h
  obtain ⟨_, -, h⟩ := bind_eq_ok.mp h
  obtain ⟨_, -, h⟩ := bind_eq_ok.mp h
  obtain ⟨_, -, h⟩ := bind_eq_ok.mp h
  obtain ⟨_, -, h⟩ := bind_eq_ok.mp h
  obtain ⟨found, hfound, -⟩ := bind_eq_ok.mp h
  exact ⟨found, hfound⟩

theorem readRecord_withResponse (record : RequestCaptureV3Record ν)
    (response : Option (ResponseRecord ν)) (found : Result (Option (ResponseRecord ν))) :
    readRecord runtime { record with response := response } found =
      readRecord runtime record found := rfl

theorem encodeInput_distinct (h : encodeInput runtime input = .ok encoding) :
    encoding.Distinct := by
  unfold encodeInput at h
  split at h
  · obtain ⟨original, horiginal, h⟩ := bind_eq_ok.mp h
    rw [← Except.ok.inj h]
    exact ⟨(distinct_of_toSafeJsonTree horiginal).1, trivial, trivial, trivial⟩
  · obtain ⟨original, horiginal, h⟩ := bind_eq_ok.mp h
    obtain ⟨effective, heffective, h⟩ := bind_eq_ok.mp h
    rw [← Except.ok.inj h]
    exact distinct_encodeTrees (distinct_of_toSafeJsonTree horiginal).1
      (distinct_of_toSafeJsonTree heffective).1

/-- What is known of the record that a stream begins with. -/
structure StreamBase (runtime : CaptureRuntime ν) (input : RequestCaptureV3BaseInput ν)
    (base : RequestCaptureV3Record ν) : Prop where
  requestId : base.requestId = input.requestId
  read : ∃ effective, readRecord runtime base (.ok none) = .ok (base, effective)
  distinct : ∃ encoding : RequestCaptureEncoding ν, encoding.Distinct ∧
    base.request = recordedRequest base.request.capturedAt encoding

theorem streamBase_of_requestCaptureV3BaseRecord
    (h : requestCaptureV3BaseRecord runtime input = .ok base) : StreamBase runtime input base := by
  obtain ⟨_, -, h⟩ := bind_eq_ok.mp h
  obtain ⟨_, -, h⟩ := bind_eq_ok.mp h
  obtain ⟨encoding, hencoding, h⟩ := bind_eq_ok.mp h
  obtain ⟨⟨read, effective⟩, hread, h⟩ := bind_eq_ok.mp h
  obtain rfl : read = base := Except.ok.inj h
  have hrecord : readRecord runtime (baseRecord runtime input encoding) (.ok none) =
      .ok (read, effective) := hread
  obtain ⟨rfl, -⟩ := readRecord_response hrecord
  exact ⟨rfl, ⟨effective, hrecord⟩, encoding, encodeInput_distinct hencoding, rfl⟩

theorem nesting_streamBody (events : List (Json ν)) :
    (streamBody events).nesting ≤ maxDepth ↔ ∀ event ∈ events, event.nesting ≤ 62 := by
  have hbound : (streamBody events).nesting ≤ maxDepth ↔ Json.nestingItems events ≤ 63 := by
    simp only [streamBody, Json.nesting, Json.nestingMembers, maxDepth]
    omega
  rw [hbound, Json.nestingItems_le]
  exact forall₂_congr fun event _ => by omega

theorem distinct_streamBody {events : List (Json ν)} (h : ∀ event ∈ events, event.Distinct) :
    (streamBody events).Distinct := by
  have hkeys : (["stream", "events"] : List String).Nodup := by decide
  exact ⟨hkeys, trivial, distinct_array.mpr h, trivial⟩

theorem distinct_streamedObject (h : StreamBase runtime input base) {events : List (Json ν)}
    (hevents : ∀ event ∈ events, event.Distinct) (status : ν) (capturedAt : String)
    (errorCode : Option String) :
    (streamedObject runtime base status events (closingMembers capturedAt errorCode)).Distinct := by
  obtain ⟨encoding, hencoding, hrequest⟩ := h.distinct
  have hbase : (RequestCaptureV3Record.toJson runtime.format
      { base with response := none }).Distinct := distinct_toJson hencoding hrequest nofun
  have hkeys : (["captureId", "status", "body", "capturedAt", "errorCode"] :
    List String).Nodup := by
    decide
  obtain ⟨hmemberKeys, hversion, hcapture, hrequestId, hownership, hkind, hmodel, hrequest, -⟩ :=
    hbase
  exact ⟨hmemberKeys, hversion, hcapture, hrequestId, hownership, hkind, hmodel, hrequest,
    ⟨hkeys, trivial, trivial, distinct_streamBody hevents, trivial, distinct_nullable _, trivial⟩,
    trivial⟩

/-! ### The record of a whole exchange -/

/-- The exchange with the events of a stream as its response; `closing` is when it was captured and
its error. -/
def wholeExchange (input : RequestCaptureV3BaseInput ν) (status : ν) (events : List (Json ν))
    (distinct : (streamBody events).Distinct) (closing : String × Option String) :
    WriteRequestCaptureV3ExchangeInput ν where
  toRequestCaptureV3BaseInput := input
  response :=
    { status := status
      body := .tree (streamBody events) distinct
      errorCode := closing.2
      capturedAt := some closing.1 }

/-- A file is read, and what it is read as is the record of the whole exchange. -/
def Stored (runtime : CaptureRuntime ν) (input : RequestCaptureV3BaseInput ν) (status : ν)
    (events : List (Json ν)) (closing : String × Option String) (raw : List UInt8) : Prop :=
  ∃ record exchange distinct, parseRequestCaptureV3Jsonl runtime raw = .ok record ∧
    decodeRequestCaptureV3Record runtime record = .ok exchange ∧
    ∀ now, requestCaptureV3Record runtime now
      (wholeExchange input status events distinct closing) = .ok record

/-- A file of a writer: the base and the events of the stream, and how it was closed. -/
structure Streamed (runtime : CaptureRuntime ν) (input : RequestCaptureV3BaseInput ν) (status : ν)
    (events : List (Json ν)) (closing : String × Option String) (raw : List UInt8) : Prop where
  base : ∃ base, requestCaptureV3BaseRecord runtime input = .ok base ∧
    raw = Utf8.encode (streamStart runtime base status ++ ['['] ++
      itemsText runtime.format events ++ closingText runtime closing.1 closing.2)
  status : isStatus runtime status = true
  events : ∀ event ∈ events, event.Distinct
  capturedAt : isoText runtime closing.1 = .ok closing.1
  errorCode : closing.2 ≠ some ""

section

variable {input : RequestCaptureV3BaseInput ν} {status : ν} {events : List (Json ν)}
  {closing : String × Option String} {raw : List UInt8}

/-- The response in the file of a writer. -/
def streamedResponse (runtime : CaptureRuntime ν) (base : RequestCaptureV3Record ν) (status : ν)
    (events : List (Json ν)) (closing : String × Option String) : ResponseRecord ν :=
  ⟨deterministicCaptureId runtime "capture_response" base.requestId, closing.1, status, closing.2,
    streamBody events⟩

/-- Reading the file of a writer is reading its base, and then checking the body as a whole. -/
theorem parse_streamed (h : Streamed runtime input status events closing raw) :
    ∃ base, requestCaptureV3BaseRecord runtime input = .ok base ∧
      jsonLine runtime raw =
        .ok (streamedObject runtime base status events (closingMembers closing.1 closing.2)) ∧
      validateRequestCaptureV3Record runtime
          (streamedObject runtime base status events (closingMembers closing.1 closing.2)) =
        readRecord runtime base (do
          let _ ← safeTree (streamBody events)
          return some (streamedResponse runtime base status events closing)) := by
  obtain ⟨base, hbase, hraw⟩ := h.base
  have hnewline : Utf8.encode ['\n'] = [newline] := by decide
  refine ⟨base, hbase, ?_, ?_⟩
  · rw [hraw, text_streamed, Utf8.encode_append, hnewline]
    exact jsonLine_stringify (distinct_streamedObject
      (streamBase_of_requestCaptureV3BaseRecord hbase) h.events status closing.1 closing.2)
  · have hvalid : ∀ found ∈ some (streamedResponse runtime base status events closing),
        found.Valid runtime := by
      rintro found ⟨⟩
      exact ⟨deterministicCaptureId_ne_empty _ _, h.capturedAt, h.status, h.errorCode⟩
    rw [validate_streamedObject, validate_eq_readRecord, readRecord_withResponse]
    refine congrArg (readRecord runtime base) ((readNullableResponse_toJson hvalid).trans ?_)
    rw [checkedResponse, streamedResponse, safeTree_eq]
    split_ifs <;> rfl

theorem nesting_of_parse (h : Streamed runtime input status events closing raw)
    (hparse : parseRequestCaptureV3Jsonl runtime raw = .ok record) :
    ∀ event ∈ events, event.nesting ≤ 62 := by
  obtain ⟨base, -, hline, hvalidate⟩ := parse_streamed h
  rw [parseRequestCaptureV3Jsonl, hline, bind_ok, parseRequestCaptureV3Record, hvalidate] at hparse
  obtain ⟨⟨found, effective⟩, hfound, -⟩ := bind_eq_ok.mp hparse
  obtain ⟨response, hresponse⟩ := readRecord_error hfound
  obtain ⟨tree, htree, -⟩ := bind_eq_ok.mp hresponse
  exact (nesting_streamBody events).mp (safeTree_eq_ok.mp htree).1

/-- What the writer leaves in its file is read as the whole exchange, unless an event nests deeper
than 62 levels. -/
theorem stored_iff (h : Streamed runtime input status events closing raw) :
    Stored runtime input status events closing raw ↔ ∀ event ∈ events, event.nesting ≤ 62 := by
  constructor
  · rintro ⟨record, exchange, distinct, hparse, -, -⟩
    exact nesting_of_parse h hparse
  · intro hevents
    obtain ⟨base, hbase, hline, hvalidate⟩ := parse_streamed h
    have hstream := streamBase_of_requestCaptureV3BaseRecord hbase
    obtain ⟨effective, hread⟩ := hstream.read
    have hbody : safeTree (streamBody events) = .ok (streamBody events) :=
      safeTree_eq_ok.mpr ⟨(nesting_streamBody events).mpr hevents, rfl⟩
    have hresponse : (do
        let _ ← safeTree (streamBody events)
        return some (streamedResponse runtime base status events closing) :
          Result (Option (ResponseRecord ν))) =
        .ok (some (streamedResponse runtime base status events closing)) := by
      rw [hbody]
      rfl
    rw [hresponse, (readRecord_response hread).2] at hvalidate
    let record : RequestCaptureV3Record ν :=
      { base with response := some (streamedResponse runtime base status events closing) }
    refine ⟨record, capturedExchange record effective, distinct_streamBody h.events, ?_, ?_, ?_⟩
    · rw [parseRequestCaptureV3Jsonl, hline, bind_ok, parseRequestCaptureV3Record, hvalidate]
      rfl
    · rw [validate_streamedObject] at hvalidate
      rw [decodeRequestCaptureV3Record, decodeJson]
      exact congrArg (· >>= fun found => .ok (capturedExchange found.1 found.2)) hvalidate
    · intro now
      have hexchange : requestCaptureV3Record runtime now (wholeExchange input status events
          (distinct_streamBody h.events) closing) = (do
            let base ← requestCaptureV3BaseRecord runtime input
            let body ← safeTree (streamBody events)
            let response := ⟨deterministicCaptureId runtime "capture_response" input.requestId,
              closing.1, status, closing.2, body⟩
            parseRequestCaptureV3Record runtime
              ({ base with response := some response }.toJson runtime.format)) := rfl
      rw [validate_streamedObject] at hvalidate
      rw [hexchange, hbase, bind_ok, hbody, bind_ok, ← hstream.requestId]
      exact congrArg (· >>= fun found => .ok found.1) hvalidate

end

end Frely.Capture
