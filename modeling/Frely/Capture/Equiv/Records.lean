import Frely.Capture.Records
import Frely.Capture.Equiv.Codec

/-!
# Reading back what a record was built from

A record is checked when it is built and whenever it is read, by one function on JSON values.  Here
is what that function makes of a record's own JSON (`validate_toJson`): it gives the record back,
but only if the trees in it are safe.  A patch is such a tree too, and the values in it stand two
levels deeper than where they are checked when the patch is made.
-/

namespace Frely.Capture

open Checked

variable {ν : Type} {runtime : CaptureRuntime ν}

/-! ### Parts of a record -/

theorem requiredString_string {text : String} (h : text ≠ "") :
    requiredString (.string text : Json ν) = .ok text := by
  rw [requiredString, rejectIf_of_not h]
  rfl

theorem nullableString_nullable {text : Option String} (h : text ≠ some "") :
    nullableString (nullable text : Json ν) = .ok text := by
  cases text with
  | none => rfl
  | some text =>
    have htext : text ≠ "" := fun heq => h (congrArg some heq)
    have hread := @requiredString_string ν text htext
    rw [nullable, nullableString, hread]
    · rfl
    · intro heq
      cases heq

theorem nullableTree_eq (value : Json ν) : nullableTree value = safeTree value := by
  cases value <;> rfl

/-- A digest as the reader accepts it. -/
def HashRecord.Valid (hash : HashRecord) : Prop :=
  hash.algorithm = hashAlgorithm ∧ isHexDigest hash.value = true

theorem hashRecord_toJson {hash : HashRecord} (h : hash.Valid) :
    hashRecord (hash.toJson : Json ν) = .ok hash := by
  have hvalid : ¬(hash.algorithm ≠ hashAlgorithm ∨ isHexDigest hash.value = false) := by
    rw [not_or, not_not, Bool.not_eq_false]
    exact h
  have hrest : (do
      rejectIf (hash.algorithm ≠ hashAlgorithm ∨ isHexDigest hash.value = false) v3IntegrityError
      return hash : Result HashRecord) = .ok hash := by
    rw [rejectIf_of_not hvalid]
    rfl
  exact hrest

theorem nullableHash_toJson {found : Option HashRecord} (h : ∀ hash ∈ found, hash.Valid) :
    nullableHash (found.elim .null HashRecord.toJson : Json ν) = .ok found := by
  cases found with
  | none => rfl
  | some hash =>
    have hread := @hashRecord_toJson ν hash (h hash rfl)
    rw [Option.elim, nullableHash, hread]
    · rfl
    · intro heq
      cases heq

/-- What holds of the words and hashes of every encoding. -/
structure RequestCaptureEncoding.Recordable (encoding : RequestCaptureEncoding ν) : Prop where
  originalHash : HashRecord.Valid ⟨encoding.originalHashAlgorithm, encoding.originalSha256⟩
  effectiveHash : ∃ found : Option HashRecord, (∀ hash ∈ found, hash.Valid) ∧
    encoding.effectiveHashAlgorithm = found.map HashRecord.algorithm ∧
    encoding.effectiveSha256 = found.map HashRecord.value
  patchFormat : encoding.effectivePatchFormat ≠ some ""
  unavailableReason : encoding.effectiveUnavailableReason ≠ some ""

/-- The members of the request part of a record. -/
def requestMembers (request : RequestRecord ν) : List (String × Json ν) :=
  [("capturedAt", .string request.capturedAt), ("original", request.original.toJson),
    ("effective", request.effective.toJson)]

/-- Reading an encoding back is checking its three trees. -/
theorem readEncoding_recorded {encoding : RequestCaptureEncoding ν} (h : encoding.Recordable)
    (capturedAt : String) :
    readEncoding (requestMembers (recordedRequest capturedAt encoding)) = (do
      let _ ← safeTree encoding.original
      let _ ← safeTree encoding.effectivePatch
      let _ ← safeTree encoding.effectivePayload
      return encoding) := by
  obtain ⟨hash, hvalid, halgorithm, hvalue⟩ := h.effectiveHash
  have heffective : effectiveHash encoding = hash := by
    rw [effectiveHash, halgorithm, hvalue]
    cases hash <;> rfl
  have hread := @nullableHash_toJson ν hash hvalid
  have horiginal := @hashRecord_toJson ν _ h.originalHash
  have hformat := @nullableString_nullable ν _ h.patchFormat
  have hreason := @nullableString_nullable ν _ h.unavailableReason
  have hunfold : readEncoding (requestMembers (recordedRequest capturedAt encoding)) = (do
      let originalHash ← hashRecord
        (HashRecord.toJson ⟨encoding.originalHashAlgorithm, encoding.originalSha256⟩ : Json ν)
      let body ← safeTree encoding.original
      let patchFormat ← nullableString (nullable encoding.effectivePatchFormat : Json ν)
      let patch ← nullableTree encoding.effectivePatch
      let payload ← nullableTree encoding.effectivePayload
      let hash ← nullableHash ((effectiveHash encoding).elim .null HashRecord.toJson : Json ν)
      let reason ← nullableString (nullable encoding.effectiveUnavailableReason : Json ν)
      return {
        original := body
        originalHashAlgorithm := originalHash.algorithm
        originalSha256 := originalHash.value
        effectiveRepresentation := encoding.effectiveRepresentation
        effectivePatchFormat := patchFormat
        effectivePatch := patch
        effectivePayload := payload
        effectiveHashAlgorithm := hash.map HashRecord.algorithm
        effectiveSha256 := hash.map HashRecord.value
        effectiveUnavailableReason := reason }) := rfl
  rw [hunfold, horiginal, bind_ok, hformat, hreason, heffective, hread]
  simp only [bind_ok, nullableTree_eq, ← halgorithm, ← hvalue]
  simp only [safeTree_eq]
  split_ifs <;> rfl

/-- A recorded response as the reader accepts it. -/
structure ResponseRecord.Valid (runtime : CaptureRuntime ν) (response : ResponseRecord ν) :
    Prop where
  captureId : response.captureId ≠ ""
  capturedAt : isoText runtime response.capturedAt = .ok response.capturedAt
  status : isStatus runtime response.status = true
  errorCode : response.errorCode ≠ some ""

theorem ne_empty_of_isoText {timestamp : String} (h : isoText runtime timestamp = .ok timestamp) :
    timestamp ≠ "" := by
  obtain ⟨_, hchecks, -⟩ := bind_eq_ok.mp h
  exact fun heq => rejectIf_eq_ok.mp hchecks (.inl heq)

theorem isoTimestamp_string {timestamp : String}
    (h : isoText runtime timestamp = .ok timestamp) :
    isoTimestamp runtime (.string timestamp) = .ok timestamp := by
  rw [isoTimestamp, requiredString_string (ne_empty_of_isoText h)]
  exact h

theorem readStatus_number {status : ν} (h : isStatus runtime status = true) :
    readStatus runtime (.number status) = .ok status := by
  have hvalid : ¬isStatus runtime status = false := by
    rw [h]
    decide
  simp only [readStatus, runtime.number_number]
  rw [rejectIf_of_not hvalid]
  rfl

theorem readResponse_toJson {response : ResponseRecord ν} (h : response.Valid runtime) :
    readResponse runtime response.toJson = (do
      let _ ← safeTree response.body
      return response) := by
  have hunfold : readResponse runtime response.toJson = (do
      let status ← readStatus runtime (.number response.status)
      let captureId ← requiredString (.string response.captureId : Json ν)
      let capturedAt ← isoTimestamp runtime (.string response.capturedAt)
      let errorCode ← nullableString (nullable response.errorCode : Json ν)
      let body ← safeTree response.body
      return ⟨captureId, capturedAt, status, errorCode, body⟩) := rfl
  rw [hunfold, readStatus_number h.status, bind_ok, requiredString_string h.captureId, bind_ok,
    isoTimestamp_string h.capturedAt, bind_ok, nullableString_nullable h.errorCode, bind_ok,
    safeTree_eq]
  split_ifs <;> rfl

/-- The body of a response, if there is one, is a safe tree. -/
def checkedResponse (response : Option (ResponseRecord ν)) : Result Unit :=
  match response with
  | none => return ()
  | some response => do
    let _ ← safeTree response.body
    return ()

theorem readNullableResponse_toJson {response : Option (ResponseRecord ν)}
    (h : ∀ found ∈ response, found.Valid runtime) :
    readNullableResponse runtime (response.elim .null ResponseRecord.toJson) = (do
      checkedResponse response
      return response) := by
  cases response with
  | none => rfl
  | some response =>
    have hread := readResponse_toJson (h response rfl)
    rw [Option.elim, readNullableResponse, hread, checkedResponse]
    · rw [safeTree_eq]
      split_ifs <;> rfl
    · intro heq
      cases heq

/-- A record as the reader accepts it. -/
structure RequestCaptureV3Record.Valid (runtime : CaptureRuntime ν)
    (record : RequestCaptureV3Record ν) : Prop where
  captureId : record.captureId ≠ ""
  requestId : isSafeRequestId record.requestId = true
  userId : record.ownership.userId ≠ ""
  apiKeyId : record.ownership.apiKeyId ≠ ""
  teamId : record.ownership.teamId ≠ some ""
  kind : record.kind ≠ ""
  model : record.model ≠ ""
  capturedAt : isoText runtime record.request.capturedAt = .ok record.request.capturedAt
  response : ∀ response ∈ record.response, response.Valid runtime

theorem ne_empty_of_isSafeRequestId {id : String} (h : isSafeRequestId id = true) : id ≠ "" := by
  rintro rfl
  simp [isSafeRequestId] at h

/-- A record read back from its own JSON. -/
theorem validate_toJson {record : RequestCaptureV3Record ν} (h : record.Valid runtime)
    {encoding : RequestCaptureEncoding ν} (hencoding : encoding.Recordable)
    (hrequest : record.request = recordedRequest record.request.capturedAt encoding) :
    validateRequestCaptureV3Record runtime (record.toJson runtime.format) = (do
      let _ ← safeTree encoding.original
      let _ ← safeTree encoding.effectivePatch
      let _ ← safeTree encoding.effectivePayload
      let effective ← reconstructEffectiveCapture runtime encoding
      checkedResponse record.response
      return (record, effective)) := by
  have hversion : ¬isSchemaVersion runtime (.number (runtime.format.ofNat 3)) = false := by
    simp [isSchemaVersion, runtime.format.toNat?_ofNat]
  have hsafe : ¬isSafeRequestId record.requestId = false := by
    rw [h.requestId]
    decide
  have hread := readEncoding_recorded hencoding record.request.capturedAt
  rw [← hrequest] at hread
  -- the members that the reader looks up, in the order in which it reads them
  have hunfold : validateRequestCaptureV3Record runtime (record.toJson runtime.format) = (do
      rejectIf (isSchemaVersion runtime (.number (runtime.format.ofNat 3)) = false)
        v3IntegrityError
      let captureId ← requiredString (.string record.captureId : Json ν)
      let requestId ← requiredString (.string record.requestId : Json ν)
      assertSafeRequestId requestId
      let encoding ← readEncoding (requestMembers record.request)
      let effective ← reconstructEffectiveCapture runtime encoding
      let response ← readNullableResponse runtime
        (record.response.elim .null ResponseRecord.toJson)
      let userId ← requiredString (.string record.ownership.userId : Json ν)
      let apiKeyId ← requiredString (.string record.ownership.apiKeyId : Json ν)
      let teamId ← nullableString (nullable record.ownership.teamId : Json ν)
      let kind ← requiredString (.string record.kind : Json ν)
      let model ← requiredString (.string record.model : Json ν)
      let capturedAt ← isoTimestamp runtime (.string record.request.capturedAt)
      return (⟨captureId, requestId, ⟨userId, apiKeyId, teamId⟩, kind, model,
        recordedRequest capturedAt encoding, response⟩, effective)) := rfl
  rw [hunfold, rejectIf_of_not hversion, bind_ok, requiredString_string h.captureId, bind_ok,
    requiredString_string (ne_empty_of_isSafeRequestId h.requestId), bind_ok, assertSafeRequestId,
    rejectIf_of_not hsafe, bind_ok, hread, readNullableResponse_toJson h.response,
    requiredString_string h.userId, requiredString_string h.apiKeyId,
    nullableString_nullable h.teamId, requiredString_string h.kind, requiredString_string h.model,
    isoTimestamp_string h.capturedAt]
  simp only [bind_ok, safeTree_eq]
  split_ifs
  · simp only [bind_ok, pure_eq_ok, ← hrequest]
    cases reconstructEffectiveCapture runtime encoding with
    | error e => rfl
    | ok effective =>
      cases checkedResponse record.response with
      | error e => rfl
      | ok _ => rfl
  all_goals rfl

/-! ### Encodings can be recorded -/

section

variable {original effective : Json ν}

theorem hashRecord_valid (runtime : CaptureRuntime ν) (value : Json ν) :
    HashRecord.Valid ⟨hashAlgorithm, canonicalSha256 runtime value⟩ :=
  ⟨rfl, runtime.isHexDigest_sha256 _⟩

theorem recordable_identityEncoding :
    (identityEncoding runtime original effective).Recordable where
  originalHash := hashRecord_valid runtime original
  effectiveHash := by
    refine ⟨some ⟨hashAlgorithm, canonicalSha256 runtime effective⟩, ?_, rfl, rfl⟩
    rintro hash ⟨⟩
    exact hashRecord_valid runtime effective
  patchFormat := nofun
  unavailableReason := nofun

theorem recordable_encodeTrees : (encodeTrees runtime original effective).Recordable := by
  have h : (identityEncoding runtime original effective).Recordable := recordable_identityEncoding
  rcases encodeTrees_cases runtime original effective with
    ⟨hform, -⟩ | hform | ⟨patch, hform, -⟩ <;> rw [hform]
  · exact h
  · exact ⟨h.originalHash, h.effectiveHash, h.patchFormat, h.unavailableReason⟩
  · exact ⟨h.originalHash, h.effectiveHash, by simp [patchEncoding, Capture.patchFormat],
      h.unavailableReason⟩

end

end Frely.Capture
