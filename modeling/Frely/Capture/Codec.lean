import Frely.Core.RelayError
import Frely.Core.Values
import Frely.Lib.Json
import Frely.Lib.Utf8

/-!
# Encoding of captured requests

`request-capture-codec.ts`: a captured request keeps the body that came in and the body that was
sent on.  The second one is kept as nothing (it is the same one), as a JSON patch, or in full.

Node's hash and the packages `canonicalize` and `fast-json-patch` are parameters; what the codec
relies on is stated with them.
-/

namespace Frely.Capture

open Checked

variable {ν : Type}

/-- A `RelayError`, or an error that has a code only. -/
inductive CaptureError where
  | codec (code : String)
  | relay (error : RelayError)
deriving DecidableEq, Repr

abbrev Result (α : Type) := Except CaptureError α

/-- A value that a caller hands over: a JSON tree, or something that is none (`undefined`, a
function, a number that is not finite, an object of a class, a cycle). -/
inductive Unknown (ν : Type) where
  | tree (value : Json ν) (distinct : value.Distinct)
  | other

def maxDepth : Nat := 64

def maxPatchOperations : Nat := 2048

def maxPatchBytes : Nat := 1048576

def maxCodecInputBytes : Nat := 4194304

def hashAlgorithm : String := "jcs-rfc8785-sha256-v1"

def patchFormat : String := "rfc6902-v1"

def byteLength (text : List Char) : Nat := (Utf8.encode text).length

/-- 64 hexadecimal digits. -/
def isHexDigest (value : String) : Bool :=
  value.toList.length = 64 &&
    value.toList.all fun c => c.isDigit || (decide ('a' ≤ c) && decide (c ≤ 'f'))

/-- What the codec does not do itself. -/
structure CaptureRuntime (ν : Type) where
  format : Json.NumberFormat ν
  /-- `createHash("sha256")`, in hexadecimal digits. -/
  sha256 : List UInt8 → String
  isHexDigest_sha256 : ∀ bytes, isHexDigest (sha256 bytes)
  canonicalize : Json ν → List Char
  same_of_canonicalize : ∀ value other : Json ν, value.Distinct → other.Distinct →
    canonicalize value = canonicalize other → value.Same other
  /-- `Number(value)`, when it is a finite number. -/
  number : Json ν → Option ν
  number_number : ∀ n, number (.number n) = some n
  /-- What `Date.parse` makes of texts that are not in the date format. -/
  parseOther : String → Option Timestamp
  /-- `jsonPatch.compare`; it may throw. -/
  compare : Json ν → Json ν → Option (Json ν)
  distinct_compare : ∀ value other patch : Json ν, value.Distinct → other.Distinct →
    compare value other = some patch → patch.Distinct

def integrityError : CaptureError :=
  .relay ⟨"request_capture_integrity_failed", "Request capture integrity verification failed", 500⟩

/-! ### Trees -/

mutual

/-- `visit` of `toSafeJsonTree`, at a depth. -/
def visit (depth : Nat) (value : Json ν) : Result (Json ν) :=
  if maxDepth < depth then .error (.codec "capture_patch_limit_exceeded")
  else match value with
    | .array items => do
      let items ← visitItems (depth + 1) items
      return .array items
    | .object members => do
      let members ← visitMembers (depth + 1) members
      return .object members
    | value => return value

def visitItems (depth : Nat) : List (Json ν) → Result (List (Json ν))
  | [] => return []
  | item :: rest => do
    let item ← visit depth item
    let rest ← visitItems depth rest
    return item :: rest

def visitMembers (depth : Nat) : List (String × Json ν) → Result (List (String × Json ν))
  | [] => return []
  | (key, value) :: rest => do
    let value ← visit depth value
    let rest ← visitMembers depth rest
    return (key, value) :: rest

end

/-- `toSafeJsonTree` of a JSON tree. -/
def safeTree (value : Json ν) : Result (Json ν) := visit 0 value

def toSafeJsonTree : Unknown ν → Result (Json ν)
  | .tree value _ => safeTree value
  | .other => .error (.codec "capture_encoding_failed")

/-! ### JSON pointers -/

/-- Splits at every separator. -/
def splitOn (separator : Char) : List Char → List (List Char)
  | [] => [[]]
  | c :: rest =>
    if c = separator then [] :: splitOn separator rest
    else match splitOn separator rest with
      | part :: parts => (c :: part) :: parts
      | [] => [[c]]

/-- `/~(?:[^01]|$)/`: a tilde without a digit after it. -/
def hasStrayTilde : List Char → Bool
  | [] => false
  | '~' :: rest =>
    match rest with
    | '0' :: rest => hasStrayTilde rest
    | '1' :: rest => hasStrayTilde rest
    | _ => true
  | _ :: rest => hasStrayTilde rest

/-- `replace` of every `~` and digit. -/
def replaceTilde (digit replacement : Char) : List Char → List Char
  | '~' :: c :: rest =>
    if c = digit then replacement :: replaceTilde digit replacement rest
    else '~' :: replaceTilde digit replacement (c :: rest)
  | c :: rest => c :: replaceTilde digit replacement rest
  | [] => []

def pointerToken (part : List Char) : Result String := do
  rejectIf (hasStrayTilde part) integrityError
  return String.ofList (replaceTilde '0' '~' (replaceTilde '1' '/' part))

def parsePointer (pointer : String) : Result (List String) :=
  match pointer.toList with
  | [] => return []
  | '/' :: rest => do
    let parts := splitOn '/' rest
    rejectIf (maxDepth < parts.length) integrityError
    parts.mapM pointerToken
  | _ => .error integrityError

/-! ### Patches -/

inductive PatchOp (ν : Type) where
  | add (value : Json ν)
  | replace (value : Json ν)
  | remove

/-- An operation with the path it works at. -/
structure PatchOperation (ν : Type) where
  path : String
  op : PatchOp ν

/-- Does an object have these keys and no others? -/
def hasKeys (members : List (String × Json ν)) (expected : List String) : Bool :=
  expected.all (fun key => (Json.member? members key).isSome) &&
    (Json.keys members).all (fun key => expected.contains key)

def validatePath (members : List (String × Json ν)) : Result String :=
  match Json.member? members "path" with
  | some (.string path) => do
    let _ ← parsePointer path
    return path
  | _ => .error integrityError

def validateValue (members : List (String × Json ν)) : Result (Json ν) :=
  match Json.member? members "value" with
  | some value => safeTree value
  | none => .error integrityError

def validateOperation : Json ν → Result (PatchOperation ν)
  | .object members =>
    match Json.member? members "op" with
    | some (.string "remove") => do
      rejectIf (hasKeys members ["op", "path"] = false) integrityError
      let path ← validatePath members
      return ⟨path, .remove⟩
    | some (.string "add") => do
      rejectIf (hasKeys members ["op", "path", "value"] = false) integrityError
      let path ← validatePath members
      let value ← validateValue members
      return ⟨path, .add value⟩
    | some (.string "replace") => do
      rejectIf (hasKeys members ["op", "path", "value"] = false) integrityError
      let path ← validatePath members
      let value ← validateValue members
      return ⟨path, .replace value⟩
    | _ => .error integrityError
  | _ => .error integrityError

/-- The operations of a patch; checking a patch before and while it is applied is one reading. -/
def validatePatch (format : Json.NumberFormat ν) : Json ν → Result (List (PatchOperation ν))
  | .array operations => do
    rejectIf (maxPatchOperations < operations.length) integrityError
    rejectIf (maxPatchBytes < byteLength (Json.stringify format (.array operations))) integrityError
    operations.mapM validateOperation
  | _ => .error integrityError

/-- `/^(0|[1-9]\d*)$/`. -/
def isArrayIndex : List Char → Bool
  | [] => false
  | ['0'] => true
  | c :: rest => decide ('1' ≤ c) && decide (c ≤ '9') && rest.all Char.isDigit

def decimal (digits : List Char) : Nat := digits.foldl (fun n c => n * 10 + (c.toNat - 48)) 0

def arrayIndex (value : String) (length : Nat) (allowEnd : Bool) : Result Nat := do
  rejectIf (isArrayIndex value.toList = false) integrityError
  let index := decimal value.toList
  rejectIf (¬IsSafeInteger index ∨ length < index ∨ (allowEnd = false ∧ index = length))
    integrityError
  return index

/-- `-` stands for the end of an array. -/
def insertionIndex (key : String) (length : Nat) : Result Nat :=
  if key = "-" then return length else arrayIndex key length true

def applyArrayOperation (items : List (Json ν)) (key : String) :
    PatchOp ν → Result (List (Json ν))
  | .add value => do
    let index ← insertionIndex key items.length
    let value ← safeTree value
    return items.insertIdx index value
  | .remove => do
    let index ← arrayIndex key items.length false
    return items.eraseIdx index
  | .replace value => do
    let index ← arrayIndex key items.length false
    let value ← safeTree value
    return items.set index value

def applyObjectOperation (members : List (String × Json ν)) (key : String) :
    PatchOp ν → Result (List (String × Json ν))
  | .add value => do
    let value ← safeTree value
    return Json.setMember members key value
  | .remove => do
    rejectIf ((Json.member? members key).isNone) integrityError
    return members.filter fun member => member.1 ≠ key
  | .replace value => do
    rejectIf ((Json.member? members key).isNone) integrityError
    let value ← safeTree value
    return Json.setMember members key value

/-- An operation below a parent; the tokens lead to the place it works at. -/
def applyAt (op : PatchOp ν) : List String → Json ν → Result (Json ν)
  | [], _ =>
    match op with
    | .remove => .error integrityError
    | .add value => safeTree value
    | .replace value => safeTree value
  | [key], .array items => do
    let items ← applyArrayOperation items key op
    return .array items
  | [key], .object members => do
    let members ← applyObjectOperation members key op
    return .object members
  | token :: next :: tokens, .array items => do
    let index ← arrayIndex token items.length false
    match items[index]? with
    | some child => do
      let child ← applyAt op (next :: tokens) child
      return .array (items.set index child)
    | none => .error integrityError
  | token :: next :: tokens, .object members =>
    match Json.member? members token with
    | some child => do
      let child ← applyAt op (next :: tokens) child
      return .object (Json.setMember members token child)
    | none => .error integrityError
  | _, _ => .error integrityError

def applyOperation (root : Json ν) (operation : PatchOperation ν) : Result (Json ν) := do
  let tokens ← parsePointer operation.path
  applyAt operation.op tokens root

def applyRequestCapturePatch (format : Json.NumberFormat ν) (original operations : Json ν) :
    Result (Json ν) := do
  let operations ← validatePatch format operations
  let root ← safeTree original
  operations.foldlM applyOperation root

/-! ### Encodings -/

structure RequestCaptureEncoding (ν : Type) where
  original : Json ν
  originalHashAlgorithm : String
  originalSha256 : String
  effectiveRepresentation : Json ν
  effectivePatchFormat : Option String
  /-- `null` where there is none, as the payload. -/
  effectivePatch : Json ν
  effectivePayload : Json ν
  effectiveHashAlgorithm : Option String
  effectiveSha256 : Option String
  effectiveUnavailableReason : Option String

inductive EffectiveCapture (ν : Type) where
  | verified (representation body : Json ν)
  | unavailable (reason : String)

def isWord (value : Json ν) (word : String) : Bool :=
  match value with
  | .string text => text = word
  | _ => false

variable (runtime : CaptureRuntime ν)

def canonicalSha256 (value : Json ν) : String :=
  runtime.sha256 (Utf8.encode (runtime.canonicalize value))

def deepEqualJson (left right : Json ν) : Bool :=
  runtime.canonicalize left = runtime.canonicalize right

def jsonBytes (value : Json ν) : Nat := byteLength (Json.stringify runtime.format value)

/-- The part of `encodeRequestCapture` that may fail: the patch, when it is worth keeping and leads
to the effective body. -/
def effectivePatch (original effective : Json ν) : Result (Json ν) := do
  let patch ← (runtime.compare original effective).elim (.error (.codec "compare")) .ok
  let operations ← validatePatch runtime.format patch
  rejectIf (maxPatchBytes < jsonBytes runtime patch ∨ maxPatchOperations < operations.length ∨
    jsonBytes runtime effective ≤ jsonBytes runtime patch)
    (.codec "capture_patch_limit_exceeded")
  let reconstructed ← applyRequestCapturePatch runtime.format original patch
  rejectIf (deepEqualJson runtime reconstructed effective = false ∨
    canonicalSha256 runtime reconstructed ≠ canonicalSha256 runtime effective)
    (.codec "capture_patch_verify_failed")
  return patch

def identityEncoding (original effective : Json ν) : RequestCaptureEncoding ν where
  original := original
  originalHashAlgorithm := hashAlgorithm
  originalSha256 := canonicalSha256 runtime original
  effectiveRepresentation := .string "identity"
  effectivePatchFormat := none
  effectivePatch := .null
  effectivePayload := .null
  effectiveHashAlgorithm := some hashAlgorithm
  effectiveSha256 := some (canonicalSha256 runtime effective)
  effectiveUnavailableReason := none

def fullEncoding (original effective : Json ν) : RequestCaptureEncoding ν :=
  { identityEncoding runtime original effective with
    effectiveRepresentation := .string "full"
    effectivePayload := effective }

def patchEncoding (original effective patch : Json ν) : RequestCaptureEncoding ν :=
  { identityEncoding runtime original effective with
    effectiveRepresentation := .string "rfc6902"
    effectivePatchFormat := some patchFormat
    effectivePatch := patch }

/-- The encoding of two trees. -/
def encodeTrees (original effective : Json ν) : RequestCaptureEncoding ν :=
  if canonicalSha256 runtime original = canonicalSha256 runtime effective ∧
      deepEqualJson runtime original effective = true then
    identityEncoding runtime original effective
  else if maxCodecInputBytes < jsonBytes runtime original + jsonBytes runtime effective then
    fullEncoding runtime original effective
  else match effectivePatch runtime original effective with
    | .ok patch => patchEncoding runtime original effective patch
    | .error _ => fullEncoding runtime original effective

def encodeRequestCapture (originalInput effectiveInput : Unknown ν) :
    Result (RequestCaptureEncoding ν) := do
  let original ← toSafeJsonTree originalInput
  let effective ← toSafeJsonTree effectiveInput
  return encodeTrees runtime original effective

def encodeUnavailableRequestCapture (originalInput : Unknown ν) (reason : String) :
    Result (RequestCaptureEncoding ν) := do
  let original ← toSafeJsonTree originalInput
  return {
    identityEncoding runtime original original with
    effectiveRepresentation := .string "unavailable"
    effectiveHashAlgorithm := none
    effectiveSha256 := none
    effectiveUnavailableReason := some reason }

/-- The effective body of an encoding that has one. -/
def effectiveBody (encoding : RequestCaptureEncoding ν) (original : Json ν) : Result (Json ν) :=
  if isWord encoding.effectiveRepresentation "identity" then safeTree original
  else if isWord encoding.effectiveRepresentation "full" then safeTree encoding.effectivePayload
  else do
    rejectIf (encoding.effectivePatchFormat ≠ some patchFormat) integrityError
    applyRequestCapturePatch runtime.format original encoding.effectivePatch

def reconstructEffectiveCapture (encoding : RequestCaptureEncoding ν) :
    Result (EffectiveCapture ν) := do
  let original ← safeTree encoding.original
  rejectIf (canonicalSha256 runtime original ≠ encoding.originalSha256) integrityError
  if isWord encoding.effectiveRepresentation "unavailable" then
    match encoding.effectiveUnavailableReason with
    | some reason => return .unavailable reason
    | none => .error integrityError
  else do
    rejectIf (encoding.effectiveSha256 = none ∨
      encoding.effectiveHashAlgorithm ≠ some hashAlgorithm)
      integrityError
    let body ← effectiveBody runtime encoding original
    rejectIf (some (canonicalSha256 runtime body) ≠ encoding.effectiveSha256) integrityError
    return .verified encoding.effectiveRepresentation body

end Frely.Capture
