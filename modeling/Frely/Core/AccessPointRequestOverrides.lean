import Frely.Lib.Checked
import Frely.Lib.JsonReorder
import Frely.Lib.StableSort

/-!
# Request overrides of access points

An access point can fix members of the payload of every request it serves.  They are normalized when
they are stored and again when they are read, and their text is compared as a whole.

The members of a JSON value stand in the order in which the language enumerates them: indices in
ascending order, then the other keys as they were added.  `localeCompare` and `toLowerCase` are
parameters.
-/

namespace Frely.RequestOverrides

open Checked

variable {ν : Type}

structure OverrideRuntime (ν : Type) where
  format : Json.NumberFormat ν
  localeCompare : String → String → Ordering
  transCmp_localeCompare : Std.TransCmp localeCompare
  toLowerCase : String → String
  toLowerCase_ascii : ∀ text : String, (∀ c ∈ text.toList, c.toNat < 128) →
    toLowerCase text = String.ofList (text.toList.map Char.toLower)

/-- The message of a `TypeError`. -/
abbrev Result (α : Type) := Except String α

def maxBytes : Nat := 8 * 1024

def maxKeys : Nat := 64

def maxDepth : Nat := 8

def forbiddenRequestOverrideKeys : List String :=
  ["agent", "apikey", "authorization", "baseurl", "credential", "credentialref", "credentials",
    "dispatcher", "fetch", "headers", "input", "instructions", "managementapikey", "maxretries",
    "maxretrydelayms", "messages", "model", "onchunk", "onerror", "onevent", "onpayload",
    "onresponse", "ontransport", "ontransporterror", "prompt", "providerurl", "proxy", "proxyurl",
    "signal", "store", "stream", "timeout", "timeoutms", "tools", "transport",
    "websocketconnecttimeoutms"]

def forbiddenJsonKeys : List String := ["__proto__", "constructor", "prototype"]

/-! ### Members in the order of the language -/

/-- An array index: a number below 2³² − 1 as it is printed. -/
def isIndexKey (key : String) : Bool :=
  match key.toList with
  | [] => false
  | c :: rest => (c = '0' && rest.isEmpty || c ≠ '0') && (c :: rest).all Char.isDigit &&
    Nat.ofDigitChars 10 (c :: rest) 0 < 4294967295

/-- Of two numbers without leading zeros the shorter one is less. -/
def indexOrder : String → String → Ordering :=
  compareLex (compareOn String.length) compare

def arrange {α : Type} (members : List (String × α)) : List (String × α) :=
  StableSort.sortBy (fun left right => indexOrder left.1 right.1)
    (members.filter fun member => isIndexKey member.1) ++
  members.filter fun member => ¬isIndexKey member.1

/-- A value with the members of its objects arranged. -/
def arranged : Json ν → Json ν := Json.reorder arrange

/-! ### Normalizing -/

variable (runtime : OverrideRuntime ν)

/-- The key without separators, in lower case. -/
def foldedKey (key : String) : String :=
  runtime.toLowerCase (String.ofList (key.toList.filter fun c => c ≠ '-' && c ≠ '_'))

def forbiddenKey (key : String) : Bool := foldedKey runtime key ∈ forbiddenRequestOverrideKeys

def sortedEntries {α : Type} (members : List (String × α)) : List (String × α) :=
  StableSort.sortBy (fun left right => runtime.localeCompare left.1 right.1) members

def forbiddenKeyError (key : String) : String :=
  "access_point_request_overrides_forbidden_key:" ++ key

/-- The entries of an object, where `count` keys were seen before. -/
def normalizeEntries (check : String → Result Unit)
    (child : Json ν → Nat → Result (Json ν × Nat)) :
    List (String × Json ν) → Nat → Result (List (String × Json ν) × Nat)
  | [], count => return ([], count)
  | (key, value) :: rest, count => do
    rejectIf (maxKeys < count + 1) "access_point_request_overrides_too_many_keys"
    check key
    let (value, count) ← child value (count + 1)
    let (rest, count) ← normalizeEntries check child rest count
    return ((key, value) :: rest, count)

def normalizeItems (child : Json ν → Nat → Result (Json ν × Nat)) :
    List (Json ν) → Nat → Result (List (Json ν) × Nat)
  | [], count => return ([], count)
  | item :: rest, count => do
    let (item, count) ← child item count
    let (rest, count) ← normalizeItems child rest count
    return (item :: rest, count)

def checkJsonKey (key : String) : Result Unit :=
  rejectIf (key ∈ forbiddenJsonKeys) (forbiddenKeyError key)

/-- `normalizeJsonValue`, with the number of levels that are left. -/
def normalizeJsonValue : Nat → Json ν → Nat → Result (Json ν × Nat)
  | 0, _, _ => .error "access_point_request_overrides_too_deep"
  | room + 1, .array items, count => do
    let (items, count) ← normalizeItems (normalizeJsonValue room) items count
    return (.array items, count)
  | room + 1, .object members, count => do
    let (members, count) ← normalizeEntries checkJsonKey (normalizeJsonValue room)
      (sortedEntries runtime members) count
    return (.object (arrange members), count)
  | _ + 1, value, count => return (value, count)

def checkOverrideKey (key : String) : Result Unit :=
  rejectIf (key = "" ∨ key ∈ forbiddenJsonKeys ∨ forbiddenKey runtime key = true)
    (forbiddenKeyError key)

def isServiceTier : Json ν → Bool
  | .string tier => tier = "fast" || tier = "priority"
  | _ => false

def overridesBytes (members : List (String × Json ν)) : Nat :=
  Json.bytes (Json.stringify runtime.format (.object members))

def normalizeAccessPointRequestOverrides : Json ν → Result (List (String × Json ν))
  | .object members => do
    let (entries, _) ← normalizeEntries (checkOverrideKey runtime)
      (normalizeJsonValue runtime maxDepth) (sortedEntries runtime members) 0
    let normalized := arrange entries
    rejectIf ((Json.member? normalized "service_tier").any fun tier => isServiceTier tier = false)
      "access_point_request_overrides_invalid_service_tier"
    rejectIf (maxBytes < overridesBytes runtime normalized)
      "access_point_request_overrides_too_large"
    return normalized
  | _ => .error "access_point_request_overrides_must_be_object"

def parseAccessPointRequestOverridesJson (value : List Char) :
    Result (List (String × Json ν)) :=
  match Json.parse runtime.format value with
  | some parsed => normalizeAccessPointRequestOverrides runtime (arranged parsed)
  | none => .error "access_point_request_overrides_invalid_json"

/-! ### Applying -/

/-- A value in a payload: a JSON value, or something else; `undefined` and functions are dropped. -/
inductive PayloadValue (ν : Type) where
  | json (value : Json ν)
  | dropped
  | other

/-- A member set on an object. -/
def assign {α : Type} (object : List (String × α)) (key : String) (value : α) :
    List (String × α) :=
  match object with
  | [] => [(key, value)]
  | member :: rest =>
    if member.1 = key then (key, value) :: rest else member :: assign rest key value

def applyAccessPointRequestOverrides (payload : List (String × PayloadValue ν))
    (overrides : List (String × Json ν)) : List (String × PayloadValue ν) :=
  overrides.foldl (fun object member => assign object member.1 (.json member.2)) payload

/-! ### Before a request is sent -/

def cliproxyServerOwnedFields : List String := ["model", "stream", "store"]

def cliproxyForbiddenControlFields : List String :=
  ["headers", "baseurl", "providerurl", "apikey", "managementapikey", "authorization", "credential",
    "credentials", "credentialref", "proxy", "proxyurl", "signal", "timeout", "timeoutms",
    "transport", "websocketconnecttimeoutms", "maxretries", "maxretrydelayms", "fetch",
    "dispatcher", "agent", "onpayload", "onresponse", "ontransport", "ontransporterror", "onevent",
    "onchunk", "onerror", "fridaymaxcontexttokens"]

/-- `normalizeControlFieldName`. -/
def controlFieldName (key : String) : String :=
  runtime.toLowerCase
    (String.ofList ((key.toList.filter (· ≠ '_')).filter (· ≠ '-')))

def sanitizeCliProxyPayload : List (String × PayloadValue ν) →
    Result (List (String × PayloadValue ν))
  | [] => return []
  | (key, value) :: rest => do
    rejectIf (controlFieldName runtime key ∈ cliproxyForbiddenControlFields)
      "provider_control_field_forbidden"
    let sanitized ← sanitizeCliProxyPayload rest
    if key ∈ cliproxyServerOwnedFields then return sanitized
    else match value with
      | .dropped => return sanitized
      -- setting this key sets the prototype and adds no member
      | value => if key = "__proto__" then return sanitized else return (key, value) :: sanitized

end Frely.RequestOverrides
