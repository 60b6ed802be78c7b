import Frely.Lib.Json
import Frely.Lib.Utf8
import Frely.RequestExecution.Contracts

/-!
# What a response says about its cost

The middleware of the overlay reads every JSON response and every frame of an event stream and
observes whether it ends the response, whether it failed and which usage it reports.

Objects are `map[string]any` with the numbers as texts.  The decoder of `encoding/json`, the parsing
of integers and the case of characters are parameters.
-/

namespace Frely.CpaBasic

open Frely.RequestExecution

variable {ν : Type}

/-- What `Decode` finds in front of what is left of an input. -/
inductive Decoded (ν : Type) where
  | value (value : Json ν) (rest : List UInt8)
  | eof
  | invalid

structure GoRuntime (ν : Type) where
  format : Json.NumberFormat ν
  decode : List UInt8 → Decoded ν
  /-- `json.Valid`. -/
  valid : List UInt8 → Bool
  /-- `strconv.ParseInt` on the text of a number. -/
  parseInt : ν → Option Int
  parseInt_ofNat : ∀ n, parseInt (format.ofNat n) = some (n : Int)
  toLower : Char → Char
  toLower_ascii : ∀ c, c.toNat < 128 → toLower c = c.toLower

def cpaBasicEvidenceContract : String := "cpa-basic@1"

def cpaBasicJSONPrefix : String :=
  "\x7b\"contract\":\"cpa-basic-json@1\",\"version\":1,\"response\":"

def maxJSONInspectionBytes : Nat := 256 * 1024

def maxSSEFrameInspectionBytes : Nat := 256 * 1024

def maxJSONSafeInteger : Nat := 9007199254740991

/-! ### Values -/

/-- `map[string]any`; `none` is the nil map. -/
abbrev GoObject (ν : Type) := Option (List (String × Json ν))

/-- The value of a key; nil is `null`. -/
def valueAt (object : GoObject ν) (key : String) : Json ν :=
  (object.bind fun members => Json.member? members key).getD .null

def objectValue : Json ν → GoObject ν
  | .object members => some members
  | _ => none

def stringValue : Json ν → String
  | .string text => text
  | _ => ""

/-- `unicode.IsSpace`. -/
def isSpace (c : Char) : Bool :=
  c ∈ ['\t', '\n', '\u000b', '\u000c', '\r', ' ', '\u0085', '\u00a0', '\u1680', '\u2028', '\u2029',
    '\u202f', '\u205f', '\u3000'] || (0x2000 ≤ c.toNat && c.toNat ≤ 0x200a)

def trimSpace (text : List Char) : List Char :=
  ((text.dropWhile isSpace).reverse.dropWhile isSpace).reverse

variable (runtime : GoRuntime ν)

/-- `strings.ToLower(strings.TrimSpace(text))`. -/
def lowered (text : String) : String :=
  String.ofList ((trimSpace text.toList).map runtime.toLower)

def loweredField (object : GoObject ν) (key : String) : String :=
  lowered runtime (stringValue (valueAt object key))

def integerValue : Json ν → Option Nat
  | .number number =>
    match runtime.parseInt number with
    | some (.ofNat parsed) => if maxJSONSafeInteger < parsed then none else some parsed
    | _ => none
  | _ => none

def intNumber (value : Json ν) : Nat := (integerValue runtime value).getD 0

def firstInteger (object : GoObject ν) (keys : List String) : Option Nat :=
  keys.findSome? fun key => integerValue runtime (valueAt object key)

/-- The value at the end of a path. -/
def valueAtPath (value : Json ν) (path : List String) : Json ν :=
  path.foldl (fun current key => valueAt (objectValue current) key) value

def nestedInteger (object : GoObject ν) : List String → Option Nat
  | [] => none
  | key :: path => integerValue runtime (valueAtPath (valueAt object key) path)

def firstNestedInteger (object : GoObject ν) (paths : List (List String)) : Option Nat :=
  paths.findSome? (nestedInteger runtime object)

/-- `ensureJSONEOF` takes another value for the end. -/
def ensureJSONEOF (rest : List UInt8) : Bool :=
  match runtime.decode rest with
  | .eof | .value _ _ => true
  | .invalid => false

def decodeJSONObject (payload : List UInt8) : GoObject ν :=
  match runtime.decode payload with
  | .value value rest => if ensureJSONEOF runtime rest then objectValue value else none
  | .eof | .invalid => none

/-! ### Usage -/

structure TrustedUsage where
  inputTokens : Nat
  cachedInputTokens : Nat
  cacheWriteTokens : Nat
  outputTokens : Nat
  totalTokens : Nat
  source : String
deriving DecidableEq, Repr

def knownUsageKeys : List String :=
  ["input_tokens", "prompt_tokens", "output_tokens", "completion_tokens", "total_tokens",
    "input_tokens_details", "prompt_tokens_details", "output_tokens_details",
    "completion_tokens_details", "cache_read_input_tokens", "cache_creation_input_tokens"]

def knownUsageShape (usage : List (String × Json ν)) : Bool :=
  usage.all fun member => member.1 ∈ knownUsageKeys

def trustedAnthropicUsage (input output cached cacheWrite : Nat) : Option TrustedUsage :=
  if maxJSONSafeInteger - cached < input then none
  else if maxJSONSafeInteger - cacheWrite < input + cached then none
  else if maxJSONSafeInteger - output < input + cached + cacheWrite then none
  else some ⟨input + cached + cacheWrite, cached, cacheWrite, output,
    input + cached + cacheWrite + output, "provider"⟩

/-- The usage of a provider that reports a total. -/
def totalledUsage (usage : GoObject ν) (input output total : Nat) : Option TrustedUsage := do
  let cached ← firstNestedInteger runtime usage
    [["input_tokens_details", "cached_tokens"], ["prompt_tokens_details", "cached_tokens"]]
  let cacheWrite ← firstNestedInteger runtime usage
    [["input_tokens_details", "cache_write_tokens"],
      ["input_tokens_details", "cache_creation_tokens"],
      ["prompt_tokens_details", "cache_write_tokens"],
      ["prompt_tokens_details", "cache_creation_tokens"],
      ["prompt_tokens_details", "cached_creation_tokens"]]
  if input < cached ∨ input - cached < cacheWrite ∨ maxJSONSafeInteger - output < input ∨
      total ≠ input + output then none
  else some ⟨input, cached, cacheWrite, output, total, "provider"⟩

def usageFromObject : GoObject ν → Option TrustedUsage
  | none => none
  | some usage =>
    if knownUsageShape usage then do
      let input ← firstInteger runtime (some usage) ["input_tokens", "prompt_tokens"]
      let output ← firstInteger runtime (some usage) ["output_tokens", "completion_tokens"]
      match integerValue runtime (valueAt (some usage) "total_tokens") with
      | some total => totalledUsage runtime (some usage) input output total
      | none => do
        let cached ← integerValue runtime (valueAt (some usage) "cache_read_input_tokens")
        let cacheWrite ← integerValue runtime (valueAt (some usage) "cache_creation_input_tokens")
        trustedAnthropicUsage input output cached cacheWrite
    else none

def normalizedUsage (value : GoObject ν) : Option TrustedUsage :=
  let inResponse := (objectValue (valueAt value "response")).bind fun response =>
    usageFromObject runtime (objectValue (valueAt (some response) "usage"))
  match inResponse with
  | some usage => some usage
  | none => usageFromObject runtime (objectValue (valueAt value "usage"))

/-- `cpaAnthropicUsageParts`; an optional integer is set when it is `some`. -/
structure AnthropicUsageParts where
  seen : Bool := false
  invalid : Bool := false
  input : Option Nat := none
  cached : Option Nat := none
  cacheWrite : Option Nat := none
  output : Option Nat := none
  outputFinal : Bool := false
deriving DecidableEq, Repr

def AnthropicUsageParts.merge (usage : AnthropicUsageParts) :
    Option AnthropicUsageParts → AnthropicUsageParts
  | none => usage
  | some parts =>
    { seen := usage.seen || parts.seen
      invalid := usage.invalid || parts.invalid
      input := parts.input.or usage.input
      cached := parts.cached.or usage.cached
      cacheWrite := parts.cacheWrite.or usage.cacheWrite
      output := parts.output.or usage.output
      outputFinal := usage.outputFinal || parts.outputFinal }

def AnthropicUsageParts.trustedUsage (usage : AnthropicUsageParts) : Option TrustedUsage :=
  if !usage.seen || usage.invalid || !usage.outputFinal then none
  else do
    let input ← usage.input
    let cached ← usage.cached
    let cacheWrite ← usage.cacheWrite
    let output ← usage.output
    trustedAnthropicUsage input output cached cacheWrite

/-- The value of a dimension, if its key is there: `none` when it is no integer. -/
def anthropicDimension (usage : List (String × Json ν)) (key : String) : Option (Option Nat) :=
  (Json.member? usage key).map (integerValue runtime)

def anthropicUsagePartsFromObject : GoObject ν → Option AnthropicUsageParts
  | none => none
  | some usage =>
    if knownUsageShape usage then
      let input := anthropicDimension runtime usage "input_tokens"
      let cached := anthropicDimension runtime usage "cache_read_input_tokens"
      let cacheWrite := anthropicDimension runtime usage "cache_creation_input_tokens"
      let output := anthropicDimension runtime usage "output_tokens"
      let dimensions := [input, cached, cacheWrite, output]
      if dimensions.any Option.isSome then
        some {
          seen := true
          invalid := dimensions.any fun dimension => dimension = some none
          input := input.join
          cached := cached.join
          cacheWrite := cacheWrite.join
          output := output.join }
      else none
    else some { seen := true, invalid := true }

def anthropicKind (eventName : String) (value : GoObject ν) : String :=
  if eventName ∈ ["message_start", "message_delta", "message_stop"] then eventName
  else loweredField runtime value "type"

/-- Where an event of a kind has its usage. -/
def anthropicUsageObject (kind : String) (value : GoObject ν) : GoObject ν :=
  if kind = "message_start" then
    objectValue (valueAt (objectValue (valueAt value "message")) "usage")
  else if kind = "message_delta" ∨ kind = "message_stop" then objectValue (valueAt value "usage")
  else none

def anthropicSSEUsage (eventName : String) (value : GoObject ν) : Option AnthropicUsageParts :=
  if value.isNone then none
  else
    let kind := anthropicKind runtime eventName value
    (anthropicUsagePartsFromObject runtime (anthropicUsageObject kind value)).map fun parts =>
      { parts with
        outputFinal := (kind = "message_delta" ∨ kind = "message_stop") ∧ parts.output.isSome }

/-! ### Observations -/

structure FrameObservation where
  terminal : Bool := false
  failed : Bool := false
  status : Nat := 0
  usage : Option TrustedUsage := none
  anthropicUsage : Option AnthropicUsageParts := none
  serviceTier : String := ""
deriving DecidableEq, Repr

/-- `len` of a string. -/
def byteLength (text : String) : Nat := (Utf8.encode text.toList).length

/-- A tier of at most 64 bytes. -/
def boundedServiceTier : Json ν → String
  | .string tier => if byteLength tier = 0 ∨ 64 < byteLength tier then "" else tier
  | _ => ""

def normalizedServiceTier (value : GoObject ν) : String :=
  let tier := boundedServiceTier (valueAt (objectValue (valueAt value "response")) "service_tier")
  if tier ≠ "" then tier else boundedServiceTier (valueAt value "service_tier")

def hasFinishReason : Json ν → Bool
  | .array choices => choices.any fun choice =>
    trimSpace (stringValue (valueAt (objectValue choice) "finish_reason")).toList ≠ []
  | _ => false

def nestedStatus (value : GoObject ν) : Nat :=
  let statuses := [["error", "status"], ["response", "status"], ["response", "error", "status"]].map
    fun path => (nestedInteger runtime value path).getD 0
  (statuses.find? (· ≠ 0)).getD 0

def inspectNormalizedObject (value : GoObject ν) : FrameObservation :=
  if value.isNone then {}
  else
    let eventType := loweredField runtime value "type"
    let object := loweredField runtime value "object"
    let responseStatus := loweredField runtime value "status"
    let failed : Bool := eventType ∈ ["response.failed", "response.incomplete", "error"]
    let completed : Bool := eventType ∈ ["response.completed", "response.done", "message_stop"]
    let finished := failed || completed || hasFinishReason (valueAt value "choices")
    let responseFailed : Bool := object = "response" ∧
      responseStatus ∈ ["failed", "incomplete", "cancelled", "canceled"]
    let responseCompleted : Bool := object = "response" ∧ responseStatus = "completed"
    let stopped : Bool := eventType = "message" ∧
      trimSpace (stringValue (valueAt value "stop_reason")).toList ≠ []
    let status := intNumber runtime (valueAt value "status")
    { terminal := finished || responseFailed || responseCompleted || stopped
      failed := failed || responseFailed
      status := if status = 0 then nestedStatus runtime value else status
      usage := normalizedUsage runtime value
      serviceTier := normalizedServiceTier value }

def inspectNormalizedJSON (payload : List UInt8) : FrameObservation :=
  inspectNormalizedObject runtime (decodeJSONObject runtime payload)

/-! ### Frames of an event stream -/

/-- Line ends as line feeds. -/
def normalizeLineEnds : List UInt8 → List UInt8
  | [] => []
  | 13 :: 10 :: rest => 10 :: normalizeLineEnds rest
  | 13 :: rest => 10 :: normalizeLineEnds rest
  | byte :: rest => byte :: normalizeLineEnds rest

/-- A line cut at its first colon, without a blank after it. -/
def cutField (line : List UInt8) : List UInt8 × List UInt8 :=
  let value := (line.dropWhile (· ≠ 58)).drop 1
  (line.takeWhile (· ≠ 58), match value with
    | 32 :: rest => rest
    | value => value)

def ascii (text : String) : List UInt8 := Utf8.encode text.toList

/-- The event name and the data of a frame. -/
def parseSSEFrame (frame : List UInt8) : String × List UInt8 :=
  let fields := ((normalizeLineEnds frame).splitOn 10).filterMap fun line =>
    match line with
    | [] => none
    | 58 :: _ => none
    | line => some (cutField line)
  let valuesOf := fun name : String =>
    (fields.filter fun field => field.1 = ascii name).map (·.2)
  (String.ofList (Utf8.decodeAll ((valuesOf "event").getLast?.getD [])),
    [10].intercalate (valuesOf "data"))

def usageEvents : List String :=
  ["response.completed", "response.done", "response.failed", "response.incomplete",
    "message_start", "message_delta", "message_stop", "error"]

def authoritativeSSEUsageEvent (eventName : String) (value : GoObject ν) (terminal : Bool) : Bool :=
  eventName ∈ usageEvents || loweredField runtime value "type" ∈ usageEvents ||
    terminal && loweredField runtime value "object" ∈ ["chat.completion.chunk", "chat.completion"]

def serviceTierEvents : List String :=
  ["response.created", "response.in_progress", "response.completed", "response.done",
    "response.failed", "response.incomplete"]

def authoritativeSSEServiceTierEvent (eventName : String) (value : GoObject ν) : Bool :=
  eventName ∈ serviceTierEvents || loweredField runtime value "type" ∈ serviceTierEvents ||
    loweredField runtime value "object" ∈ ["chat.completion.chunk", "chat.completion"]

/-- What an event says, with its name and its data. -/
def inspectSSEEvent (name : String) (value : GoObject ν) : FrameObservation :=
  let observation := inspectNormalizedObject runtime value
  let eventName := lowered runtime name
  let terminal := if loweredField runtime value "object" = "chat.completion.chunk" then
      observation.usage.isSome
    else observation.terminal
  let failing : Bool := eventName ∈ ["response.failed", "response.incomplete", "error"]
  let terminal := terminal || failing ||
    eventName ∈ ["response.completed", "response.done", "message_stop"]
  let authoritative := authoritativeSSEUsageEvent runtime eventName value terminal
  { terminal := terminal
    failed := observation.failed || failing
    status := observation.status
    usage := if authoritative then observation.usage else none
    anthropicUsage := if authoritative then anthropicSSEUsage runtime eventName value else none
    serviceTier := if authoritativeSSEServiceTierEvent runtime eventName value then
        observation.serviceTier
      else "" }

def inspectSSEFrame (frame : List UInt8) : FrameObservation :=
  let (eventName, data) := parseSSEFrame frame
  let value := decodeJSONObject runtime data
  if trimSpace (Utf8.decodeAll data) = "[DONE]".toList then {}
  -- the namespace of the middleware is reserved
  else if stringValue (valueAt value "type") = "cpa.basic.evidence" ∨
      eventName = "cpa.basic.evidence" then {}
  else inspectSSEEvent runtime eventName value

/-! ### Evidence -/

def failureClassForStatus (status : Nat) : String :=
  if status = 429 then "rate_limited"
  else if 500 ≤ status then "upstream_5xx"
  else "non_retryable"

def costExposureText : ProviderCostExposure → String
  | .notStarted => "not_started"
  | .accruing => "accruing"
  | .stopped => "stopped"

def finalUsageEvidenceText : ProviderFinalUsageEvidence → String
  | .absent => "absent"
  | .pending => "pending"
  | .final => "final"

structure Evidence where
  contract : String
  version : Nat
  providerAttemptRef : String
  costExposure : ProviderCostExposure
  finalUsageEvidence : ProviderFinalUsageEvidence
  failureClass : String := ""
  trustedUsage : Option TrustedUsage := none
  serviceTier : String := ""
deriving DecidableEq

/-- `omitempty`. -/
def nonEmpty (key text : String) : List (String × Json ν) :=
  if text = "" then [] else [(key, .string text)]

def usageJson (usage : TrustedUsage) : Json ν :=
  .object [("inputTokens", .number (runtime.format.ofNat usage.inputTokens)),
    ("cachedInputTokens", .number (runtime.format.ofNat usage.cachedInputTokens)),
    ("cacheWriteTokens", .number (runtime.format.ofNat usage.cacheWriteTokens)),
    ("outputTokens", .number (runtime.format.ofNat usage.outputTokens)),
    ("totalTokens", .number (runtime.format.ofNat usage.totalTokens)),
    ("source", .string usage.source)]

def evidenceJson (evidence : Evidence) : Json ν :=
  .object ([("contract", .string evidence.contract),
      ("version", .number (runtime.format.ofNat evidence.version)),
      ("providerAttemptRef", .string evidence.providerAttemptRef),
      ("costExposure", .string (costExposureText evidence.costExposure)),
      ("finalUsageEvidence", .string (finalUsageEvidenceText evidence.finalUsageEvidence))] ++
    nonEmpty "failureClass" evidence.failureClass ++
    (evidence.trustedUsage.map fun usage => ("trustedUsage", usageJson runtime usage)).toList ++
    nonEmpty "serviceTier" evidence.serviceTier)

/-- Characters that `json.Marshal` escapes beyond what JSON asks for. -/
def escapeHTML (c : Char) : List Char :=
  if c = '<' then "\\u003c".toList
  else if c = '>' then "\\u003e".toList
  else if c = '&' then "\\u0026".toList
  else if c = '\u2028' then "\\u2028".toList
  else if c = '\u2029' then "\\u2029".toList
  else [c]

def marshal (value : Json ν) : List UInt8 :=
  Utf8.encode ((Json.stringify runtime.format value).flatMap escapeHTML)

/-- The frame of an evidence event. -/
def evidenceSSEFrame (evidence : Evidence) : List UInt8 :=
  ascii "event: cpa.basic.evidence\n" ++ ascii "data: " ++
    marshal runtime (.object [("type", .string "cpa.basic.evidence"),
      ("envelope", evidenceJson runtime evidence)]) ++ [10, 10]

end Frely.CpaBasic
