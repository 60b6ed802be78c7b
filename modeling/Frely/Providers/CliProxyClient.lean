import Frely.Providers.CliProxyErrors
import Frely.Providers.Sse

/-!
# Requests to CPA

`request` calls `fetch` and guards the response with the timeouts of the client; `readJson` reads a
JSON response.  What `fetch`, the body of a response and the abort signals do is an input: an
`Exchange` says how the call of `fetch` ends, and a body gives one `BodyRead` after the other.
-/

namespace Frely.Providers

open Frely.RequestExecution Frely.ProviderRuntime Utf8

variable {ν : Type}

/-- What comes from outside the package: any value, but no `CliProxyError` that says that nothing
was started.  The package makes those for its own settings only. -/
structure Outside (ν : Type) where
  thrown : Thrown ν
  dispatched : ∀ error, thrown = .cliProxyError error → error.costExposure ≠ .notStarted

/-- Why a signal is aborted: the caller's signal, with its reason, or the timer that is set. -/
inductive Abort (ν : Type) where
  | external (reason : Outside ν)
  | timer

def Abort.reason (timer : CliProxyError) : Abort ν → Thrown ν
  | external reason => reason.thrown
  | .timer => .cliProxyError timer

/-- One read of the body that `fetch` gives. -/
inductive Pull (ν : Type) where
  | chunk (bytes : List UInt8)
  | failed (error : Outside ν)
  /-- The signal of the request is aborted before, or while, the body is read. -/
  | aborted (abort : Abort ν)

/-- A read of a body, with the signal of the event stream: when the chunk is asked for or awaited,
at a pause after so many bytes of it, and when an error is caught. -/
structure BodyRead (ν : Type) where
  pull : Pull ν
  aborted : Option (Abort ν) := none
  paused : Nat → Option (Abort ν) := fun _ => none
  caught : Option (Abort ν) := none

structure Body (ν : Type) where
  reads : List (BodyRead ν)
  /-- The signal of the event stream when an error is caught at the end of the body. -/
  caught : Option (Abort ν) := none

structure Response (ν : Type) where
  status : Nat
  headers : List (String × String)
  body : Option (Body ν)

/-- How a call of `fetch` ends. -/
inductive Exchange (ν : Type) where
  | rejected (error : Outside ν) (aborted : Option (Abort ν))
  /-- It rejects with the reason of the signal. -/
  | aborted (abort : Abort ν)
  | resolved (response : Response ν)

structure CliProxyRuntime (ν : Type) where
  format : Json.NumberFormat ν
  tokenizer : JsonTokenizer
  /-- `Number` on the text of a number. -/
  number : JsString → ν
  toLowerCase : String → String

/-! ### Headers -/

def Response.header (response : Response ν) (name : String) : Option String :=
  response.headers.lookup name

def Response.ok (response : Response ν) : Bool := 200 ≤ response.status && response.status ≤ 299

/-- The values of headers are Latin-1, so the other letters do not matter here. -/
def isJsonContentType (response : Response ν) : Bool :=
  match response.header "content-type" with
  | none => false
  | some value =>
    let mediaType := (trimmed (value.toList.takeWhile (· ≠ ';'))).map Char.toLower
    mediaType = "application/json".toList || "+json".toList.isSuffixOf mediaType

def safeCliProxyResponseHeaders (response : Response ν) : List (String × String) :=
  ["content-type", "x-request-id", "retry-after"].filterMap fun name =>
    (response.header name).map fun value => (name, value)

/-- What `Headers.set` takes: no NUL and no line end inside, and Latin-1 only. -/
def isHeaderValue (value : String) : Bool :=
  let isBlank (c : Char) : Bool := c ∈ ['\t', '\n', '\r', ' ']
  let chars := ((value.toList.dropWhile isBlank).reverse.dropWhile isBlank).reverse
  chars.all fun c => c.toNat ≤ 255 && c ∉ ['\x00', '\n', '\r']

/-! ### Values -/

/-- The text of code units; a surrogate without its pair is replaced. -/
def textOfUnits (value : JsString) : String :=
  String.ofList (Json.ofUnits (value.map UInt16.toNat))

section Values

variable (runtime : CliProxyRuntime ν)

mutual

def valueOf : JsonValue → Json ν
  | .null => .null
  | .bool value => .bool value
  | .number literal => .number (runtime.number literal)
  | .string value => .string (textOfUnits value)
  | .array items => .array (valuesOf items)
  | .object members => .object (membersOf members)

def valuesOf : List JsonValue → List (Json ν)
  | [] => []
  | item :: rest => valueOf item :: valuesOf rest

def membersOf : List (JsString × JsonValue) → List (String × Json ν)
  | [] => []
  | member :: rest => (textOfUnits member.1, valueOf member.2) :: membersOf rest

end

end Values

/-! ### Bodies -/

/-- What a reader of the guarded body gets: the reason of the signal once it is aborted. -/
def Pull.read (timer : CliProxyError) : Pull ν → Except (Thrown ν) (List UInt8)
  | chunk bytes => .ok bytes
  | failed error => .error error.thrown
  | aborted abort => .error (abort.reason timer)

/-- The bytes of an error body, if all of it can be read and it is not too long. -/
def readResponseTextBounded (maxBytes : Nat) (bytes : List UInt8) :
    List (BodyRead ν) → Option (List UInt8)
  | [] => some bytes
  | read :: rest =>
    match read.pull with
    | .chunk more =>
      if maxBytes < (bytes ++ more).length then none
      else readResponseTextBounded maxBytes (bytes ++ more) rest
    | .failed _ | .aborted _ => none

/-- `TextDecoder` takes a byte order mark away. -/
def withoutMark : List Char → List Char
  | '\ufeff' :: rest => rest
  | text => text

def cliProxyErrorBodyMaxBytes : Nat := 64 * 1024

section Client

variable (runtime : CliProxyRuntime ν)

def safeErrorBody (response : Response ν) : Json ν :=
  let bytes := match response.body with
    | none => some []
    | some body => readResponseTextBounded cliProxyErrorBodyMaxBytes [] body.reads
  ((bytes.bind fun bytes => Json.parse runtime.format (withoutMark (decodeAll bytes)))).getD .null

/-- A parser of a body, and whether a byte order mark can still come. -/
structure JsonBody (tokenizer : JsonTokenizer) where
  parser : StreamingJsonValueParser tokenizer := {}
  leading : Bool := true

def JsonBody.write {tokenizer : JsonTokenizer} (body : JsonBody tokenizer) (bytes : List UInt8) :
    Option (JsonBody tokenizer) := do
  let (decoder, decoded) := body.parser.decoder.decode bytes
  let text := if body.leading then withoutMark decoded else decoded
  let parser ← { body.parser with decoder := decoder }.writeDecoded text
  pure { parser := parser, leading := body.leading && decoded.isEmpty }

/-- The value of a body, or what a read, or the parser, threw. -/
def readValue (timer : CliProxyError) (json : JsonBody runtime.tokenizer) :
    List (BodyRead ν) → Except (Thrown ν) StreamingJsonResult
  | [] =>
    match json.parser.finish with
    | some result => .ok result
    | none => .error (.other {})
  | read :: rest =>
    match read.pull.read timer with
    | .error thrown => .error thrown
    | .ok bytes =>
      match json.write bytes with
      | some json => readValue timer json rest
      | none => .error (.other {})

def readResponseJson (timer : CliProxyError) (response : Response ν) :
    Except CliProxyError (Json ν) :=
  match response.body with
  | none => .ok (.object [])
  | some body =>
    match readValue runtime timer {} body.reads with
    | .error (.cliProxyError error) => .error error
    | .error (.other _) => .error (protocolError "CLIProxyAPI returned invalid JSON")
    | .ok result =>
      match result.value with
      | some value => .ok (valueOf runtime value)
      | none =>
        if result.decodedByteLength = 0 then .ok (.object [])
        else .error (protocolError "CLIProxyAPI returned invalid JSON")

structure CliProxyJsonResult (ν : Type) where
  status : Nat
  headers : List (String × String)
  body : Json ν

def readJson (timer : CliProxyError) (response : Response ν) :
    Except CliProxyError (CliProxyJsonResult ν) :=
  if isJsonContentType response then do
    let body ← readResponseJson runtime timer response
    pure ⟨response.status, safeCliProxyResponseHeaders response, body⟩
  else .error (protocolError "CLIProxyAPI did not return a JSON response")

/-! ### Timeouts -/

def responseHeadersTimeout : CliProxyError :=
  .new "cliproxy_timeout" "CLIProxyAPI response headers timed out" 504
    { retryable := true
      stage := .responseHeaders
      costExposure := some .accruing
      finalUsageEvidence := some .pending }

/-- The timer of a body. -/
def bodyTimeout (streaming : Bool) : CliProxyError :=
  if streaming then
    .new "cliproxy_stream_lifetime_limit" "CLIProxyAPI stream lifetime limit exceeded" 504
      { retryable := false, stage := .streamRead }
  else
    .new "cliproxy_timeout" "CLIProxyAPI response body timed out" 504
      { retryable := true, stage := .request }

/-! ### Requests -/

structure CliProxyConfig where
  baseUrl : String
  apiKey : Option String

/-- What is done before `fetch` is called. -/
def beforeFetch (config : CliProxyConfig) (messages : Bool) (requestId : String) :
    Except (Thrown ν) Unit :=
  match config.apiKey with
  | none | some "" =>
    .error (.cliProxyError (cliProxyConfigurationError
      "CLIProxyAPI inference credential is not configured"))
  | some apiKey =>
    if isHeaderValue requestId && isHeaderValue (if messages then apiKey else "Bearer " ++ apiKey)
    then .ok ()
    else .error (.other { name := "TypeError" })

/-- What `request` makes of the end of `fetch`; the evidence contract has been negotiated. -/
def afterFetch (exchange : Exchange ν) : Except CliProxyError (Response ν) :=
  match exchange with
  | .rejected error aborted =>
    .error (cliProxyFetchError error.thrown (aborted.map (Abort.reason responseHeadersTimeout)))
  | .aborted abort =>
    let reason := abort.reason responseHeadersTimeout
    .error (cliProxyFetchError reason (some reason))
  | .resolved response =>
    if !response.ok ∧ !isJsonContentType response then
      .error (cliProxyHttpError response.status (safeErrorBody runtime response))
    else .ok response

end Client

end Frely.Providers
