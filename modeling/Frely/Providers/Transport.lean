import Frely.Providers.CliProxyClient

/-!
# The CPA transport

`CliProxyTransport.invoke` sends a request to CPA and answers with its response: a JSON body with
the evidence that came with it, or a stream of provider events.  `providerStream` is an asynchronous
generator; here it is the events it yields, and what it throws if it does.
-/

namespace Frely.Providers

open Frely.RequestExecution Frely.ProviderRuntime

variable {ν : Type}

/-! ### Requests -/

inductive ProviderRuntimeRequestKind where
  | chatCompletions
  | responses
  | messages
  | embeddings
  | models
deriving DecidableEq

/-- A number of the settings, which need not be an integer. -/
inductive SettingNumber where
  | integer (value : Int)
  | other
deriving DecidableEq

/-- `Number.isSafeInteger(value) && value > 0`. -/
def SettingNumber.isPositive : SettingNumber → Bool
  | integer value => IsSafeInteger value ∧ 0 < value
  | other => false

structure CliProxyTransportOptions where
  maxQueueFrames : Option SettingNumber := none
  streamIdleTimeoutMs : Option SettingNumber := none

structure AdapterProvider where
  id : String
  cpaInstanceId : String
  bindingRevision : SettingNumber
  credentialRefCount : SettingNumber
  credentialOwnership : String
  authMethod : String

structure ProviderAdapterRequest (ν : Type) where
  kind : ProviderRuntimeRequestKind
  provider : AdapterProvider
  sourceModel : Option String
  tarModel : String
  stream : Bool
  options : List (String × Json ν)
  providerAttemptId : String

def relayThrown (code message : String) (status : Nat) : Thrown ν :=
  .other { relay := some ⟨code, message, status⟩ }

/-- `/^[A-Za-z0-9](?:[A-Za-z0-9._-]{0,126}[A-Za-z0-9])?$/`; no other text of it is a dot. -/
def isCliProxyProviderId (value : String) : Bool :=
  let chars := value.toList
  1 ≤ chars.length && chars.length ≤ 128 &&
    chars.all (fun c => c.isAlphanum || c = '.' || c = '_' || c = '-') &&
    chars.head?.any Char.isAlphanum && chars.getLast?.any Char.isAlphanum

def assertProviderPrefix (providerId : String) : Except (Thrown ν) Unit :=
  if isCliProxyProviderId providerId then .ok ()
  else .error (.cliProxyError
    (protocolError "CLIProxyAPI Provider ID cannot be used as a model prefix"))

def assertCliProxyProvider (request : ProviderAdapterRequest ν) : Except (Thrown ν) Unit := do
  assertProviderPrefix request.provider.id
  if request.provider.cpaInstanceId = "" ∨ !request.provider.bindingRevision.isPositive ∨
      request.provider.credentialRefCount ≠ .integer 1 ∨
      request.provider.credentialOwnership ≠ "cpa-managed" ∨
      request.provider.authMethod ∉ ["oauth", "api-key", "credential-import"] then
    .error (relayThrown "cliproxy_binding_not_ready"
      "CLIProxyAPI Provider binding is not ready" 503)
  else .ok ()

def assertCliProxyRequest (request : ProviderAdapterRequest ν) : Except (Thrown ν) Unit := do
  assertCliProxyProvider request
  match request.kind with
  | .responses | .chatCompletions | .messages => .ok ()
  | .embeddings | .models =>
    .error (.cliProxyError (.new "cliproxy_endpoint_not_supported"
      "CLIProxyAPI does not support this endpoint" 400 { stage := .configuration }))

def cliProxyServerOwnedFields : List String := ["model", "stream", "store"]

def cliProxyForbiddenControlFields : List String :=
  ["headers", "baseurl", "providerurl", "apikey", "managementapikey", "authorization", "credential",
    "credentials", "credentialref", "proxy", "proxyurl", "signal", "timeout", "timeoutms",
    "transport", "websocketconnecttimeoutms", "maxretries", "maxretrydelayms", "fetch",
    "dispatcher", "agent", "onpayload", "onresponse", "ontransport", "ontransporterror", "onevent",
    "onchunk", "onerror", "fridaymaxcontexttokens"]

variable (runtime : CliProxyRuntime ν)

def normalizeControlFieldName (value : String) : String :=
  runtime.toLowerCase (String.ofList (value.toList.filter fun c => c ≠ '_' ∧ c ≠ '-'))

def sanitizeCliProxyPayload (payload : List (String × Json ν)) :
    Except (Thrown ν) (List (String × Json ν)) :=
  if payload.any fun member =>
      normalizeControlFieldName runtime member.1 ∈ cliProxyForbiddenControlFields then
    .error (relayThrown "provider_control_field_forbidden"
      "Provider transport control fields cannot be supplied by the request" 400)
  else .ok (payload.filter fun member => member.1 ∉ cliProxyServerOwnedFields)

def cliProxyPrefixedModel (providerId tarModel : String) : Except (Thrown ν) String := do
  assertProviderPrefix providerId
  if tarModel = "" ∨ tarModel.toList.head? = some '/' ∨
    trimmed tarModel.toList ≠ tarModel.toList then
    .error (relayThrown "cliproxy_target_model_invalid" "CLIProxyAPI target model is invalid" 500)
  else .ok (providerId ++ "/" ++ tarModel)

def cliProxyPayload (request : ProviderAdapterRequest ν) :
    Except (Thrown ν) (List (String × Json ν)) := do
  assertCliProxyRequest request
  let options ← sanitizeCliProxyPayload runtime request.options
  let prefixedModel ← cliProxyPrefixedModel request.provider.id request.tarModel
  let store : List (String × Json ν) :=
    if request.kind = .messages then [] else [("store", .bool false)]
  pure (options ++ [("model", .string prefixedModel), ("stream", .bool request.stream)] ++ store)

/-! ### Models of a response -/

/-- A model with the provider in front of it becomes the public one. -/
def publicMember (provider publicModel : String) (members : List (String × Json ν)) :
    List (String × Json ν) :=
  match Json.member? members "model" with
  | some (.string model) =>
    if (provider ++ "/").toList.isPrefixOf model.toList then
      Json.setMember members "model" (.string publicModel)
    else members
  | _ => members

def rewriteCliProxyModelForClient (value : Json ν) (request : ProviderAdapterRequest ν) : Json ν :=
  match value with
  | .object members =>
    let optionModel := match Json.member? request.options "model" with
      | some (.string model) => model
      | _ => request.tarModel
    let publicModel := request.sourceModel.getD optionModel
    let rewritten := publicMember request.provider.id publicModel members
    match Json.member? rewritten "response" with
    | some (.object response) =>
      .object (Json.setMember rewritten "response"
        (.object (publicMember request.provider.id publicModel response)))
    | _ => .object rewritten
  | value => value

/-! ### Server-sent events -/

def idleTimeout : CliProxyError :=
  .new "cliproxy_stream_idle_timeout" "CLIProxyAPI stream idle timeout exceeded" 504
    { retryable := true, stage := .streamRead }

/-- What the scanner throws. -/
def scannerThrown : SseThrown → Thrown ν
  | .cliProxyError error => .cliProxyError (protocolError error.message)
  | .other => .other { name := "Error" }

/-- `DEFAULT_CLIPROXY_SSE_RAW_BYTE_WORK_QUANTUM`. -/
def rawByteWorkQuantum : Nat := 2 * 1024 * 1024

structure SseReader (tokenizer : JsonTokenizer) where
  scanner : SseSemanticScanner tokenizer := {}
  framesSinceYield : Nat := 0
  bytesSinceYield : Nat := 0
  eventsReceived : Nat := 0

/-- The events of a stream, and the error or the result after them. -/
abbrev EventsThen (α : Type) := List CliProxySseEvent × Except CliProxyError α

def EventsThen.prepend {α : Type} (events : List CliProxySseEvent) (rest : EventsThen α) :
    EventsThen α :=
  (events ++ rest.1, rest.2)

/-- An error that is thrown and caught in the parser. -/
def caughtError (error : Thrown ν) (eventsReceived : Nat) (signal : Option (Abort ν)) :
    CliProxyError :=
  streamError error eventsReceived (signal.map (Abort.reason idleTimeout))

/-- The parser finds its signal aborted: it throws, and catches what it throws. -/
def signalError (abort : Abort ν) (eventsReceived : Nat) : CliProxyError :=
  (streamError (abort.reason idleTimeout) eventsReceived
    (some (abort.reason idleTimeout))).inStream eventsReceived

def SseReader.count {tokenizer : JsonTokenizer} (reader : SseReader tokenizer) :
    CliProxySseEvent → SseReader tokenizer
  | .event _ _ _ =>
    { reader with
      eventsReceived := reader.eventsReceived + 1, framesSinceYield := 0, bytesSinceYield := 0 }
  | .done => { reader with framesSinceYield := 0, bytesSinceYield := 0 }

/-- A pause lets other work run, after which the signal is looked at. -/
def SseReader.pause {tokenizer : JsonTokenizer} (reader : SseReader tokenizer)
    (signal : Option (Abort ν)) : Except CliProxyError (SseReader tokenizer) :=
  match signal with
  | some abort => .error (signalError abort reader.eventsReceived)
  | none => .ok { reader with framesSinceYield := 0, bytesSinceYield := 0 }

/-- The reader after a byte, and the event the byte completes. -/
def SseReader.push {tokenizer : JsonTokenizer} (reader : SseReader tokenizer) (maxQueueFrames : Nat)
    (read : BodyRead ν) (position : Nat) (byte : UInt8) :
    Except CliProxyError (Option CliProxySseEvent × SseReader tokenizer) :=
  match reader.scanner.push byte with
  | .error thrown => .error (caughtError (scannerThrown thrown) reader.eventsReceived read.caught)
  | .ok (complete, scanner) =>
    let reader := { reader with scanner := scanner, bytesSinceYield := reader.bytesSinceYield + 1 }
    match complete with
    | some ⟨some event⟩ => .ok (some event, reader.count event)
    | some ⟨none⟩ =>
      let reader := { reader with framesSinceYield := reader.framesSinceYield + 1 }
      if maxQueueFrames ≤ reader.framesSinceYield ∨ rawByteWorkQuantum ≤ reader.bytesSinceYield then
        (reader.pause (read.paused position)).map fun reader => (none, reader)
      else .ok (none, reader)
    | none =>
      if rawByteWorkQuantum ≤ reader.bytesSinceYield then
        (reader.pause (read.paused position)).map fun reader => (none, reader)
      else .ok (none, reader)

/-- The bytes of a chunk from `position` on. -/
def readChunk {tokenizer : JsonTokenizer} (maxQueueFrames : Nat) (read : BodyRead ν)
    (reader : SseReader tokenizer) (position : Nat) :
    List UInt8 → EventsThen (SseReader tokenizer)
  | [] => ([], .ok reader)
  | byte :: rest =>
    match reader.push maxQueueFrames read position byte with
    | .error error => ([], .error error)
    | .ok (event, reader) =>
      (readChunk maxQueueFrames read reader (position + 1) rest).prepend event.toList

/-- The events of the reads of a body. -/
def readEvents {tokenizer : JsonTokenizer} (maxQueueFrames : Nat) (caught : Option (Abort ν))
    (reader : SseReader tokenizer) : List (BodyRead ν) → EventsThen Unit
  | [] =>
    match reader.scanner.finish with
    | .error thrown =>
      ([], .error (caughtError (scannerThrown thrown) reader.eventsReceived caught))
    | .ok (event, _) => (event.toList, .ok ())
  | read :: rest =>
    match read.aborted with
    | some abort => ([], .error (signalError abort reader.eventsReceived))
    | none =>
      match read.pull.read (bodyTimeout true) with
      | .error thrown => ([], .error (caughtError thrown reader.eventsReceived read.caught))
      | .ok bytes =>
        let (events, result) := readChunk maxQueueFrames read reader 1 bytes
        match result with
        | .error error => (events, .error error)
        | .ok reader => (readEvents maxQueueFrames caught reader rest).prepend events

/-- `parseCliProxySse`. -/
def bodyEvents (options : CliProxyTransportOptions) (body : Body ν) : EventsThen Unit :=
  match options.maxQueueFrames.getD (.integer 128) with
  | .integer (.ofNat (limit + 1)) =>
    if IsSafeInteger (limit + 1) then
      readEvents (limit + 1) body.caught ({} : SseReader runtime.tokenizer) body.reads
    else ([], .error (protocolError "CLIProxyAPI SSE limits are invalid"))
  | _ => ([], .error (protocolError "CLIProxyAPI SSE limits are invalid"))

/-! ### Provider events -/

inductive ProviderStreamTerminal where
  | succeeded (evidence : ProviderExecutionEvidence) (usage : Option ProviderUsage)
    (serviceTier : Option String)
  | failed (code message : String) (retryable : Bool)
    (diagnostic : Option ProviderFetchDiagnostic) (failure : ProviderAttemptFailure)

inductive ProviderStreamEvent (ν : Type) where
  | chunk (data : Json ν) (terminal : Option ProviderStreamTerminal)
  | error (code message : String) (retryable : Bool)
    (diagnostic : Option ProviderFetchDiagnostic) (failure : ProviderAttemptFailure)
  | done (usage : Option ProviderUsage) (serviceTier : Option String)
    (evidence : ProviderExecutionEvidence)

/-- What a stream yields, and what it throws in the end if it does. -/
structure ProviderStream (ν : Type) where
  events : List (ProviderStreamEvent ν)
  thrown : Option (Thrown ν) := none

def projectCpaEvidence (envelope : CpaBasicEvidenceEnvelope) : ProviderExecutionEvidence :=
  ⟨envelope.costExposure, envelope.finalUsageEvidence, envelope.trustedUsage⟩

def hasType (value : Json ν) (type : String) : Bool :=
  match memberOf value "type" with
  | .string text => text = type
  | _ => false

/-- A status of an error that stands in an event. -/
def eventStatus (value : Json ν) : Nat :=
  match memberOf value "status" with
  | .number number =>
    match runtime.format.toNat? number with
    | some status => if 400 ≤ status ∧ status ≤ 599 then status else 502
    | none => 502
  | _ => 502

def cliProxyEventError (value : Json ν) (eventsReceived : Nat) : CliProxyError :=
  let classified := cliProxyHttpError (eventStatus runtime value) value
  (CliProxyError.new classified.code classified.message classified.status
    { retryable := classified.retryable
      stage := .streamRead
      costExposure := some classified.costExposure
      finalUsageEvidence := some classified.finalUsageEvidence
      failureReason := classified.failureReason
      details := classified.details }).inStream eventsReceived

/-- The class that CPA declares, with the evidence that CPA gives. -/
def envelopeFailure (failureClass : ProviderFailureClass)
    (failureReason : Option ProviderCredentialFailureReason)
    (evidence : ProviderExecutionEvidence) :
    ProviderAttemptFailure :=
  ⟨failureClass, failureReason, evidence.costExposure, evidence.finalUsageEvidence,
    evidence.trustedUsage⟩

/-- The event with the evidence before it ends the stream. -/
def terminalEvents (envelope : CpaBasicEvidenceEnvelope) (data : Json ν) (eventsReceived : Nat) :
    List (ProviderStreamEvent ν) :=
  let evidence := projectCpaEvidence envelope
  match envelope.failureClass with
  | some failureClass =>
    let error := cliProxyEventError runtime data eventsReceived
    let failure := envelopeFailure failureClass (cliProxyAttemptFailure error).failureReason
      evidence
    let retryable : Bool := failure.failureClass ≠ .nonRetryable
    [.chunk data (some (.failed error.code error.message retryable error.diagnostic failure)),
      .error error.code error.message retryable error.diagnostic failure]
  | none =>
    [.chunk data (some (.succeeded evidence evidence.trustedUsage envelope.serviceTier)),
      .done evidence.trustedUsage envelope.serviceTier evidence]

def errorEvent (error : CliProxyError) : ProviderStreamEvent ν :=
  .error error.code error.message error.retryable error.diagnostic (cliProxyAttemptFailure error)

def errorEventOf (data : Json ν) (eventsReceived : Nat) : ProviderStreamEvent ν :=
  let error := cliProxyEventError runtime data eventsReceived
  let failure := unresolvedProviderFailure (cliProxyAttemptFailure error).failureClass
  .error error.code error.message (failure.failureClass ≠ .nonRetryable) error.diagnostic failure

/-- What the loop over the events keeps. -/
structure StreamState where
  cpaEvidence : Option CpaBasicEvidenceEnvelope := none
  evidenceInvalid : Bool := false
  eventsReceived : Nat := 0
  doneMarker : Bool := false

def wireTerminalError (message : String) : CliProxyError :=
  .new "cliproxy_sse_terminal_invalid" message 502 { stage := .protocol }

def StreamState.received (state : StreamState) : StreamState :=
  { state with eventsReceived := state.eventsReceived + 1 }

/-- Evidence is taken once; any that is invalid, or a second one, spoils it. -/
def StreamState.takeEvidence (state : StreamState) (parsed : Option CpaBasicEvidenceEnvelope) :
    StreamState :=
  if parsed.isNone ∨ state.cpaEvidence.isSome then
    { state with evidenceInvalid := true, cpaEvidence := none }
  else { state with cpaEvidence := parsed }

/-- The evidence that the next event carries. -/
def StreamState.evidence (state : StreamState) : Option CpaBasicEvidenceEnvelope :=
  if state.evidenceInvalid then none else state.cpaEvidence

/-- The loop over the events of a body, of which `result` is the end. -/
def streamFrom (request : ProviderAdapterRequest ν) (result : Except CliProxyError Unit)
    (state : StreamState) : List CliProxySseEvent → List (ProviderStreamEvent ν)
  | [] =>
    match result with
    | .ok () => [.done none none unresolvedProviderExecutionEvidence]
    | .error error => [errorEvent (error.inStream state.eventsReceived)]
  | .done :: rest =>
    if state.doneMarker then
      [errorEvent ((wireTerminalError
        "CLIProxyAPI stream contained duplicate wire terminal markers").inStream
          state.eventsReceived)]
    else streamFrom request result { state with doneMarker := true } rest
  | .event _ value _ :: rest =>
    if state.doneMarker then
      [errorEvent ((wireTerminalError
        "CLIProxyAPI stream contained data after its wire terminal marker").inStream
          state.eventsReceived)]
    else
      let state := state.received
      let value := valueOf runtime value
      if hasType value "cpa.basic.evidence" then
        streamFrom request result (state.takeEvidence
          (parseCpaBasicStreamEvidenceEvent runtime.format value request.providerAttemptId)) rest
      else
        let data := rewriteCliProxyModelForClient value request
        match state.evidence with
        | some envelope => terminalEvents runtime envelope data state.eventsReceived
        | none =>
          if hasType data "error" then [errorEventOf runtime data state.eventsReceived]
          else .chunk data none :: streamFrom request result state rest

def streamLimitError : CliProxyError :=
  .new "cliproxy_stream_limit_invalid" "CLIProxyAPI stream limit is invalid" 500
    { retryable := false, stage := .configuration }

/-- `DEFAULT_CLIPROXY_STREAM_IDLE_TIMEOUT_MS`. -/
def defaultStreamIdleTimeoutMs : Int := 10 * 60000

def providerStream (options : CliProxyTransportOptions) (request : ProviderAdapterRequest ν)
    (body : Body ν) : ProviderStream ν :=
  if (options.streamIdleTimeoutMs.getD (.integer defaultStreamIdleTimeoutMs)).isPositive then
    let (events, result) := bodyEvents runtime options body
    ⟨streamFrom runtime request result {} events, none⟩
  else ⟨[], some (.cliProxyError streamLimitError)⟩

/-! ### Responses -/

structure ProviderAdapterResponse (ν : Type) where
  status : Nat
  headers : List (String × String) := []
  body : Json ν := .null
  stream : Option (ProviderStream ν) := none
  usage : Option ProviderUsage := none
  serviceTier : Option String := none
  evidence : Option ProviderExecutionEvidence := none
  failure : Option ProviderAttemptFailure := none

def cliProxyErrorResponse (error : CliProxyError) : ProviderAdapterResponse ν where
  status := error.status
  failure := some (cliProxyAttemptFailure error)
  body := cliProxyErrorBody error

/-- The response in an envelope whose evidence is not taken. -/
def cpaJsonPublicBody (value : Json ν) : Json ν :=
  match value with
  | .object record =>
    if stringField record "contract" = some "cpa-basic-json@1" then
      (Json.member? record "response").getD value
    else value
  | value => value

def jsonResponse (request : ProviderAdapterRequest ν) (result : CliProxyJsonResult ν) :
    ProviderAdapterResponse ν :=
  let envelope := parseCpaBasicJsonEnvelope runtime.format result.body request.providerAttemptId
  let evidence := (envelope.map fun envelope => projectCpaEvidence envelope.2).getD
    unresolvedProviderExecutionEvidence
  let publicBody := (envelope.map (·.1)).getD (cpaJsonPublicBody result.body)
  let declared := envelope.bind fun envelope => envelope.2.failureClass
  if 400 ≤ result.status then
    let error := cliProxyHttpError result.status publicBody
    { cliProxyErrorResponse error with
      headers := result.headers
      evidence := some evidence
      failure := some (match declared with
        | some failureClass => envelopeFailure failureClass error.failureReason evidence
        | none => cliProxyAttemptFailure error) }
  else
    { status := result.status
      headers := result.headers
      body := rewriteCliProxyModelForClient publicBody request
      evidence := some evidence
      failure := declared.map fun failureClass => envelopeFailure failureClass none evidence
      usage := if evidence.finalUsageEvidence = .final then evidence.trustedUsage else none
      serviceTier := envelope.bind fun envelope => envelope.2.serviceTier }

def isEventStream (response : Response ν) : Bool :=
  (response.header "content-type").any fun value => hasWord (lowerAscii value) "text/event-stream"

def streamingResponse (options : CliProxyTransportOptions) (request : ProviderAdapterRequest ν)
    (response : Response ν) : ProviderAdapterResponse ν :=
  match response.body with
  | none => cliProxyErrorResponse (.new "cliproxy_stream_missing"
      "CLIProxyAPI stream body is missing" 502 { stage := .responseHeaders })
  | some body =>
    if isEventStream response then
      { status := response.status
        headers := safeCliProxyResponseHeaders response
        stream := some (providerStream runtime options request body) }
    else cliProxyErrorResponse (.new "cliproxy_stream_content_type_invalid"
      "CLIProxyAPI did not return an SSE stream" 502 { stage := .responseHeaders })

/-! ### Invocations -/

/-- How a call of `invoke` ends, and whether it called `fetch`. -/
structure Invocation (ν : Type) where
  fetched : Bool
  result : Except (Thrown ν) (ProviderAdapterResponse ν)

/-- The handler of `invoke`: a `RelayError` of another package is thrown again. -/
def caught : Thrown ν → Except (Thrown ν) (ProviderAdapterResponse ν)
  | .cliProxyError error => .ok (cliProxyErrorResponse error)
  | .other thrown =>
    if thrown.relay.isSome then .error (.other thrown)
    else .ok (cliProxyErrorResponse (normalizedError (.other thrown)))

/-- What `invoke` makes of the response of the client. -/
def answer (options : CliProxyTransportOptions) (request : ProviderAdapterRequest ν)
    (exchange : Exchange ν) : Except (Thrown ν) (ProviderAdapterResponse ν) :=
  match afterFetch runtime exchange with
  | .error error => caught (.cliProxyError error)
  | .ok response =>
    if request.stream ∧ response.ok then .ok (streamingResponse runtime options request response)
    else
      match readJson runtime (bodyTimeout request.stream) response with
      | .error error => caught (.cliProxyError error)
      | .ok result => .ok (jsonResponse runtime request result)

/-- What is done before `fetch` is called. -/
def prepare (config : CliProxyConfig) (request : ProviderAdapterRequest ν) :
    Except (Thrown ν) Unit := do
  assertCliProxyRequest request
  let _ ← cliProxyPayload runtime request
  beforeFetch config (request.kind = .messages) request.providerAttemptId

def invoke (options : CliProxyTransportOptions) (config : CliProxyConfig)
    (request : ProviderAdapterRequest ν) (exchange : Exchange ν) : Invocation ν :=
  match prepare runtime config request with
  | .error thrown => ⟨false, caught thrown⟩
  | .ok () => ⟨true, answer runtime options request exchange⟩

end Frely.Providers
