import Frely.Providers.Transport
import Frely.RequestExecution.Equiv.Server

/-!
# What is said of an attempt that was dispatched

Once `fetch` has been called, an attempt may have cost something.  Every error that can be thrown
from then on says so (`Dispatched`), with one exception: `providerStream` checks its idle timeout
when the stream is read, and calls a bad one a configuration error.  `invoke_dispatched_iff` says
that this is the only way to report such an attempt as not started, unless CPA itself did.
-/

namespace Frely.Providers

open Frely.RequestExecution Frely.ProviderRuntime

variable {ν : Type}

/-! ### Errors -/

variable {error : CliProxyError} {exchange : Exchange ν} {streaming : Bool} {thrown : Thrown ν}

/-- A thrown value that does not say that nothing was started. -/
def Dispatched (thrown : Thrown ν) : Prop :=
  ∀ error, thrown = .cliProxyError error → error.costExposure ≠ .notStarted

theorem dispatched_cliProxyError :
    Dispatched (.cliProxyError error : Thrown ν) ↔ error.costExposure ≠ .notStarted := by
  refine ⟨fun h => h error rfl, fun h other heq => ?_⟩
  obtain rfl := Thrown.cliProxyError.inj heq
  exact h

theorem dispatched_other (thrown : OtherThrown ν) : Dispatched (.other thrown) :=
  fun _ h => nomatch h

theorem costExposure_inStream (error : CliProxyError) (eventsReceived : Nat) :
    (error.inStream eventsReceived).costExposure = error.costExposure := by
  unfold CliProxyError.inStream
  split_ifs <;> rfl

theorem costExposure_cliProxyHttpError (status : Nat) (body : Json ν) :
    (cliProxyHttpError status body).costExposure = .accruing := by
  unfold cliProxyHttpError
  dsimp only
  split <;> rfl

theorem costExposure_streamAborted (reason : Thrown ν) (eventsReceived : Nat) :
    (streamAborted reason eventsReceived).costExposure = .accruing := by
  unfold streamAborted
  split_ifs <;> rfl

theorem dispatched_reason {timer : CliProxyError} (htimer : timer.costExposure ≠ .notStarted)
    (abort : Abort ν) : Dispatched (abort.reason timer) := by
  cases abort with
  | external reason => exact reason.dispatched
  | timer => exact dispatched_cliProxyError.mpr htimer

theorem streamError_dispatched {error : Thrown ν} (h : Dispatched error) (eventsReceived : Nat)
    (aborted : Option (Thrown ν)) :
    (streamError error eventsReceived aborted).costExposure ≠ .notStarted := by
  cases error with
  | cliProxyError error =>
    have hsame : (streamError (.cliProxyError error) eventsReceived aborted).costExposure =
        error.costExposure := costExposure_inStream error eventsReceived
    rw [hsame]
    exact dispatched_cliProxyError.mp h
  | other thrown =>
    cases aborted with
    | some reason =>
      have hsame : (streamError (.other thrown) eventsReceived (some reason)).costExposure =
          .accruing := costExposure_streamAborted reason eventsReceived
      rw [hsame]
      exact nofun
    | none => exact nofun

theorem cliProxyFetchError_dispatched {error : Thrown ν} (h : Dispatched error)
    {aborted : Option (Thrown ν)} (haborted : ∀ reason, aborted = some reason → Dispatched reason) :
    (cliProxyFetchError error aborted).costExposure ≠ .notStarted := by
  cases error with
  | cliProxyError error => exact dispatched_cliProxyError.mp h
  | other thrown =>
    cases aborted with
    | none => exact nofun
    | some reason =>
      cases reason with
      | cliProxyError reason => exact dispatched_cliProxyError.mp (haborted _ rfl)
      | other reason => exact nofun

variable (runtime : CliProxyRuntime ν)

theorem afterFetch_dispatched (h : afterFetch runtime exchange = .error error) :
    error.costExposure ≠ .notStarted := by
  have htimer : responseHeadersTimeout.costExposure ≠ .notStarted := nofun
  cases exchange with
  | rejected thrown aborted =>
    obtain rfl := Except.error.inj h
    refine cliProxyFetchError_dispatched thrown.dispatched ?_
    intro reason hreason
    obtain ⟨abort, -, rfl⟩ := Option.map_eq_some_iff.mp hreason
    exact dispatched_reason htimer abort
  | aborted abort =>
    obtain rfl := Except.error.inj h
    have hreason := dispatched_reason htimer abort
    refine cliProxyFetchError_dispatched hreason ?_
    rintro reason hsome
    obtain rfl := Option.some.inj hsome
    exact hreason
  | resolved response =>
    unfold afterFetch at h
    dsimp only at h
    split_ifs at h
    obtain rfl := Except.error.inj h
    rw [costExposure_cliProxyHttpError]
    exact nofun

theorem read_dispatched {pull : Pull ν} (h : pull.read (bodyTimeout streaming) = .error thrown) :
    Dispatched thrown := by
  cases pull with
  | chunk bytes => cases h
  | failed error =>
    obtain rfl := Except.error.inj h
    exact error.dispatched
  | aborted abort =>
    obtain rfl := Except.error.inj h
    refine dispatched_reason ?_ abort
    cases streaming <;> exact nofun

theorem readValue_dispatched {json : JsonBody runtime.tokenizer} {reads : List (BodyRead ν)}
    (h : readValue runtime (bodyTimeout streaming) json reads = .error thrown) :
    Dispatched thrown := by
  induction reads generalizing json with
  | nil =>
    unfold readValue at h
    split at h
    · cases h
    · obtain rfl := Except.error.inj h
      exact dispatched_other _
  | cons read rest ih =>
    unfold readValue at h
    split at h
    · next hread =>
      obtain rfl := Except.error.inj h
      exact read_dispatched hread
    · split at h
      · exact ih h
      · obtain rfl := Except.error.inj h
        exact dispatched_other _

theorem readJson_dispatched {response : Response ν}
    (h : readJson runtime (bodyTimeout streaming) response = .error error) :
    error.costExposure ≠ .notStarted := by
  have hbody : ∀ error, readResponseJson runtime (bodyTimeout streaming) response = .error error →
      error.costExposure ≠ .notStarted := by
    intro error h
    unfold readResponseJson at h
    split at h
    · cases h
    · split at h
      · next hread =>
        obtain rfl := Except.error.inj h
        exact dispatched_cliProxyError.mp (readValue_dispatched runtime hread)
      · obtain rfl := Except.error.inj h
        exact nofun
      · split at h
        · cases h
        · split_ifs at h
          obtain rfl := Except.error.inj h
          exact nofun
  unfold readJson at h
  split_ifs at h
  · cases hread : readResponseJson runtime (bodyTimeout streaming) response with
    | error thrown =>
      rw [hread] at h
      obtain rfl := Except.error.inj h
      exact hbody _ hread
    | ok body =>
      rw [hread] at h
      cases h
  · obtain rfl := Except.error.inj h
    exact nofun

/-! ### Reading events -/

variable {tokenizer : JsonTokenizer} {maxQueueFrames : Nat}

theorem caughtError_dispatched (h : Dispatched thrown) (eventsReceived : Nat)
    (signal : Option (Abort ν)) :
    (caughtError thrown eventsReceived signal).costExposure ≠ .notStarted :=
  streamError_dispatched h eventsReceived _

theorem scannerThrown_dispatched (thrown : SseThrown) :
    Dispatched (scannerThrown thrown : Thrown ν) := by
  cases thrown with
  | cliProxyError error => exact dispatched_cliProxyError.mpr nofun
  | other => exact dispatched_other _

theorem signalError_dispatched (abort : Abort ν) (eventsReceived : Nat) :
    (signalError abort eventsReceived).costExposure ≠ .notStarted := by
  have hidle : idleTimeout.costExposure ≠ .notStarted := nofun
  unfold signalError
  rw [costExposure_inStream]
  exact streamError_dispatched (dispatched_reason hidle abort) eventsReceived _

theorem push_dispatched {reader : SseReader tokenizer} {read : BodyRead ν} {position : Nat}
    {byte : UInt8} (h : reader.push maxQueueFrames read position byte = .error error) :
    error.costExposure ≠ .notStarted := by
  have hpause : ∀ (reader : SseReader tokenizer) (signal : Option (Abort ν)),
      ((reader.pause signal).map fun reader => ((none : Option CliProxySseEvent), reader)) =
        .error error → error.costExposure ≠ .notStarted := by
    intro reader signal h
    cases signal with
    | none => cases h
    | some abort =>
      obtain rfl := Except.error.inj h
      exact signalError_dispatched abort _
  unfold SseReader.push at h
  split at h
  · obtain rfl := Except.error.inj h
    exact caughtError_dispatched (scannerThrown_dispatched _) _ _
  · dsimp only at h
    split at h
    · cases h
    · split_ifs at h
      exact hpause _ _ h
    · split_ifs at h
      exact hpause _ _ h

theorem readChunk_dispatched {read : BodyRead ν} {reader : SseReader tokenizer} {position : Nat}
    {bytes : List UInt8}
    (h : (readChunk maxQueueFrames read reader position bytes).2 = .error error) :
    error.costExposure ≠ .notStarted := by
  induction bytes generalizing reader position with
  | nil => cases h
  | cons byte rest ih =>
    unfold readChunk at h
    split at h
    · next hpush =>
      obtain rfl := Except.error.inj h
      exact push_dispatched hpush
    · exact ih h

theorem readEvents_dispatched {caught : Option (Abort ν)} {reader : SseReader tokenizer}
    {reads : List (BodyRead ν)}
    (h : (readEvents maxQueueFrames caught reader reads).2 = .error error) :
    error.costExposure ≠ .notStarted := by
  induction reads generalizing reader with
  | nil =>
    unfold readEvents at h
    split at h
    · obtain rfl := Except.error.inj h
      exact caughtError_dispatched (scannerThrown_dispatched _) _ _
    · cases h
  | cons read rest ih =>
    unfold readEvents at h
    split at h
    · obtain rfl := Except.error.inj h
      exact signalError_dispatched _ _
    · split at h
      · next hread =>
        obtain rfl := Except.error.inj h
        exact caughtError_dispatched (read_dispatched hread) _ _
      · next bytes hread =>
        revert h
        cases hchunk : readChunk maxQueueFrames read reader 1 bytes with
        | mk events result =>
          dsimp only
          intro h
          cases result with
          | error thrown =>
            obtain rfl := Except.error.inj h
            exact readChunk_dispatched (congrArg Prod.snd hchunk)
          | ok reader => exact ih h

theorem bodyEvents_dispatched {options : CliProxyTransportOptions} {body : Body ν}
    (h : (bodyEvents runtime options body).2 = .error error) :
    error.costExposure ≠ .notStarted := by
  unfold bodyEvents at h
  split at h
  · split_ifs at h
    · exact readEvents_dispatched h
    · obtain rfl := Except.error.inj h
      exact nofun
  · obtain rfl := Except.error.inj h
    exact nofun

/-! ### Reports -/

variable {accepted : List CpaBasicEvidenceEnvelope} {report : ProviderExecutionEvidence}
  {envelope : CpaBasicEvidenceEnvelope}

/-- What a failure says of the cost. -/
def failureEvidence (failure : ProviderAttemptFailure) : ProviderExecutionEvidence :=
  ⟨failure.costExposure, failure.finalUsageEvidence, failure.trustedUsage⟩

/-- The evidence of a terminal. -/
def terminalReport : ProviderStreamTerminal → ProviderExecutionEvidence
  | .succeeded evidence _ _ => evidence
  | .failed _ _ _ _ failure => failureEvidence failure

/-- The evidence that an event brings. -/
def eventReports : ProviderStreamEvent ν → List ProviderExecutionEvidence
  | .chunk _ terminal => (terminal.map terminalReport).toList
  | .error _ _ _ _ failure => [failureEvidence failure]
  | .done _ _ evidence => [evidence]

/-- What is derived from a thrown value. -/
def thrownReport (thrown : Thrown ν) : ProviderExecutionEvidence :=
  failureEvidence (providerFailureFromThrown runtime.format thrown.value)

/-- The evidence that a stream brings. -/
def streamReports (stream : ProviderStream ν) : List ProviderExecutionEvidence :=
  stream.events.flatMap eventReports ++ (stream.thrown.map (thrownReport runtime)).toList

/-- The evidence that a response brings. -/
def responseReports (response : ProviderAdapterResponse ν) : List ProviderExecutionEvidence :=
  response.evidence.toList ++ (response.failure.map failureEvidence).toList ++
    (response.stream.map (streamReports runtime)).getD []

/-- All that an invocation says of the cost of its attempt, to the end of its stream. -/
def Invocation.reports (invocation : Invocation ν) : List ProviderExecutionEvidence :=
  match invocation.result with
  | .ok response => responseReports runtime response
  | .error thrown => [thrownReport runtime thrown]

/-- The envelopes that the loop over the events accepts. -/
def streamEnvelopes (request : ProviderAdapterRequest ν) (state : StreamState) :
    List CliProxySseEvent → List CpaBasicEvidenceEnvelope
  | [] => []
  | .done :: rest =>
    if state.doneMarker then [] else streamEnvelopes request { state with doneMarker := true } rest
  | .event _ value _ :: rest =>
    if state.doneMarker then []
    else
      let state := state.received
      let value := valueOf runtime value
      if hasType value "cpa.basic.evidence" then
        let parsed :=
          parseCpaBasicStreamEvidenceEvent runtime.format value request.providerAttemptId
        parsed.toList ++ streamEnvelopes request (state.takeEvidence parsed) rest
      else if state.evidence.isSome ∨
          hasType (rewriteCliProxyModelForClient value request) "error" = true then []
      else streamEnvelopes request state rest

/-- The setting that the stream checks when it is read. -/
def ValidIdleTimeout (options : CliProxyTransportOptions) : Prop :=
  (options.streamIdleTimeoutMs.getD (.integer defaultStreamIdleTimeoutMs)).isPositive = true

instance (options : CliProxyTransportOptions) : Decidable (ValidIdleTimeout options) :=
  inferInstanceAs (Decidable (_ = true))

/-- The response is passed on as a stream. -/
def Streams (request : ProviderAdapterRequest ν) (exchange : Exchange ν) : Prop :=
  ∃ response body, exchange = .resolved response ∧ response.body = some body ∧
    request.stream = true ∧ response.ok = true ∧ isEventStream response = true

/-- The envelopes that are accepted for an attempt. -/
def acceptedEnvelopes (options : CliProxyTransportOptions)
    (request : ProviderAdapterRequest ν) (exchange : Exchange ν) :
    List CpaBasicEvidenceEnvelope :=
  match afterFetch runtime exchange with
  | .error _ => []
  | .ok response =>
    if request.stream ∧ response.ok then
      match response.body with
      | some body =>
        if isEventStream response = true ∧ ValidIdleTimeout options then
          streamEnvelopes runtime request {} (bodyEvents runtime options body).1
        else []
      | none => []
    else
      match readJson runtime (bodyTimeout request.stream) response with
      | .error _ => []
      | .ok result =>
        ((parseCpaBasicJsonEnvelope runtime.format result.body request.providerAttemptId).map
          (·.2)).toList

/-- A report that an attempt was not started has an envelope behind it, and so has a decision to
release the attempt. -/
structure Backed (accepted : List CpaBasicEvidenceEnvelope) (report : ProviderExecutionEvidence) :
    Prop where
  exposure : report.costExposure = .notStarted →
    ∃ envelope ∈ accepted, envelope.costExposure = .notStarted
  arbitration : ∀ input : ProviderAttemptFailureArbitrationInput,
    input.costExposure = report.costExposure →
    (arbitrateProviderAttemptFailure input).settlement = .releaseNotStarted →
    ∃ envelope ∈ accepted, envelope.costExposure = .notStarted

theorem backed_of_report {accepted : List CpaBasicEvidenceEnvelope}
    {report : ProviderExecutionEvidence}
    (h : report.costExposure = .notStarted →
      ∃ envelope ∈ accepted, envelope.costExposure = .notStarted) : Backed accepted report where
  exposure := h
  arbitration input hsame hrelease := by
    have hexposure := ((arbitrateProviderAttemptFailure_release input).mp hrelease).1
    exact h (hsame.symm.trans hexposure)

theorem backed_of_ne (h : report.costExposure ≠ .notStarted) : Backed accepted report :=
  backed_of_report fun hreport => absurd hreport h

theorem backed_of_mem {accepted : List CpaBasicEvidenceEnvelope}
    {report : ProviderExecutionEvidence} {envelope : CpaBasicEvidenceEnvelope}
    (hmem : envelope ∈ accepted) (h : report.costExposure = envelope.costExposure) :
    Backed accepted report :=
  backed_of_report fun hreport => ⟨envelope, hmem, h.symm.trans hreport⟩

theorem Backed.mono {more : List CpaBasicEvidenceEnvelope} (h : Backed accepted report)
    (hsub : accepted ⊆ more) : Backed more report :=
  backed_of_report fun hreport => by
    obtain ⟨envelope, hmem, hexposure⟩ := h.exposure hreport
    exact ⟨envelope, hsub hmem, hexposure⟩

/-! ### Streams -/

theorem terminalEvents_backed (hmem : envelope ∈ accepted) (data : Json ν) (eventsReceived : Nat) :
    ∀ report ∈ (terminalEvents runtime envelope data eventsReceived).flatMap eventReports,
      Backed accepted report := by
  unfold terminalEvents
  dsimp only
  cases envelope.failureClass with
  | some failureClass =>
    intro report hreport
    simp only [List.flatMap_cons, List.flatMap_nil, List.append_nil, eventReports, terminalReport,
      Option.map_some, Option.toList_some, List.cons_append, List.nil_append, List.mem_cons,
      List.not_mem_nil, or_false, or_self] at hreport
    rw [hreport]
    exact backed_of_mem hmem rfl
  | none =>
    intro report hreport
    simp only [List.flatMap_cons, List.flatMap_nil, List.append_nil, eventReports, terminalReport,
      Option.map_some, Option.toList_some, List.cons_append, List.nil_append, List.mem_cons,
      List.not_mem_nil, or_false, or_self] at hreport
    rw [hreport]
    exact backed_of_mem hmem rfl

theorem errorEvent_backed (h : error.costExposure ≠ .notStarted) :
    ∀ report ∈ [(errorEvent error : ProviderStreamEvent ν)].flatMap eventReports,
      Backed accepted report := by
  intro report hreport
  simp only [List.flatMap_cons, List.flatMap_nil, List.append_nil, errorEvent, eventReports,
    List.mem_singleton] at hreport
  rw [hreport]
  exact backed_of_ne h

/-- Whatever the loop yields is backed by the evidence it has taken, or takes. -/
theorem streamFrom_backed (request : ProviderAdapterRequest ν) {result : Except CliProxyError Unit}
    (hresult : ∀ error, result = .error error → error.costExposure ≠ .notStarted)
    (state : StreamState) (events : List CliProxySseEvent) :
    ∀ report ∈ (streamFrom runtime request result state events).flatMap eventReports,
      Backed (state.cpaEvidence.toList ++ streamEnvelopes runtime request state events) report := by
  have hwire : ∀ message eventsReceived,
      ((wireTerminalError message).inStream eventsReceived).costExposure ≠ .notStarted := by
    intro message eventsReceived
    rw [costExposure_inStream]
    exact nofun
  -- over the events; the evidence taken so far is part of the state
  induction events generalizing state with
  | nil =>
    unfold streamFrom
    cases result with
    | ok u =>
      intro report hreport
      simp only [List.flatMap_cons, List.flatMap_nil, List.append_nil, eventReports,
        List.mem_singleton] at hreport
      rw [hreport]
      exact backed_of_ne nofun
    | error error =>
      refine errorEvent_backed ?_
      rw [costExposure_inStream]
      exact hresult error rfl
  | cons event rest ih =>
    cases event with
    | done =>
      unfold streamFrom streamEnvelopes
      cases hdone : state.doneMarker with
      | true => exact errorEvent_backed (hwire _ _)
      | false => exact ih { state with doneMarker := true }
    | event name value dataBytes =>
      unfold streamFrom streamEnvelopes
      cases hdone : state.doneMarker with
      -- nothing may follow the `[DONE]` marker
      | true => exact errorEvent_backed (hwire _ _)
      | false =>
        simp only [Bool.false_eq_true, if_false]
        generalize valueOf runtime value = value
        -- an event with evidence yields nothing, and what it brings backs the rest
        by_cases hevidence : hasType value "cpa.basic.evidence" = true
        · rw [if_pos hevidence, if_pos hevidence]
          generalize parseCpaBasicStreamEvidenceEvent runtime.format value
            request.providerAttemptId = parsed
          intro report hreport
          refine (ih (state.received.takeEvidence parsed) report hreport).mono ?_
          have htaken : (state.received.takeEvidence parsed).cpaEvidence.toList ⊆
            parsed.toList := by
            unfold StreamState.takeEvidence
            split_ifs
            · exact List.nil_subset _
            · exact List.Subset.refl _
          intro envelope hmem
          rcases List.mem_append.mp hmem with hfirst | hlater
          · exact List.mem_append_right _ (List.mem_append_left _ (htaken hfirst))
          · exact List.mem_append_right _ (List.mem_append_right _ hlater)
        · rw [if_neg hevidence, if_neg hevidence]
          -- once there is evidence, the next other event is the last one
          cases hknown : state.received.evidence with
          | some envelope =>
            have hmem : envelope ∈ state.cpaEvidence.toList := by
              unfold StreamState.evidence StreamState.received at hknown
              dsimp only at hknown
              split_ifs at hknown
              rw [hknown]
              exact List.mem_singleton.mpr rfl
            exact terminalEvents_backed runtime (List.mem_append_left _ hmem) _ _
          | none =>
            simp only [Option.isSome_none, Bool.false_eq_true, false_or]
            by_cases herror : hasType (rewriteCliProxyModelForClient value request) "error" = true
            · rw [if_pos herror]
              intro report hreport
              simp only [List.flatMap_cons, List.flatMap_nil, List.append_nil, errorEventOf,
                eventReports, List.mem_singleton] at hreport
              rw [hreport]
              exact backed_of_ne nofun
            · rw [if_neg herror, if_neg herror]
              exact ih state.received

/-! ### Invocations -/

theorem errorResponse_backed (h : error.costExposure ≠ .notStarted) :
    ∀ report ∈ responseReports runtime (cliProxyErrorResponse error : ProviderAdapterResponse ν),
      Backed accepted report := by
  intro report hreport
  have hsame : report = failureEvidence (cliProxyAttemptFailure error) :=
    List.mem_singleton.mp hreport
  rw [hsame]
  exact backed_of_ne h

theorem jsonResponse_backed (request : ProviderAdapterRequest ν) (result : CliProxyJsonResult ν) :
    ∀ report ∈ responseReports runtime (jsonResponse runtime request result),
      Backed ((parseCpaBasicJsonEnvelope runtime.format result.body
        request.providerAttemptId).map (·.2)).toList report := by
  unfold jsonResponse
  dsimp only
  cases parseCpaBasicJsonEnvelope runtime.format result.body request.providerAttemptId with
  -- without an envelope nothing is reported as not started
  | none =>
    intro report hreport
    refine backed_of_ne ?_
    simp only [Option.map_none, Option.getD_none, Option.bind_none] at hreport
    by_cases hstatus : 400 ≤ result.status
    · rw [if_pos hstatus] at hreport
      simp only [responseReports, cliProxyErrorResponse, Option.toList_some, Option.map_some,
        Option.map_none, Option.getD_none, List.append_nil, List.cons_append, List.nil_append,
        List.mem_cons, List.not_mem_nil, or_false] at hreport
      rcases hreport with rfl | rfl
      · exact nofun
      · unfold failureEvidence cliProxyAttemptFailure
        dsimp only
        rw [costExposure_cliProxyHttpError]
        exact nofun
    · rw [if_neg hstatus] at hreport
      simp only [responseReports, Option.toList_some, Option.map_none, Option.toList_none,
        Option.getD_none, List.append_nil, List.mem_singleton] at hreport
      rw [hreport]
      exact nofun
  -- what is reported is read from the envelope, or from the status of the answer
  | some envelope =>
    obtain ⟨response, envelope⟩ := envelope
    intro report hreport
    have hmem : envelope ∈ [envelope] := List.mem_singleton.mpr rfl
    simp only [Option.map_some, Option.getD_some, Option.bind_some] at hreport
    by_cases hstatus : 400 ≤ result.status
    · rw [if_pos hstatus] at hreport
      simp only [responseReports, cliProxyErrorResponse, Option.toList_some, Option.map_some,
        Option.map_none, Option.getD_none, List.append_nil, List.cons_append, List.nil_append,
        List.mem_cons, List.not_mem_nil, or_false] at hreport
      rcases hreport with rfl | rfl
      · exact backed_of_mem hmem rfl
      · cases envelope.failureClass with
        | some failureClass => exact backed_of_mem hmem rfl
        | none =>
          refine backed_of_ne ?_
          unfold failureEvidence cliProxyAttemptFailure
          dsimp only
          rw [costExposure_cliProxyHttpError]
          exact nofun
    · rw [if_neg hstatus] at hreport
      simp only [responseReports, Option.toList_some, Option.map_none, Option.getD_none,
        List.append_nil, List.cons_append, List.nil_append, List.mem_cons] at hreport
      rcases hreport with rfl | hreport
      · exact backed_of_mem hmem rfl
      · cases hclass : envelope.failureClass with
        | none =>
          rw [hclass] at hreport
          cases hreport
        | some failureClass =>
          rw [hclass] at hreport
          rw [List.mem_singleton.mp hreport]
          exact backed_of_mem hmem rfl

/-- What the stream throws at a bad setting. -/
theorem thrownReport_streamLimitError :
    (thrownReport runtime (.cliProxyError streamLimitError)).costExposure = .notStarted := by
  have hversion : safeCount runtime.format
      (some (.number (runtime.format.ofNat 1))) = some 1 := by
    simp [safeCount, runtime.format.toNat?_ofNat]
  have hfailure : (Thrown.cliProxyError streamLimitError : Thrown ν).value.failure runtime.format =
      [("version", .number (runtime.format.ofNat 1)), ("failureClass", .string "non_retryable"),
        ("costExposure", .string "not_started"), ("finalUsageEvidence", .string "absent")] := by
    have htimeout : hasWord (lowerAscii "cliproxy_stream_limit_invalid") "timeout" = false := by
      decide
    have hconnect : ["fetch", "connect", "socket", "network"].any
        (hasWord (lowerAscii "cliproxy_stream_limit_invalid")) = false := by
      decide
    have hretryable : isRetryableUpstreamCode "cliproxy_stream_limit_invalid" = false := by
      decide
    have hreason : credentialFailureReason? "cliproxy_stream_limit_invalid" = none := by
      decide
    simp [ThrownValue.failure, ThrownValue.failureClass, Thrown.value, streamLimitError,
      CliProxyError.new, CliProxyErrorOptions.exposure, htimeout, hconnect, hretryable, hreason,
      copiedMember, Json.member?_cons, Json.member?_nil, failureClassText, providerCostExposureText,
      providerFinalUsageEvidenceText]
  unfold thrownReport failureEvidence providerFailureFromThrown parseProviderAttemptFailure
  rw [hfailure]
  dsimp only [Option.getD_some]
  have hdeclared : declaredFailure runtime.format
      [("version", .number (runtime.format.ofNat 1)), ("failureClass", .string "non_retryable"),
        ("costExposure", .string "not_started"), ("finalUsageEvidence", .string "absent")] =
        some ⟨.nonRetryable, none, .notStarted, .absent, none⟩ := by
    unfold declaredFailure
    have hlookup : Json.member? [("version", .number (runtime.format.ofNat 1)),
        ("failureClass", .string "non_retryable"), ("costExposure", .string "not_started"),
        ("finalUsageEvidence", .string "absent")] "version" =
          some (.number (runtime.format.ofNat 1)) := rfl
    rw [hlookup, hversion, if_neg (by simp [attemptFailureKeys])]
    rfl
  rw [hdeclared]
  rfl

theorem afterFetch_ok {response : Response ν} (h : afterFetch runtime exchange = .ok response) :
    exchange = .resolved response := by
  cases exchange with
  | rejected error aborted => cases h
  | aborted abort => cases h
  | resolved found =>
    unfold afterFetch at h
    dsimp only at h
    split_ifs at h
    rw [Except.ok.inj h]

theorem afterFetch_streams {request : ProviderAdapterRequest ν} (h : Streams request exchange) :
    ∃ response, exchange = .resolved response ∧ afterFetch runtime exchange = .ok response := by
  obtain ⟨response, body, rfl, -, -, hok, -⟩ := h
  refine ⟨response, rfl, ?_⟩
  unfold afterFetch
  dsimp only
  rw [if_neg (by simp [hok])]

theorem errorResponse_answer (h : error.costExposure ≠ .notStarted) :
    ∀ report ∈ (Invocation.mk true (caught (.cliProxyError error : Thrown ν))).reports runtime,
      Backed accepted report :=
  errorResponse_backed runtime h

/-- The stream is backed exactly if its setting is valid. -/
theorem providerStream_backed_iff (options : CliProxyTransportOptions)
    (request : ProviderAdapterRequest ν) (body : Body ν) :
    (∀ report ∈ streamReports runtime (providerStream runtime options request body),
      Backed (if ValidIdleTimeout options then
        streamEnvelopes runtime request {} (bodyEvents runtime options body).1 else []) report) ↔
      ValidIdleTimeout options := by
  by_cases hvalid : ValidIdleTimeout options
  · refine iff_of_true ?_ hvalid
    have hstream : providerStream runtime options request body =
        ⟨streamFrom runtime request (bodyEvents runtime options body).2 {}
          (bodyEvents runtime options body).1, none⟩ := if_pos hvalid
    rw [if_pos hvalid, hstream, streamReports, Option.map_none, Option.toList_none,
      List.append_nil]
    exact streamFrom_backed runtime request (fun error => bodyEvents_dispatched runtime) {} _
  · refine iff_of_false ?_ hvalid
    have hstream : providerStream runtime options request body =
        ⟨[], some (.cliProxyError streamLimitError)⟩ := if_neg hvalid
    rw [if_neg hvalid, hstream]
    intro hall
    have hreport := hall (thrownReport runtime (.cliProxyError streamLimitError))
      (List.mem_singleton.mpr rfl)
    obtain ⟨envelope, hmem, -⟩ := hreport.exposure (thrownReport_streamLimitError runtime)
    cases hmem

/-- **An attempt that was dispatched** is reported as not started, or released, only on the word of
CPA, exactly if it has no stream or the idle timeout of streams is a positive integer. -/
theorem invoke_dispatched_iff (options : CliProxyTransportOptions) (config : CliProxyConfig)
    (request : ProviderAdapterRequest ν) (exchange : Exchange ν)
    (hfetched : (invoke runtime options config request exchange).fetched = true) :
    (∀ report ∈ (invoke runtime options config request exchange).reports runtime,
      Backed (acceptedEnvelopes runtime options request exchange) report) ↔
      (Streams request exchange → ValidIdleTimeout options) := by
  have hinvoke : invoke runtime options config request exchange =
      ⟨true, answer runtime options request exchange⟩ := by
    unfold invoke at hfetched ⊢
    split at hfetched
    · cases hfetched
    · rfl
  rw [hinvoke]
  unfold answer acceptedEnvelopes
  -- without a stream all reports are backed, and the idle timeout does not matter
  cases hafter : afterFetch runtime exchange with
  | error error =>
    refine iff_of_true (errorResponse_answer runtime (afterFetch_dispatched runtime hafter)) ?_
    intro hstreams
    obtain ⟨response, -, hok⟩ := afterFetch_streams runtime hstreams
    rw [hafter] at hok
    cases hok
  | ok response =>
    have hexchange := afterFetch_ok runtime hafter
    dsimp only
    by_cases hstream : request.stream = true ∧ response.ok = true
    · rw [if_pos hstream, if_pos hstream]
      cases hbody : response.body with
      | none =>
        have hanswer : streamingResponse runtime options request response =
            cliProxyErrorResponse (.new "cliproxy_stream_missing"
              "CLIProxyAPI stream body is missing" 502 { stage := .responseHeaders }) := by
          unfold streamingResponse
          rw [hbody]
        rw [hanswer]
        refine iff_of_true (errorResponse_backed runtime nofun) ?_
        rintro ⟨other, body, hother, hsome, -⟩
        obtain rfl := Exchange.resolved.inj (hexchange.symm.trans hother)
        rw [hbody] at hsome
        cases hsome
      | some body =>
        by_cases hevents : isEventStream response = true
        · have hanswer : streamingResponse runtime options request response =
              { status := response.status
                headers := safeCliProxyResponseHeaders response
                stream := some (providerStream runtime options request body) } := by
            unfold streamingResponse
            rw [hbody]
            exact if_pos hevents
          -- the one case with a stream
          have hstreams : Streams request exchange :=
            ⟨response, body, hexchange, hbody, hstream.1, hstream.2, hevents⟩
          rw [hanswer, imp_iff_right hstreams]
          simp only [hevents, true_and]
          exact providerStream_backed_iff runtime options request body
        · have hanswer : streamingResponse runtime options request response =
              cliProxyErrorResponse (.new "cliproxy_stream_content_type_invalid"
                "CLIProxyAPI did not return an SSE stream" 502 { stage := .responseHeaders }) := by
            unfold streamingResponse
            rw [hbody]
            exact if_neg hevents
          rw [hanswer]
          refine iff_of_true (errorResponse_backed runtime nofun) ?_
          rintro ⟨other, -, hother, -, -, -, hother'⟩
          obtain rfl := Exchange.resolved.inj (hexchange.symm.trans hother)
          exact absurd hother' hevents
    · rw [if_neg hstream, if_neg hstream]
      have hnone : ¬Streams request exchange := by
        rintro ⟨other, -, hother, -, hrequest, hok, -⟩
        obtain rfl := Exchange.resolved.inj (hexchange.symm.trans hother)
        exact hstream ⟨hrequest, hok⟩
      refine iff_of_true ?_ fun hstreams => absurd hstreams hnone
      cases hread : readJson runtime (bodyTimeout request.stream) response with
      | error error => exact errorResponse_answer runtime (readJson_dispatched runtime hread)
      | ok result => exact jsonResponse_backed runtime request result

/-! ### A stream without a timeout -/

/-- A runtime for responses without events. -/
def quietRuntime : CliProxyRuntime Nat where
  format := Json.natFormat
  tokenizer :=
    { State := Unit, start := (), write := fun _ _ => none, finish := fun _ => some [] }
  number _ := 0
  toLowerCase := lowerAscii

def streamRequest : ProviderAdapterRequest Nat where
  kind := .responses
  provider :=
    { id := "provider-1"
      cpaInstanceId := "cpa-1"
      bindingRevision := .integer 1
      credentialRefCount := .integer 1
      credentialOwnership := "cpa-managed"
      authMethod := "oauth" }
  sourceModel := none
  tarModel := "model-1"
  stream := true
  options := []
  providerAttemptId := "attempt-1"

def inferenceConfig : CliProxyConfig := ⟨"http://cli-proxy-api:8317", some "key"⟩

/-- A stream that ends at once. -/
def emptyStream : Exchange Nat :=
  .resolved ⟨200, [("content-type", "text/event-stream")], some ⟨[], none⟩⟩

theorem emptyStream_fetched :
    (invoke quietRuntime {} inferenceConfig streamRequest emptyStream).fetched = true := by
  decide

theorem emptyStream_dispatched :
    (invoke quietRuntime {} inferenceConfig streamRequest emptyStream).fetched = true ∧
      ∀ report ∈ (invoke quietRuntime {} inferenceConfig streamRequest emptyStream).reports
          quietRuntime,
        Backed (acceptedEnvelopes quietRuntime {} streamRequest emptyStream) report :=
  ⟨emptyStream_fetched, (invoke_dispatched_iff quietRuntime {} inferenceConfig streamRequest
    emptyStream emptyStream_fetched).mpr fun _ => by decide⟩

/-- With an idle timeout of 0, a stream that CPA has opened is reported as not started. -/
theorem zeroIdleTimeout_notStarted :
    (invoke quietRuntime { streamIdleTimeoutMs := some (.integer 0) } inferenceConfig streamRequest
        emptyStream).fetched = true ∧
      acceptedEnvelopes quietRuntime { streamIdleTimeoutMs := some (.integer 0) } streamRequest
        emptyStream = [] ∧
      ∃ report ∈ (invoke quietRuntime { streamIdleTimeoutMs := some (.integer 0) } inferenceConfig
          streamRequest emptyStream).reports quietRuntime,
        report.costExposure = .notStarted ∧
          (arbitrateProviderAttemptFailure
            { costExposure := report.costExposure
              finalUsageEvidence := report.finalUsageEvidence
              hasTrustedFinalUsage := report.trustedUsage.isSome
              outputCommitted := false
              requestCancelled := false }).settlement = .releaseNotStarted := by
  refine ⟨by decide, by decide,
    thrownReport quietRuntime (.cliProxyError streamLimitError), ?_, ?_, ?_⟩
  · decide
  · decide
  · decide

end Frely.Providers
