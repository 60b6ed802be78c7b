import Frely.Cliproxy.Equiv.CpaBasicEnvelope
import Frely.Cliproxy.Equiv.CpaBasicWriter

/-!
# One response in two forms

A response is sent as a JSON body or as the events of a stream (`Forms`).  `respond_json` and
`respond_stream` say which evidence the middleware adds to either form.
-/

namespace Frely.CpaBasic

open Frely.RequestExecution Frely.ProviderRuntime

variable {ν : Type} (runtime : GoRuntime ν) (request : Negotiated)

/-! ### JSON bodies -/

variable {writer : EvidenceWriter} {body : List UInt8}

/-- The response is JSON by its header. -/
def IsJSON : Prop := (({} : EvidenceWriter).refreshMode runtime request).mode = .json

theorem refreshMode_eq (h : writer.mode = .undecided) :
    writer.refreshMode runtime request =
      { writer with mode := (({} : EvidenceWriter).refreshMode runtime request).mode } := by
  unfold EvidenceWriter.refreshMode
  rw [if_neg (not_not.mpr h), if_neg (not_not.mpr rfl)]
  split_ifs
  · rfl
  · rfl
  · rfl
  · rw [← h]

/-- What a body says, if it can be inspected. -/
def inspectBody (body : List UInt8) : FrameObservation :=
  if request.cancelled body.length = false ∧ body.length ≤ maxJSONInspectionBytes ∧
      runtime.valid body = true then inspectNormalizedJSON runtime body
  else {}

/-- The evidence of a body. -/
def jsonBodyEvidence (status : Nat) (body : List UInt8) : Evidence :=
  bodyEvidence request status (request.cancelled body.length) (inspectBody runtime request body)

/-- The writer of a JSON body, after some payloads of it. -/
structure Wraps (status : Nat) (body : List UInt8) (writer : EvidenceWriter) : Prop where
  mode : writer.mode = .undecided ∨ writer.mode = .json
  status : writer.status = status
  size : writer.size.getD 0 = body.length
  unfinished : writer.finished = false
  bypass : writer.jsonBypass = false
  started : writer.jsonStarted = true ↔ body ≠ []
  closed : writer.inspectionClosed = true ↔ maxJSONInspectionBytes < body.length
  inspection : writer.inspection = body.take maxJSONInspectionBytes
  written : writer.written = if body = [] then [] else ascii cpaBasicJSONPrefix ++ body

theorem wraps_start (status : Nat) : Wraps status [] { status := status } where
  mode := .inl rfl
  status := rfl
  size := rfl
  unfinished := rfl
  bypass := rfl
  started := by simp
  closed := by simp
  inspection := rfl
  written := rfl

/-- The inspection goes on, up to its size. -/
theorem inspectJSON_eq
    (hclosed : writer.inspectionClosed = true ↔ maxJSONInspectionBytes < body.length)
    (hinspection : writer.inspection = body.take maxJSONInspectionBytes) (payload : List UInt8) :
    ∃ closed, (closed = true ↔ maxJSONInspectionBytes < (body ++ payload).length) ∧
      writer.inspectJSON payload =
        { writer with
          inspection := (body ++ payload).take maxJSONInspectionBytes
          inspectionClosed := closed } := by
  have hlength : (body ++ payload).length = body.length + payload.length := List.length_append
  unfold EvidenceWriter.inspectJSON
  by_cases hlong : maxJSONInspectionBytes < body.length
  · refine ⟨true, iff_of_true rfl (by omega), ?_⟩
    rw [if_pos (hclosed.mpr hlong), List.take_append_of_le_length (Nat.le_of_lt hlong),
      ← hinspection, ← hclosed.mpr hlong]
  · rw [if_neg (fun htrue => hlong (hclosed.mp htrue))]
    have hbody : writer.inspection = body := by
      rw [hinspection, List.take_of_length_le (Nat.not_lt.mp hlong)]
    refine ⟨decide (min (maxJSONInspectionBytes - body.length) payload.length < payload.length),
      ?_, ?_⟩
    · rw [decide_eq_true_iff]
      omega
    · dsimp only
      have htake : payload.take (min (maxJSONInspectionBytes - body.length) payload.length) =
          payload.take (maxJSONInspectionBytes - body.length) := by
        rw [← List.take_take, List.take_length]
      rw [hbody, List.take_append, List.take_of_length_le (Nat.not_lt.mp hlong), htake]

theorem startJSON_eq (hstarted : writer.jsonStarted = true ↔ body ≠ [])
    (hwritten : writer.written = if body = [] then [] else ascii cpaBasicJSONPrefix ++ body) :
    ∃ committed, writer.startJSON =
      { writer with
        jsonStarted := true, committed := committed
        written := ascii cpaBasicJSONPrefix ++ body } := by
  unfold EvidenceWriter.startJSON
  by_cases hempty : body = []
  · rw [if_neg (fun htrue => hstarted.mp htrue hempty)]
    refine ⟨true, ?_⟩
    rw [if_pos hempty] at hwritten
    unfold EvidenceWriter.commit EvidenceWriter.send
    rw [hempty, hwritten]
    rfl
  · have htrue := hstarted.mpr hempty
    rw [if_pos htrue]
    refine ⟨writer.committed, ?_⟩
    rw [if_neg hempty] at hwritten
    rw [← hwritten, ← htrue]

section Body

variable (hjson : IsJSON runtime request) (hfault : request.fault = none)

include hjson

theorem refreshMode_json (h : writer.mode = .undecided ∨ writer.mode = .json) :
    writer.refreshMode runtime request = { writer with mode := .json } := by
  rcases h with hmode | hmode
  · rw [refreshMode_eq runtime request hmode, hjson]
  · unfold EvidenceWriter.refreshMode
    rw [if_pos (by rw [hmode]; decide), ← hmode]

include hfault

theorem write_wraps {status : Nat} (h : Wraps status body writer) (payload : List UInt8) :
    Wraps status (body ++ payload) (writer.write runtime request payload) := by
  have hwrite : writer.write runtime request payload =
      { writer with size := some (body.length + payload.length), mode := .json }.writeJSON
        request payload := by
    unfold EvidenceWriter.write
    rw [if_neg (by rw [h.unfinished]; exact Bool.false_ne_true), h.size]
    dsimp only
    rw [refreshMode_json runtime request hjson (by exact h.mode)]
  rw [hwrite, EvidenceWriter.writeJSON]
  by_cases hempty : payload = []
  · subst hempty
    rw [if_pos rfl, List.append_nil]
    exact ⟨.inr rfl, h.status, rfl, h.unfinished, h.bypass, h.started, h.closed, h.inspection,
      h.written⟩
  · rw [if_neg hempty, if_neg (by rw [hfault]; exact nofun)]
    let sized : EvidenceWriter :=
      { writer with size := some (body.length + payload.length), mode := .json }
    have hsizedStarted : sized.jsonStarted = true ↔ body ≠ [] := h.started
    obtain ⟨committed, hstart⟩ := startJSON_eq hsizedStarted h.written
    have hsizedClosed : sized.startJSON.inspectionClosed = true ↔
        maxJSONInspectionBytes < body.length := by
      rw [hstart]
      exact h.closed
    obtain ⟨closed, hclosed, hinspect⟩ := inspectJSON_eq hsizedClosed
      (by rw [hstart]; exact h.inspection) payload
    have hne : body ++ payload ≠ [] := fun hnil => hempty (List.append_eq_nil_iff.mp hnil).2
    rw [hinspect, hstart]
    constructor
    · exact .inr rfl
    · exact h.status
    · exact List.length_append.symm
    · exact h.unfinished
    · exact h.bypass
    · exact iff_of_true rfl hne
    · exact hclosed
    · rfl
    · rw [if_neg hne, ← List.append_assoc]
      rfl

theorem writePayloads_wraps (status : Nat) (payloads : List (List UInt8)) :
    Wraps status payloads.flatten (writePayloads runtime request status payloads) := by
  have hall : ∀ (payloads : List (List UInt8)) (body : List UInt8) (writer : EvidenceWriter),
      Wraps status body writer → Wraps status (body ++ payloads.flatten)
        (payloads.foldl (fun writer payload => writer.write runtime request payload) writer) := by
    intro payloads
    induction payloads with
    | nil =>
      intro body writer h
      simpa using h
    | cons payload payloads ih =>
      intro body writer h
      rw [List.flatten_cons, ← List.append_assoc]
      exact ih _ _ (write_wraps runtime request hjson hfault h payload)
  exact hall payloads [] { status := status } (wraps_start status)

/-- **A JSON body** goes out in an envelope, with its evidence behind it. -/
theorem respond_json (status : Nat) (payloads : List (List UInt8)) (hbody : payloads.flatten ≠ []) :
    respond runtime request status payloads =
      ascii cpaBasicJSONPrefix ++ payloads.flatten ++ (ascii ",\"evidence\":" ++
        marshal runtime (evidenceJson runtime
          (jsonBodyEvidence runtime request status payloads.flatten)) ++ ascii "\x7d") := by
  have h := writePayloads_wraps runtime request hjson hfault status payloads
  unfold respond
  generalize writePayloads runtime request status payloads = writer at h ⊢
  generalize payloads.flatten = body at h hbody ⊢
  have hevidence : { writer with finished := true, mode := .json : EvidenceWriter }.jsonEvidence
      runtime request = jsonBodyEvidence runtime request status body := by
    unfold EvidenceWriter.jsonEvidence jsonBodyEvidence
    dsimp only
    rw [h.size, h.status]
    refine congrArg (bodyEvidence request status _) ?_
    unfold EvidenceWriter.bodyObservation inspectBody
    dsimp only
    by_cases hlong : maxJSONInspectionBytes < body.length
    · rw [h.closed.mpr hlong, if_neg (by simp), if_neg (by omega)]
    · have hclosed : writer.inspectionClosed = false :=
        (Bool.not_eq_true _).mp fun htrue => hlong (h.closed.mp htrue)
      rw [hclosed, h.inspection, List.take_of_length_le (Nat.not_lt.mp hlong)]
      simp only [Nat.not_lt.mp hlong, Bool.not_eq_true', Bool.not_false, true_and]
  have hstarted : { writer with finished := true, mode := .json : EvidenceWriter }.jsonStarted =
      true := h.started.mpr hbody
  have hbypass : { writer with finished := true, mode := .json : EvidenceWriter }.jsonBypass =
      false := h.bypass
  have hwritten := h.written
  rw [if_neg hbody] at hwritten
  unfold EvidenceWriter.finish
  rw [if_neg (by rw [h.unfinished]; exact Bool.false_ne_true)]
  dsimp only
  rw [refreshMode_json runtime request hjson (by exact h.mode)]
  dsimp only
  unfold EvidenceWriter.finishJSON
  rw [if_neg (by rw [hstarted, hbypass]; simp), hfault, hevidence]
  dsimp only [EvidenceWriter.send]
  rw [hwritten]

end Body

/-! ### Event streams -/

/-- The evidence that goes before the first frame that ends the response. -/
def streamEvidence (writer : EvidenceWriter) (position : Nat) :
    List (List UInt8) → Option Evidence
  | [] => none
  | frame :: frames =>
    if Closing runtime frame then
      if request.cancelled (position + frame.length) then none
      else some ((writer.observe (inspectSSEFrame runtime frame)).frameEvidence request
        (inspectSSEFrame runtime frame))
    else if frame.length ≤ maxSSEFrameInspectionBytes then
      streamEvidence (writer.observe (inspectSSEFrame runtime frame)) (position + frame.length)
        frames
    else streamEvidence writer (position + frame.length) frames

/-- The evidence does not depend on what went out. -/
theorem streamEvidence_send (writer : EvidenceWriter) (payload : List UInt8) (position : Nat)
    (frames : List (List UInt8)) :
    streamEvidence runtime request (writer.send payload) position frames =
      streamEvidence runtime request writer position frames := by
  induction frames generalizing writer position with
  | nil => rfl
  | cons frame frames ih =>
    have hobserve : ∀ observation : FrameObservation,
        (writer.send payload).observe observation = (writer.observe observation).send payload :=
      fun observation => rfl
    have hevidence : ∀ (writer : EvidenceWriter) (observation : FrameObservation),
        (writer.send payload).frameEvidence request observation =
          writer.frameEvidence request observation := fun writer observation => rfl
    rw [streamEvidence, streamEvidence, hobserve, hevidence, ih, ih]

/-- What goes out for frames, with the evidence that is put between them. -/
def SentWith (frames : List (List UInt8)) (sent : List UInt8) : Option Evidence → Prop
  | none => sent = frames.flatten
  | some evidence => ∃ before after, frames = before ++ after ∧
      sent = before.flatten ++ evidenceSSEFrame runtime evidence ++ after.flatten

theorem SentWith.cons {frames : List (List UInt8)} {sent : List UInt8}
    {evidence : Option Evidence} (h : SentWith runtime frames sent evidence) (frame : List UInt8) :
    SentWith runtime (frame :: frames) (frame ++ sent) evidence := by
  cases evidence with
  | none =>
    unfold SentWith at h ⊢
    rw [h, List.flatten_cons]
  | some evidence =>
    obtain ⟨before, after, rfl, rfl⟩ := h
    refine ⟨frame :: before, after, rfl, ?_⟩
    rw [List.flatten_cons, List.append_assoc, List.append_assoc, List.append_assoc]

theorem processObservation_open (writer : EvidenceWriter) (position : Nat)
    {observation : FrameObservation} (frame : List UInt8) (h : observation.terminal = false) :
    writer.processObservation runtime request position observation frame =
      (writer.observe observation).send frame := by
  unfold EvidenceWriter.processObservation
  dsimp only
  rw [if_neg]
  rw [h]
  exact fun hall => Bool.false_ne_true hall.1

theorem handleFrames_sent (hfault : request.fault = none) (hwriter : writer.evidenceWritten = false)
    (position : Nat) (frames : List (List UInt8)) :
    ∃ sent, (writer.handleFrames runtime request position frames).written = writer.written ++ sent ∧
      SentWith runtime frames sent (streamEvidence runtime request writer position frames) := by
  -- over the frames, up to the first terminal one that is inspected
  induction frames generalizing writer position with
  | nil => exact ⟨[], (List.append_nil _).symm, rfl⟩
  | cons frame frames ih =>
    have hsame : ∀ (observation : FrameObservation) (payload : List UInt8),
        ((writer.observe observation).send payload).evidenceWritten = writer.evidenceWritten :=
      fun observation payload => rfl
    have hopen : ∀ (observation : FrameObservation) (payload : List UInt8),
        ((writer.observe observation).send payload).written = writer.written ++ payload :=
      fun observation payload => rfl
    rw [EvidenceWriter.handleFrames, streamEvidence]
    by_cases hclosing : Closing runtime frame
    · rw [if_pos hclosing]
      cases hcancelled : request.cancelled (position + frame.length) with
      -- a cancelled request gets no evidence, and its frames unchanged
      | true =>
        obtain ⟨hframe, -⟩ := handleFrame_unchanged runtime request writer
          (position + frame.length) frame (.inr (.inr hcancelled))
        obtain ⟨hrest, -⟩ := handleFrames_unchanged runtime request
          (writer.handleFrame runtime request (position + frame.length) frame)
          (position + frame.length) frames (.inr (.inr hcancelled))
        refine ⟨frame ++ frames.flatten, ?_, rfl⟩
        rw [hrest, hframe, List.append_assoc]
      | false =>
        obtain ⟨hframe, hdone⟩ := processObservation_closing runtime request hfault writer frame
          hclosing.2 hwriter hcancelled
        have hhandle : writer.handleFrame runtime request (position + frame.length) frame =
            writer.processObservation runtime request (position + frame.length)
              (inspectSSEFrame runtime frame) frame := if_pos hclosing.1
        rw [hhandle, (handleFrames_unchanged runtime request _ _ frames (.inr (.inl hdone))).1,
          hframe]
        refine ⟨_, ?_, [], frame :: frames, rfl, rfl⟩
        rw [List.flatten_nil, List.nil_append, List.flatten_cons, List.append_assoc,
          List.append_assoc]
    · rw [if_neg hclosing]
      -- a frame that is too long to be inspected is passed on
      by_cases hshort : frame.length ≤ maxSSEFrameInspectionBytes
      · have hterminal : (inspectSSEFrame runtime frame).terminal = false :=
          (Bool.not_eq_true _).mp fun hterminal => hclosing ⟨hshort, hterminal⟩
        have hhandle : writer.handleFrame runtime request (position + frame.length) frame =
            (writer.observe (inspectSSEFrame runtime frame)).send frame := by
          rw [EvidenceWriter.handleFrame, if_pos hshort, EvidenceWriter.processInspectableSSEFrame,
            processObservation_open runtime request writer _ frame hterminal]
        obtain ⟨sent, hsent, hwith⟩ := ih
          ((hsame (inspectSSEFrame runtime frame) frame).trans hwriter) (position + frame.length)
        rw [streamEvidence_send] at hwith
        rw [if_pos hshort, hhandle, hsent, hopen]
        exact ⟨frame ++ sent, List.append_assoc _ _ _, hwith.cons runtime frame⟩
      · have hhandle : writer.handleFrame runtime request (position + frame.length) frame =
            writer.send frame := if_neg hshort
        obtain ⟨sent, hsent, hwith⟩ := @ih (writer.send frame) hwriter
          (position + frame.length)
        rw [streamEvidence_send] at hwith
        rw [if_neg hshort, hhandle, hsent]
        exact ⟨frame ++ sent, List.append_assoc _ _ _, hwith.cons runtime frame⟩

/-- **An event stream** goes out with its evidence between two frames. -/
theorem respond_stream (hmedia : mediaType runtime request = "text/event-stream")
    (hfault : request.fault = none) (status : Nat) {payloads frames : List (List UInt8)}
    (hframes : framesFrom [] payloads.flatten = (frames, [])) :
    SentWith runtime frames (respond runtime request status payloads)
      (streamEvidence runtime request { status := status } 0 frames) := by
  have hstart : ({ status := status } : EvidenceWriter).evidenceWritten = false := rfl
  obtain ⟨sent, hsent, hwith⟩ := handleFrames_sent runtime request hfault hstart 0 frames
  rw [respond_eq runtime request status hmedia, handledFrames, hframes, hsent]
  simpa using hwith

/-! ### The two forms of a response -/

/-- How a response ended. -/
inductive ResponseEnd where
  | completed
  | failed
  | incomplete
deriving DecidableEq, Repr

/-- The status in the body. -/
def ResponseEnd.status : ResponseEnd → String
  | completed => "completed"
  | failed => "failed"
  | incomplete => "incomplete"

/-- The event that ends the stream. -/
def ResponseEnd.event : ResponseEnd → String
  | completed => "response.completed"
  | failed => "response.failed"
  | incomplete => "response.incomplete"

/-- Only a completed response has not failed. -/
def ResponseEnd.fails (ending : ResponseEnd) : Bool := ending ≠ .completed

/-- An event of a stream: its name, its type and the members that say nothing. -/
structure EventOf (kind name : String) (event : List (String × Json ν)) (silent : List String) :
    Prop where
  name : lowered runtime name = kind
  type : loweredField runtime (some event) "type" = kind
  silent : ∀ key ∈ silent, valueAt (some event) key = .null

theorem loweredField_null {object : GoObject ν} {key : String} (h : valueAt object key = .null) :
    loweredField runtime object key = "" := by
  unfold loweredField
  rw [h]
  rfl

/-- What a frame says is what its event says. -/
def Carries (frame : List UInt8) (name : String) (event : List (String × Json ν)) : Prop :=
  inspectSSEFrame runtime frame = inspectSSEEvent runtime name (some event)

/-- The dimensions of the usage of a message. -/
def messageDimensions : List String :=
  ["input_tokens", "cache_read_input_tokens", "cache_creation_input_tokens"]

/-- The usage of a message, as its first event and its last but one report it: the first one may
count fewer output tokens, and the other one may leave out what did not change. -/
structure SameUsage (usage started changed : List (String × Json ν)) : Prop where
  shape : knownUsageShape usage = (knownUsageShape started && knownUsageShape changed)
  ofStarted : ∀ key ∈ messageDimensions, Json.member? started key = Json.member? usage key
  ofChanged : ∀ key ∈ messageDimensions,
    Json.member? changed key = none ∨ Json.member? changed key = Json.member? usage key
  startedOutput : anthropicDimension runtime started "output_tokens" ≠ some none
  changedOutput : Json.member? changed "output_tokens" = Json.member? usage "output_tokens"
  dialect : ∀ members ∈ [usage, changed],
    ∀ key ∈ ["prompt_tokens", "completion_tokens", "total_tokens"],
      Json.member? members key = none

/-- A response that ends, and the frames of the events that carry it; the first argument tells
whether it failed. -/
inductive Forms : Bool → List (String × Json ν) → List (List UInt8) → Prop where
  | response (ending : ResponseEnd) {response event : List (String × Json ν)} {name : String}
    {frame : List UInt8}
    (hobject : loweredField runtime (some response) "object" = "response")
    (hstatus : loweredField runtime (some response) "status" = ending.status)
    (hevent : EventOf runtime ending.event name event ["usage", "object"])
    (hresponse : valueAt (some event) "response" = .object response)
    (hframe : Carries runtime frame name event) : Forms ending.fails response [frame]
  | message {message usage started changed : List (String × Json ν)}
    {start inner delta stop : List (String × Json ν)}
    {startName deltaName stopName : String} {startFrame deltaFrame stopFrame : List UInt8}
    (htype : loweredField runtime (some message) "type" = "message")
    (hreason : trimSpace (stringValue (valueAt (some message) "stop_reason")).toList ≠ [])
    (hsilent : ∀ key ∈ ["object", "response"], valueAt (some message) key = .null)
    (husage : valueAt (some message) "usage" = .object usage)
    (hsame : SameUsage runtime usage started changed)
    (hstart : EventOf runtime "message_start" startName start
      ["usage", "object", "response", "choices"])
    (hinner : valueAt (some start) "message" = .object inner)
    (hstarted : valueAt (some inner) "usage" = .object started)
    (hdelta : EventOf runtime "message_delta" deltaName delta ["object", "response", "choices"])
    (hchanged : valueAt (some delta) "usage" = .object changed)
    (hstop : EventOf runtime "message_stop" stopName stop ["usage", "object", "response"])
    (hframes : Carries runtime startFrame startName start ∧
      Carries runtime deltaFrame deltaName delta ∧ Carries runtime stopFrame stopName stop)
    (hshort : startFrame.length ≤ maxSSEFrameInspectionBytes ∧
      deltaFrame.length ≤ maxSSEFrameInspectionBytes) :
    Forms false message [startFrame, deltaFrame, stopFrame]

/-! ### What the events say -/

/-- The usage that a response reports. -/
def reportedUsage (response : List (String × Json ν)) : Option TrustedUsage :=
  usageFromObject runtime (objectValue (valueAt (some response) "usage"))

theorem responseEvent_says {ending : ResponseEnd} {response event : List (String × Json ν)}
    {name : String} (hevent : EventOf runtime ending.event name event ["usage", "object"])
    (hresponse : valueAt (some event) "response" = .object response) :
    (inspectSSEEvent runtime name (some event)).terminal = true ∧
      (inspectSSEEvent runtime name (some event)).failed = ending.fails ∧
      (inspectSSEEvent runtime name (some event)).usage = reportedUsage runtime response ∧
      (inspectSSEEvent runtime name (some event)).anthropicUsage = none := by
  have husage : normalizedUsage runtime (some event) = reportedUsage runtime response := by
    have hinner : (objectValue (.object response)).bind (fun response : List (String × Json ν) =>
        usageFromObject runtime (objectValue (valueAt (some response) "usage"))) =
        usageFromObject runtime (objectValue (valueAt (some response) "usage")) := rfl
    unfold normalizedUsage reportedUsage
    rw [hresponse, hevent.silent "usage" (by decide)]
    dsimp only
    rw [hinner]
    cases usageFromObject runtime (objectValue (valueAt (some response) "usage")) <;> rfl
  have hobject := loweredField_null runtime (hevent.silent "object" (by decide))
  have hanthropic : anthropicSSEUsage runtime ending.event (some event) = none := by
    have hkind : anthropicKind runtime ending.event (some event) = ending.event := by
      unfold anthropicKind
      rw [hevent.type, ite_self]
    unfold anthropicSSEUsage
    rw [hkind]
    cases ending <;> rfl
  unfold inspectSSEEvent
  dsimp only
  rw [hevent.name]
  refine ⟨?_, ?_, ?_, ?_⟩
  · cases ending <;> simp [ResponseEnd.event]
  · unfold inspectNormalizedObject
    dsimp only
    rw [hevent.type, hobject]
    cases ending <;> simp [ResponseEnd.event, ResponseEnd.fails]
  · rw [if_pos]
    · exact husage
    · cases ending <;> rfl
  · rw [hanthropic, ite_self]

end Frely.CpaBasic
