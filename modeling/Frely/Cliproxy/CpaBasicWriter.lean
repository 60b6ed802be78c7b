import Frely.Cliproxy.CpaBasicEvidence

/-!
# The writer that adds the evidence

`cpaBasicEvidenceWriter` stands between the handler of a request and the response.  A JSON body is
put into an envelope with the evidence behind it; the evidence of an event stream is a frame of its
own.  What goes downstream is `written`; the response takes all of it.
-/

namespace Frely.CpaBasic

open Frely.RequestExecution

variable {ν : Type}

inductive Fault where
  | missing
  | malformed
  | mismatched
  | duplicate
deriving DecidableEq, Repr

inductive ResponseMode where
  | undecided
  | json
  | sse
  | passThrough
deriving DecidableEq, Repr

/-- `sseDelimiterScanner`: the last bytes of a frame, at most four. -/
structure DelimiterScanner where
  tail : List UInt8 := []
deriving DecidableEq, Repr

/-- The delimiters of frames, which the scanner tells by their last bytes. -/
def delimiterLength (tail : List UInt8) : Nat :=
  if [13, 10, 13, 10] <:+ tail then 4
  else if [13, 10, 10] <:+ tail ∨ [10, 13, 10] <:+ tail then 3
  else if [10, 10] <:+ tail ∨ [13, 13] <:+ tail then 2
  else 0

def DelimiterScanner.push (scanner : DelimiterScanner) (character : UInt8) :
    DelimiterScanner × Nat :=
  let tail := if scanner.tail.length < 4 then scanner.tail ++ [character]
    else scanner.tail.drop 1 ++ [character]
  (⟨tail⟩, delimiterLength tail)

structure EvidenceWriter where
  mode : ResponseMode := .undecided
  status : Nat := 200
  /-- `none` is the size −1. -/
  size : Option Nat := none
  committed : Bool := false
  finished : Bool := false
  evidenceWritten : Bool := false
  jsonStarted : Bool := false
  jsonBypass : Bool := false
  inspection : List UInt8 := []
  inspectionClosed : Bool := false
  sseFrame : List UInt8 := []
  sseFrameOversize : Bool := false
  sseScanner : DelimiterScanner := {}
  usage : Option TrustedUsage := none
  anthropicUsage : AnthropicUsageParts := {}
  serviceTier : String := ""
  /-- The bytes of the response. -/
  written : List UInt8 := []
deriving DecidableEq, Repr

/-- A negotiated request and the header of its response. -/
structure Negotiated where
  attemptRef : String
  fault : Option Fault
  contentType : String
  /-- The context is done when so many bytes of the body have been handled. -/
  cancelled : Nat → Bool
  /-- A context that is done stays done. -/
  stays : ∀ earlier later, earlier ≤ later → cancelled earlier = true → cancelled later = true

variable (runtime : GoRuntime ν) (request : Negotiated)

/-- `writeResponseBytes`. -/
def EvidenceWriter.send (writer : EvidenceWriter) (payload : List UInt8) : EvidenceWriter :=
  { writer with written := writer.written ++ payload }

def mediaType : String :=
  String.ofList (trimSpace ((lowered runtime request.contentType).toList.takeWhile (· ≠ ';')))

def EvidenceWriter.refreshMode (writer : EvidenceWriter) : EvidenceWriter :=
  if writer.mode ≠ .undecided then writer
  else if mediaType runtime request = "text/event-stream" then { writer with mode := .sse }
  else if mediaType runtime request = "application/json" ∨
      "+json".toList <:+ (mediaType runtime request).toList then { writer with mode := .json }
  else if mediaType runtime request ≠ "" then { writer with mode := .passThrough }
  else writer

def EvidenceWriter.commit (writer : EvidenceWriter) : EvidenceWriter :=
  { writer with committed := true }

/-! ### Event streams -/

/-- What the middleware knows before a frame that ends the response. -/
def EvidenceWriter.observe (writer : EvidenceWriter) (observation : FrameObservation) :
    EvidenceWriter :=
  { writer with
    usage := observation.usage.or writer.usage
    anthropicUsage := writer.anthropicUsage.merge observation.anthropicUsage
    serviceTier := if observation.serviceTier = "" then writer.serviceTier
      else observation.serviceTier }

def EvidenceWriter.trustedUsage (writer : EvidenceWriter) : Option TrustedUsage :=
  if writer.anthropicUsage.seen then writer.anthropicUsage.trustedUsage else writer.usage

def EvidenceWriter.frameEvidence (writer : EvidenceWriter) (observation : FrameObservation) :
    Evidence :=
  let evidence : Evidence :=
    { contract := cpaBasicEvidenceContract
      version := 1
      providerAttemptRef := request.attemptRef
      costExposure := .stopped
      finalUsageEvidence := .pending
      serviceTier := writer.serviceTier }
  let evidence := if observation.failed then
      { evidence with failureClass := failureClassForStatus observation.status }
    else evidence
  match writer.trustedUsage with
  | some usage => { evidence with finalUsageEvidence := .final, trustedUsage := some usage }
  -- an error without complete usage cannot prove bounded exposure
  | none => if observation.failed then { evidence with costExposure := .accruing } else evidence

/-- The frames that a fault makes of the evidence. -/
def faultFrames (evidence : Evidence) : List UInt8 :=
  match request.fault with
  | some .missing => []
  | some .malformed => evidenceSSEFrame runtime { evidence with contract := "malformed@1" }
  | some .mismatched => evidenceSSEFrame runtime
    { evidence with providerAttemptRef := evidence.providerAttemptRef ++ "-mismatch" }
  | some .duplicate => evidenceSSEFrame runtime evidence ++ evidenceSSEFrame runtime evidence
  | none => evidenceSSEFrame runtime evidence

/-- A frame with what it says; `position` bytes of the body have been handled. -/
def EvidenceWriter.processObservation (writer : EvidenceWriter) (position : Nat)
    (observation : FrameObservation) (frame : List UInt8) : EvidenceWriter :=
  let writer := writer.observe observation
  if observation.terminal ∧ !writer.evidenceWritten ∧ !request.cancelled position then
    let frames := faultFrames runtime request (writer.frameEvidence request observation)
    { writer.send frames with evidenceWritten := true }.send frame
  else writer.send frame

def EvidenceWriter.processInspectableSSEFrame (writer : EvidenceWriter) (position : Nat)
    (frame : List UInt8) : EvidenceWriter :=
  writer.processObservation runtime request position (inspectSSEFrame runtime frame) frame

/-- `segment` holds the bytes of the payload since the last frame ended or bytes were passed on; a
frame that becomes too long to be inspected is passed on. -/
def EvidenceWriter.passOversize (writer : EvidenceWriter) (segment : List UInt8) :
    EvidenceWriter × List UInt8 :=
  if !writer.sseFrameOversize ∧
      maxSSEFrameInspectionBytes < writer.sseFrame.length + segment.length then
    ({ (writer.send writer.sseFrame).send segment with
      sseFrame := [], sseFrameOversize := true }, [])
  else (writer, segment)

def EvidenceWriter.startFrame (writer : EvidenceWriter) : EvidenceWriter :=
  { writer with sseFrameOversize := false, sseScanner := {} }

def EvidenceWriter.clearFrame (writer : EvidenceWriter) : EvidenceWriter :=
  { writer with sseFrame := [] }

/-- The segment ends in a delimiter. -/
def EvidenceWriter.endFrame (writer : EvidenceWriter) (position : Nat) (segment : List UInt8) :
    EvidenceWriter :=
  if writer.sseFrameOversize then (writer.send segment).startFrame
  else
    (writer.processInspectableSSEFrame runtime request position
      (writer.sseFrame ++ segment)).clearFrame.startFrame

/-- One byte of a payload. -/
def EvidenceWriter.writeByte (writer : EvidenceWriter) (position : Nat) (segment : List UInt8)
    (character : UInt8) : EvidenceWriter × List UInt8 :=
  let (scanner, delimiterLength) := writer.sseScanner.push character
  let (writer, segment) :=
    { writer with sseScanner := scanner }.passOversize (segment ++ [character])
  if delimiterLength = 0 then (writer, segment)
  else (writer.endFrame runtime request position segment, [])

/-- The bytes of a payload from `position` on. -/
def EvidenceWriter.writeBytes (writer : EvidenceWriter) (position : Nat) (segment : List UInt8) :
    List UInt8 → EvidenceWriter × List UInt8
  | [] => (writer, segment)
  | character :: rest =>
    let (writer, segment) := writer.writeByte runtime request (position + 1) segment character
    writer.writeBytes (position + 1) segment rest

def EvidenceWriter.writeSSE (writer : EvidenceWriter) (position : Nat) (payload : List UInt8) :
    EvidenceWriter :=
  let (writer, segment) := writer.commit.writeBytes runtime request position [] payload
  if writer.sseFrameOversize then writer.send segment
  else { writer with sseFrame := writer.sseFrame ++ segment }

/-! ### JSON bodies -/

def EvidenceWriter.startJSON (writer : EvidenceWriter) : EvidenceWriter :=
  if writer.jsonStarted then writer
  else ({ writer with jsonStarted := true }.commit).send (ascii cpaBasicJSONPrefix)

def EvidenceWriter.inspectJSON (writer : EvidenceWriter) (payload : List UInt8) : EvidenceWriter :=
  if writer.inspectionClosed then writer
  else
    let remaining := min (maxJSONInspectionBytes - writer.inspection.length) payload.length
    { writer with
      inspection := writer.inspection ++ payload.take remaining
      inspectionClosed := remaining < payload.length }

def EvidenceWriter.writeJSON (writer : EvidenceWriter) (payload : List UInt8) : EvidenceWriter :=
  if payload = [] then writer
  else if request.fault = some .missing then ({ writer with jsonBypass := true }.commit).send
    payload
  else (writer.startJSON.inspectJSON payload).send payload

/-- What the body says, if it could be inspected. -/
def EvidenceWriter.bodyObservation (writer : EvidenceWriter) (cancelled : Bool) :
    FrameObservation :=
  if !cancelled ∧ !writer.inspectionClosed ∧ runtime.valid writer.inspection then
    inspectNormalizedJSON runtime writer.inspection
  else {}

def bodyEvidence (status : Nat) (cancelled : Bool) (observation : FrameObservation) : Evidence :=
  let evidence : Evidence :=
    { contract := cpaBasicEvidenceContract
      version := 1
      providerAttemptRef := request.attemptRef
      costExposure := .accruing
      finalUsageEvidence := .pending
      serviceTier := observation.serviceTier }
  let evidence := if !cancelled ∧ observation.terminal then
      { evidence with
        costExposure := .stopped
        failureClass := if observation.failed then failureClassForStatus status else ""
        finalUsageEvidence := if observation.usage.isSome then .final else .pending
        trustedUsage := observation.usage }
    else evidence
  if 400 ≤ status then
    -- the status alone cannot prove that the cost stopped
    { evidence with
      costExposure := .accruing
      finalUsageEvidence := .pending
      trustedUsage := none
      failureClass := failureClassForStatus status }
  else evidence

/-- The evidence of a JSON body that has been written. -/
def EvidenceWriter.jsonEvidence (writer : EvidenceWriter) : Evidence :=
  let cancelled := request.cancelled (writer.size.getD 0)
  bodyEvidence request writer.status cancelled (writer.bodyObservation runtime cancelled)

def EvidenceWriter.finishJSON (writer : EvidenceWriter) : EvidenceWriter :=
  if writer.jsonBypass ∨ !writer.jsonStarted then writer.commit
  else
    let evidence := writer.jsonEvidence runtime request
    let evidence := match request.fault with
      | some .malformed => { evidence with contract := "malformed@1" }
      | some .mismatched =>
        { evidence with providerAttemptRef := evidence.providerAttemptRef ++ "-mismatch" }
      | _ => evidence
    { writer with inspection := [] }.send (ascii ",\"evidence\":" ++
      marshal runtime (evidenceJson runtime evidence) ++ ascii "\x7d")

/-! ### Writes and the end -/

/-- `Write`; a payload after the end is refused. -/
def EvidenceWriter.write (writer : EvidenceWriter) (payload : List UInt8) : EvidenceWriter :=
  if writer.finished then writer
  else
    let position := writer.size.getD 0
    let writer := { writer with size := some (position + payload.length) }.refreshMode
      runtime request
    match writer.mode with
    | .json => writer.writeJSON request payload
    | .sse => writer.writeSSE runtime request position payload
    | .undecided | .passThrough => ({ writer with mode := .passThrough }.commit).send payload

def EvidenceWriter.finish (writer : EvidenceWriter) : EvidenceWriter :=
  if writer.finished then writer
  else
    let writer := { writer with finished := true }.refreshMode runtime request
    match writer.mode with
    | .json => writer.finishJSON runtime request
    | .sse => { writer.commit.send writer.sseFrame with sseFrame := [] }
    | .undecided =>
      if 500 ≤ writer.status ∧ writer.size.getD 0 = 0 then
        let publicError := ascii "\x7b\"error\":\x7b\"type\":\"server_error\"\x7d\x7d"
        let writer := { writer with mode := .json }.startJSON.inspectJSON publicError
        (writer.send publicError).finishJSON runtime request
      else writer.commit
    | .passThrough => writer.commit

/-- The writer of a response whose handler sets a status and writes some payloads. -/
def writePayloads (status : Nat) (payloads : List (List UInt8)) : EvidenceWriter :=
  payloads.foldl (fun writer payload => writer.write runtime request payload)
    { status := status }

/-- The bytes of the response. -/
def respond (status : Nat) (payloads : List (List UInt8)) : List UInt8 :=
  ((writePayloads runtime request status payloads).finish runtime request).written

end Frely.CpaBasic
