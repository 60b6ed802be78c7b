import Frely.Capture.Records
import Frely.Lib.Machine

/-!
# The writer of streamed captures

`StreamingRequestCaptureV3Writer`: the events of a stream are written one after the other into the
text of a record whose beginning is cut off where the events belong.  The file is staged and linked
to its canonical path at the end.

`appendEvent`, `finalize` and `abort` wait for the pipeline and for files; what waits is part of the
state, and a step is what happens between two waits.  The answers of the pipeline and of the file
system come with the inputs.
-/

namespace Frely.Capture

open Checked Machine

variable {ν : Type}

inductive WriterState where
  | opening
  | «open»
  | finalizing
  | finalized
  | aborted
deriving DecidableEq, Repr

/-- What a call of `finalize` waits for. -/
inductive Waiting where
  | pipeline
  | digest
  | publication
deriving DecidableEq, Repr

/-- A file at the canonical path. -/
structure CanonicalFile where
  raw : List UInt8
  byWriter : Bool
deriving DecidableEq

/-- The writer, its file as text, and what it waits for. -/
structure StreamWriter where
  state : WriterState
  waiting : Option Waiting
  /-- What went into the pipeline. -/
  text : List Char
  eventCount : Nat
  /-- How many calls of `appendEvent` wait for the pipeline. -/
  appending : Nat
  /-- The staging file is there. -/
  staged : Bool
  /-- An abort is going to remove it. -/
  removing : Bool
  canonical : Option CanonicalFile
deriving DecidableEq

def stateInvalid : CaptureError :=
  captureV3Error "request_capture_stream_state_invalid"
    "Request Capture stream writer is not open" 500

def recordTooLarge : CaptureError :=
  captureV3Error "request_capture_record_too_large"
    "Request Capture record exceeds the uncompressed byte limit" 413

def streamWriteFailed : CaptureError :=
  captureV3Error "request_capture_stream_write_failed"
    "Request Capture stream could not be written" 503

def publishVerifyFailed : CaptureError :=
  captureV3Error "request_capture_publish_verify_failed"
    "Request Capture publish verification failed" 503

def captureConflict : CaptureError :=
  captureV3Error "request_capture_conflict"
    "Request Capture already exists with different content" 409

/-- Errors of the store become errors of the stream. -/
def normalizeStreamCaptureWriteError : CaptureError → CaptureError
  | .relay error => .relay error
  | .codec _ => streamWriteFailed

/-- The index of the last occurrence of a token. -/
def lastIndexOf (token : List Char) : List Char → Option Nat
  | [] => if token = [] then some 0 else none
  | c :: rest =>
    match lastIndexOf token rest with
    | some index => some (index + 1)
    | none => if token.isPrefixOf (c :: rest) then some 0 else none

/-- `writeRaw`: `taken` tells whether the pipeline takes the text. -/
def writeRaw (writer : StreamWriter) (text : List Char) (taken : Bool) :
    Result StreamWriter := do
  rejectIf (maxUncompressedBytes < byteLength writer.text + byteLength text) recordTooLarge
  rejectIf (taken = false) streamWriteFailed
  return { writer with text := writer.text ++ text }

/-- `abort` up to where it waits. -/
def StreamWriter.abort (writer : StreamWriter) : StreamWriter :=
  if writer.state = .finalized ∨ writer.state = .aborted then writer
  else { writer with state := .aborted, removing := true }

/-- What is left to do of an abort once other work waits. -/
def StreamWriter.settle (writer : StreamWriter) : StreamWriter :=
  if writer.removing then { writer with staged := false, removing := false } else writer

variable (runtime : CaptureRuntime ν)

/-- The response body that a stream stands for. -/
def streamBody (events : List (Json ν)) : Json ν :=
  .object [("stream", .bool true), ("events", .array events)]

/-- The record as far as it is known before the first event. -/
def prefixObject (base : RequestCaptureV3Record ν) (status : ν) : Json ν :=
  .object (baseMembers runtime.format base ++ [("response", .object
    [("captureId", .string (deterministicCaptureId runtime "capture_response" base.requestId)),
      ("status", .number status), ("body", streamBody [])])])

/-- `start`. -/
def StreamWriter.start (base : RequestCaptureV3Record ν) (status : ν) (taken : Bool)
    (canonical : Option CanonicalFile) : Result StreamWriter := do
  let serialized := Json.stringify runtime.format (prefixObject runtime base status)
  let eventsAt ← (lastIndexOf ['[', ']'] serialized).elim (.error v3IntegrityError) .ok
  let opening : StreamWriter := ⟨.opening, none, [], 0, 0, true, false, canonical⟩
  let writer ← writeRaw opening (serialized.take eventsAt ++ ['[']) taken
  return { writer with state := .open }

/-- Writes the record up to its list of events. -/
def beginStreamExchange (input : RequestCaptureV3BaseInput ν) (responseStatus : ν) (taken : Bool)
    (canonical : Option CanonicalFile) : Result StreamWriter := do
  let base ← requestCaptureV3BaseRecord runtime input
  rejectIf (isStatus runtime responseStatus = false) v3IntegrityError
  StreamWriter.start runtime base responseStatus taken canonical

/-! ### Steps -/

/-- The outcomes of a call; one that waits has not returned yet. -/
inductive WriterOutput where
  | done
  | failed (error : CaptureError)
  | waits
  | idle
deriving DecidableEq

/-- A call, an answer to one that waits, or another writer. -/
inductive WriterInput (ν : Type) where
  | appendEvent (event : Unknown ν) (taken : Bool)
  /-- The pipeline answers a waiting `appendEvent`, which fails with the error it was rejected
  with. -/
  | appended (rejected : Option CaptureError)
  /-- `finalize`, where `now` is the current time. -/
  | finalize (errorCode capturedAt : Option String) (now : String) (taken : Bool)
  /-- The pipeline has ended; `intact` when it has without error and the staging file is as it was
  written. -/
  | verifyStaged (intact : Bool)
  /-- The digest of the staging file was read. -/
  | publish (matching synced : Bool)
  | complete
  | abort
  | settle
  | publishedByOther (raw : List UInt8)

/-- A failed call aborts the writer. -/
def failed (writer : StreamWriter) (error : CaptureError) : WriterOutput × StreamWriter :=
  (.failed (normalizeStreamCaptureWriteError error), { writer.abort with waiting := none })

/-- An event with the comma before it. -/
def eventText (writer : StreamWriter) (event : Json ν) : List Char :=
  (if writer.eventCount = 0 then [] else [',']) ++ Json.stringify runtime.format event

def appendTree (writer : StreamWriter) (event : Unknown ν) (taken : Bool) :
    Result StreamWriter := do
  let tree ← toSafeJsonTree event
  let written ← writeRaw writer (eventText runtime writer tree) taken
  return { written with appending := writer.appending + 1 }

/-- `appendEvent` up to where it waits for `writeRaw`: the event is not counted before. -/
def appendEvent (event : Unknown ν) (taken : Bool) (writer : StreamWriter) :
    WriterOutput × StreamWriter :=
  if writer.state = .open then
    match appendTree runtime writer event taken with
    | .ok writer => (.waits, writer)
    | .error error => failed writer error
  else (.failed stateInvalid, writer)

/-- What `appendEvent` does after its wait. -/
def appended (rejected : Option CaptureError) (writer : StreamWriter) :
    WriterOutput × StreamWriter :=
  if writer.appending = 0 then (.idle, writer)
  else
    let resumed := { writer with appending := writer.appending - 1 }
    match rejected with
    | none => (.done, { resumed with eventCount := writer.eventCount + 1 })
    | some error => (.failed (normalizeStreamCaptureWriteError error), resumed.abort)

/-- What closes the record and its line. -/
def closingText (capturedAt : String) (errorCode : Option String) : List Char :=
  [']', '}'] ++ (',' :: Json.quote "capturedAt" ++ ':' :: Json.quote capturedAt) ++
    (',' :: Json.quote "errorCode" ++ ':' ::
      Json.stringify runtime.format (nullable errorCode)) ++ ['}', '}', '\n']

/-- Writes what comes behind the events. -/
def closeRecord (writer : StreamWriter) (errorCode : Option String) (capturedAt : String)
    (taken : Bool) : Result StreamWriter := do
  let capturedAt ← isoText runtime capturedAt
  rejectIf (errorCode = some "") v3IntegrityError
  writeRaw writer (closingText runtime capturedAt errorCode) taken

/-- Up to the wait for the pipeline to end. -/
def finalize (errorCode capturedAt : Option String) (now : String) (taken : Bool)
    (writer : StreamWriter) : WriterOutput × StreamWriter :=
  if writer.state = .finalized then (.done, writer)
  else if writer.state = .open then
    let finalizing := { writer with state := .finalizing }
    match closeRecord runtime finalizing errorCode (capturedAt.getD now) taken with
    | .ok writer => (.waits, { writer with waiting := some .pipeline })
    | .error error => failed finalizing error
  else (.failed stateInvalid, writer)

/-- The bytes of the record. -/
def StreamWriter.raw (writer : StreamWriter) : List UInt8 := Utf8.encode writer.text

/-- The staged file has been read back. -/
def verifyStaged (intact : Bool) (writer : StreamWriter) : WriterOutput × StreamWriter :=
  if writer.waiting = some .pipeline then
    if intact ∧ writer.staged then
      (.waits, { writer with waiting := some .digest }.settle)
    else failed writer publishVerifyFailed
  else (.idle, writer)

/-- `publish`: a link fails where the staging file is gone, and where the canonical file is there
already. -/
def publish (matching synced : Bool) (writer : StreamWriter) : WriterOutput × StreamWriter :=
  if writer.waiting = some .digest then
    if matching = false then failed writer publishVerifyFailed
    else if writer.staged = false then failed writer (.codec "ENOENT")
    else match writer.canonical with
      | some file =>
        if runtime.sha256 file.raw = runtime.sha256 writer.raw then
          (.waits, { writer with waiting := some .publication, staged := false })
        else failed writer captureConflict
      | none =>
        if synced then
          (.waits, { writer with
            waiting := some .publication
            staged := false
            canonical := some ⟨writer.raw, true⟩ })
        else failed writer (.codec "EIO")
  else (.idle, writer)

/-- The published file has been verified. -/
def complete (writer : StreamWriter) : WriterOutput × StreamWriter :=
  if writer.waiting = some .publication then
    (.done, { writer with state := .finalized, waiting := none })
  else (.idle, writer)

/-- Another writer publishes at the same path. -/
def publishedByOther (raw : List UInt8) (writer : StreamWriter) : WriterOutput × StreamWriter :=
  match writer.canonical with
  | some _ => (.idle, writer)
  | none => (.idle, { writer with canonical := some ⟨raw, false⟩ })

/-- One step of the writer. -/
def writerStep : WriterInput ν → StreamWriter → WriterOutput × StreamWriter
  | .appendEvent event taken, writer => appendEvent runtime event taken writer
  | .appended rejected, writer => appended rejected writer
  | .finalize errorCode capturedAt now taken, writer =>
    finalize runtime errorCode capturedAt now taken writer
  | .verifyStaged intact, writer => verifyStaged intact writer
  | .publish matching synced, writer => publish runtime matching synced writer
  | .complete, writer => complete writer
  | .abort, writer => (.done, writer.abort)
  | .settle, writer => (.idle, writer.settle)
  | .publishedByOther raw, writer => publishedByOther raw writer

end Frely.Capture
