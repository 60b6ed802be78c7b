import Frely.Core.RelayError
import Frely.Lib.Blocks
import Frely.Providers.StreamingJson

/-!
# Scanning server-sent events

`SseSemanticScanner` reads an event stream byte by byte.  It keeps no text: the bytes of a line go
to the field they belong to, the bytes of data go to the JSON parser, and the bytes of an event name
to a decoder.  `parseCliProxySse` feeds it the chunks of a response.

A read may throw; the events before it have been passed on.
-/

namespace Frely.Providers

open Utf8 Blocks

/-- An error of the protocol, or one that the JSON parser throws while the data still arrives. -/
inductive SseThrown where
  | cliProxyError (error : RelayError)
  | other

def cliProxyProtocolError (message : String) : SseThrown :=
  .cliProxyError ⟨"cliproxy_protocol_error", message, 502⟩

def cliProxyStreamError : SseThrown → RelayError
  | .cliProxyError error => error
  | .other => ⟨"cliproxy_stream_failed", "CLIProxyAPI stream ended unexpectedly", 502⟩

/-- What the package throws where a parser has no result. -/
def orThrow {α : Type} : Option α → Except SseThrown α
  | some a => .ok a
  | none => .error .other

inductive CliProxySseEvent where
  | event (event : Option (List Char)) (data : JsonValue) (dataBytes : Nat)
  | done

def asciiCr : UInt8 := 13
def asciiLf : UInt8 := 10
def asciiColon : UInt8 := 58
def asciiSpace : UInt8 := 32
def utf8Bom : List UInt8 := [0xEF, 0xBB, 0xBF]

/-- `[DONE]`. -/
def doneBytes : List UInt8 := [91, 68, 79, 78, 69, 93]

def isJsonWhitespace (byte : UInt8) : Bool :=
  byte = asciiSpace ∨ byte = asciiLf ∨ byte = asciiCr ∨ byte = 9

/-! ### Texts and JSON -/

/-- A decoder, with the text it has given. -/
abbrev Decoding := Decoder × List Char

def Decoding.write (decoding : Decoding) (bytes : List UInt8) : Id Decoding :=
  let (decoder, chars) := decoding.1.decode bytes
  pure (decoder, decoding.2 ++ chars)

abbrev Utf8StringAccumulator := Blocks.Writer Decoding UInt8

def Utf8StringAccumulator.new : Utf8StringAccumulator := ⟨({}, []), []⟩

def Utf8StringAccumulator.push (accumulator : Utf8StringAccumulator) (byte : UInt8) :
    Utf8StringAccumulator :=
  Id.run (Blocks.Writer.push 4096 Decoding.write accumulator byte)

def Utf8StringAccumulator.finish (accumulator : Utf8StringAccumulator) : List Char :=
  let (decoder, chars) := Id.run (Blocks.Writer.flush Decoding.write accumulator)
  chars ++ decoder.flush

section Scanner

variable (tokenizer : JsonTokenizer)

abbrev JsonByteSink := Blocks.Writer (StreamingJsonValueParser tokenizer) UInt8

inductive SseJsonMode where
  | leading
  | candidate
  | trailing
  | json
deriving DecidableEq

structure SseJsonData where
  mode : SseJsonMode := .leading
  candidateLength : Nat := 0
  discardedWhitespaceBytes : Nat := 0
  lineCount : Nat := 0
  sink : Option (JsonByteSink tokenizer) := none

structure SseFrameBuilder where
  data : Option (SseJsonData tokenizer) := none
  eventName : Option (List Char) := none

variable {tokenizer}

def JsonByteSink.new : JsonByteSink tokenizer := ⟨{}, []⟩

def JsonByteSink.push (sink : JsonByteSink tokenizer) (byte : UInt8) :
    Option (JsonByteSink tokenizer) :=
  Blocks.Writer.push (64 * 1024) StreamingJsonValueParser.write sink byte

def JsonByteSink.finish (sink : JsonByteSink tokenizer) : Option StreamingJsonResult := do
  let parser ← Blocks.Writer.flush StreamingJsonValueParser.write sink
  parser.finish

namespace SseJsonData

def startJson (data : SseJsonData tokenizer) (bytes : List UInt8) :
    Option (SseJsonData tokenizer) := do
  let sink ← bytes.foldlM JsonByteSink.push JsonByteSink.new
  pure { data with mode := .json, sink := some sink }

def push (data : SseJsonData tokenizer) (byte : UInt8) : Option (SseJsonData tokenizer) :=
  match data.mode with
  | .json => do
    match data.sink with
    | none => pure data
    | some sink =>
      let sink ← sink.push byte
      pure { data with sink := some sink }
  | .leading =>
    if isJsonWhitespace byte then
      some { data with discardedWhitespaceBytes := data.discardedWhitespaceBytes + 1 }
    else if doneBytes[0]? = some byte then
      some { data with mode := .candidate, candidateLength := 1 }
    else data.startJson [byte]
  | .candidate =>
    if doneBytes[data.candidateLength]? = some byte then
      let candidateLength := data.candidateLength + 1
      some { data with
        candidateLength
        mode := if candidateLength = doneBytes.length then .trailing else .candidate }
    else data.startJson (doneBytes.take data.candidateLength ++ [byte])
  | .trailing =>
    if isJsonWhitespace byte then
      some { data with discardedWhitespaceBytes := data.discardedWhitespaceBytes + 1 }
    else data.startJson (doneBytes ++ [byte])

def joinLine (data : SseJsonData tokenizer) : Option (SseJsonData tokenizer) :=
  if 0 < data.lineCount then data.push asciiLf else some data

def startLine (data : SseJsonData tokenizer) : Option (SseJsonData tokenizer) := do
  let data ← data.joinLine
  pure { data with lineCount := data.lineCount + 1 }

def finishCandidate (data : SseJsonData tokenizer) : Option (SseJsonData tokenizer) :=
  if data.mode = .candidate then data.startJson (doneBytes.take data.candidateLength) else some data

/-- The value of the data and its bytes; none for `[DONE]`. -/
def finish (data : SseJsonData tokenizer) : Option (Option (JsonValue × Nat)) :=
  if data.mode = .trailing then some none
  else do
    let data ← data.finishCandidate
    let sink ← data.sink
    let parsed ← sink.finish
    let value ← parsed.value
    pure (some (value, parsed.decodedByteLength + data.discardedWhitespaceBytes))

end SseJsonData

namespace SseFrameBuilder

def startDataLine (frame : SseFrameBuilder tokenizer) :
    Except SseThrown (SseFrameBuilder tokenizer) := do
  let data ← orThrow (frame.data.getD {}).startLine
  pure { frame with data := some data }

def pushDataByte (frame : SseFrameBuilder tokenizer) (byte : UInt8) :
    Except SseThrown (SseFrameBuilder tokenizer) :=
  match frame.data with
  | none => pure frame
  | some data => do
    let data ← orThrow (data.push byte)
    pure { frame with data := some data }

def setEventName (frame : SseFrameBuilder tokenizer) (value : List Char) :
    SseFrameBuilder tokenizer :=
  { frame with eventName := some value }

def finish (frame : SseFrameBuilder tokenizer) : Except SseThrown (Option CliProxySseEvent) :=
  match frame.data with
  | none => .ok none
  | some data =>
    match data.finish with
    | some none => .ok (some .done)
    | some (some (value, dataBytes)) =>
      .ok (some (.event (frame.eventName.filter (· ≠ [])) value dataBytes))
    | none => .error (cliProxyProtocolError "CLIProxyAPI SSE event contained invalid JSON")

end SseFrameBuilder

/-! ### Lines -/

inductive SseLineMode where
  | field
  | ignore
  | dataSpace
  | data
  | eventSpace
  | event
deriving DecidableEq

structure SseLine where
  mode : SseLineMode := .field
  field : List UInt8 := []
  eventValue : Option Utf8StringAccumulator := none

/-- The bytes of `data` and `event`. -/
def dataField : List UInt8 := [100, 97, 116, 97]
def eventField : List UInt8 := [101, 118, 101, 110, 116]

namespace SseLine

def startKnownField (line : SseLine) (frame : SseFrameBuilder tokenizer) :
    Except SseThrown (SseLine × SseFrameBuilder tokenizer) :=
  if line.field = dataField then do
    let frame ← frame.startDataLine
    pure ({ line with mode := .dataSpace }, frame)
  else if line.field = eventField then
    .ok ({ line with eventValue := some .new, mode := .eventSpace }, frame)
  else .ok ({ line with mode := .ignore }, frame)

def pushEventByte (line : SseLine) (byte : UInt8) : SseLine :=
  { line with eventValue := line.eventValue.map (Utf8StringAccumulator.push · byte) }

def push (line : SseLine) (frame : SseFrameBuilder tokenizer) (byte : UInt8) :
    Except SseThrown (SseLine × SseFrameBuilder tokenizer) :=
  match line.mode with
  | .ignore => .ok (line, frame)
  | .dataSpace =>
    let line := { line with mode := .data }
    if byte = asciiSpace then .ok (line, frame)
    else do
      let frame ← frame.pushDataByte byte
      pure (line, frame)
  | .data => do
    let frame ← frame.pushDataByte byte
    pure (line, frame)
  | .eventSpace =>
    let line := { line with mode := .event }
    .ok (if byte = asciiSpace then line else line.pushEventByte byte, frame)
  | .event => .ok (line.pushEventByte byte, frame)
  | .field =>
    if line.field = [] ∧ byte = asciiColon then .ok ({ line with mode := .ignore }, frame)
    else if byte = asciiColon then line.startKnownField frame
    else if 5 ≤ line.field.length then .ok ({ line with mode := .ignore }, frame)
    else .ok ({ line with field := line.field ++ [byte] }, frame)

def finishField (line : SseLine) (frame : SseFrameBuilder tokenizer) :
    Except SseThrown (SseLine × SseFrameBuilder tokenizer) :=
  if line.mode = .field then line.startKnownField frame else .ok (line, frame)

/-- The end of a line; the line is reset afterwards. -/
def finish (line : SseLine) (frame : SseFrameBuilder tokenizer) :
    Except SseThrown (SseFrameBuilder tokenizer) := do
  let (line, frame) ← line.finishField frame
  pure (if line.mode = .eventSpace ∨ line.mode = .event then
    frame.setEventName ((line.eventValue.map Utf8StringAccumulator.finish).getD [])
  else frame)

end SseLine

/-! ### The scanner -/

structure CompletedSseFrame where
  event : Option CliProxySseEvent

variable (tokenizer) in
structure SseSemanticScanner where
  frame : SseFrameBuilder tokenizer := {}
  line : SseLine := {}
  lineHasBytes : Bool := false
  pendingCr : Bool := false
  bomResolved : Bool := false
  bomPending : List UInt8 := []

namespace SseSemanticScanner

/-- What a method of the scanner returns, and the scanner after it. -/
abbrev Scanned (α : Type) (tokenizer : JsonTokenizer) :=
  Except SseThrown (α × SseSemanticScanner tokenizer)

def finishFrame (scanner : SseSemanticScanner tokenizer) :
    Scanned (Option CliProxySseEvent) tokenizer := do
  let event ← scanner.frame.finish
  pure (event, { scanner with frame := {} })

def finishLine (scanner : SseSemanticScanner tokenizer) :
    Scanned (Option CompletedSseFrame) tokenizer :=
  if scanner.lineHasBytes then do
    let frame ← scanner.line.finish scanner.frame
    pure (none, { scanner with frame := frame, line := {}, lineHasBytes := false })
  else do
    let (event, scanner) ← scanner.finishFrame
    pure (some ⟨event⟩, scanner)

def pushLineByte (scanner : SseSemanticScanner tokenizer) (byte : UInt8) :
    Except SseThrown (SseSemanticScanner tokenizer) := do
  let (line, frame) ← scanner.line.push scanner.frame byte
  pure { scanner with line := line, frame := frame, lineHasBytes := true }

def pushResolvedByte (scanner : SseSemanticScanner tokenizer) (byte : UInt8) :
    Scanned (Option CompletedSseFrame) tokenizer :=
  if scanner.pendingCr then
    let scanner := { scanner with pendingCr := false }
    if byte = asciiLf then scanner.finishLine
    else do
      let (completed, scanner) ← scanner.finishLine
      if byte = asciiCr then pure (completed, { scanner with pendingCr := true })
      else do
        let scanner ← scanner.pushLineByte byte
        pure (completed, scanner)
  else if byte = asciiCr then pure (none, { scanner with pendingCr := true })
  else if byte = asciiLf then scanner.finishLine
  else do
    let scanner ← scanner.pushLineByte byte
    pure (none, scanner)

/-- The bytes held back as a possible byte order mark; the first frame that completes counts. -/
def pushPending : List UInt8 → SseSemanticScanner tokenizer →
    Scanned (Option CompletedSseFrame) tokenizer
  | [], scanner => pure (none, scanner)
  | pending :: rest, scanner => do
    let (complete, scanner) ← scanner.pushResolvedByte pending
    match complete with
    | some frame => pure (some frame, scanner)
    | none => pushPending rest scanner

def pushInitialByte (scanner : SseSemanticScanner tokenizer) (byte : UInt8) :
    Scanned (Option CompletedSseFrame) tokenizer :=
  if utf8Bom[scanner.bomPending.length]? = some byte then
    let bomPending := scanner.bomPending ++ [byte]
    if bomPending.length = utf8Bom.length then
      pure (none, { scanner with bomResolved := true, bomPending := [] })
    else pure (none, { scanner with bomPending := bomPending })
  else do
    let (complete, scanner) ← pushPending scanner.bomPending { scanner with bomResolved := true }
    let scanner := { scanner with bomPending := [] }
    match complete with
    | some frame => pure (some frame, scanner)
    | none => scanner.pushResolvedByte byte

def push (scanner : SseSemanticScanner tokenizer) (byte : UInt8) :
    Scanned (Option CompletedSseFrame) tokenizer :=
  if scanner.bomResolved then scanner.pushResolvedByte byte else scanner.pushInitialByte byte

/-- The bytes held back at the end; whatever they complete is left. -/
def releasePending : List UInt8 → SseSemanticScanner tokenizer →
    Except SseThrown (SseSemanticScanner tokenizer)
  | [], scanner => pure scanner
  | pending :: rest, scanner => do
    let (_, scanner) ← scanner.pushResolvedByte pending
    releasePending rest scanner

def finishBom (scanner : SseSemanticScanner tokenizer) :
    Except SseThrown (SseSemanticScanner tokenizer) :=
  if scanner.bomResolved then pure scanner
  else do
    let scanner ← releasePending scanner.bomPending { scanner with bomResolved := true }
    pure { scanner with bomPending := [] }

def finishCr (scanner : SseSemanticScanner tokenizer) :
    Scanned (Option CompletedSseFrame) tokenizer :=
  if scanner.pendingCr then { scanner with pendingCr := false }.finishLine
  else pure (none, scanner)

def finishLastLine (scanner : SseSemanticScanner tokenizer) :
    Except SseThrown (SseSemanticScanner tokenizer) :=
  if scanner.lineHasBytes then do
    let frame ← scanner.line.finish scanner.frame
    pure { scanner with frame := frame, line := {}, lineHasBytes := false }
  else pure scanner

def finish (scanner : SseSemanticScanner tokenizer) :
    Scanned (Option CliProxySseEvent) tokenizer := do
  let scanner ← scanner.finishBom
  let (completed, scanner) ← scanner.finishCr
  match completed.bind CompletedSseFrame.event with
  | some event => pure (some event, scanner)
  | none => do
    let scanner ← scanner.finishLastLine
    scanner.finishFrame

end SseSemanticScanner

/-! ### The stream -/

/-- The events that were passed on, and what the stream was left with. -/
structure Scan (α : Type) where
  events : List CliProxySseEvent
  result : Except SseThrown α

def Scan.prepend {α : Type} (events : List CliProxySseEvent) (scan : Scan α) : Scan α :=
  { scan with events := events ++ scan.events }

def scanBytes (scanner : SseSemanticScanner tokenizer) :
    List UInt8 → Scan (SseSemanticScanner tokenizer)
  | [] => ⟨[], .ok scanner⟩
  | byte :: rest =>
    match scanner.push byte with
    | .error thrown => ⟨[], .error thrown⟩
    | .ok (complete, scanner) =>
      (scanBytes scanner rest).prepend (complete.bind CompletedSseFrame.event).toList

def scanChunks (scanner : SseSemanticScanner tokenizer) :
    List (List UInt8) → Scan (SseSemanticScanner tokenizer)
  | [] => ⟨[], .ok scanner⟩
  | chunk :: rest =>
    let scanned := scanBytes scanner chunk
    match scanned.result with
    | .error thrown => ⟨scanned.events, .error thrown⟩
    | .ok scanner => (scanChunks scanner rest).prepend scanned.events

def finishScan (scanned : Scan (SseSemanticScanner tokenizer)) : Scan Unit :=
  match scanned.result with
  | .error thrown => ⟨scanned.events, .error thrown⟩
  | .ok scanner =>
    match scanner.finish with
    | .error thrown => ⟨scanned.events, .error thrown⟩
    | .ok (event, _) => ⟨scanned.events ++ event.toList, .ok ()⟩

variable (tokenizer) in
/-- The events of a response that arrives in chunks, and the error that ends them if one does. -/
def parseCliProxySse (chunks : List (List UInt8)) : List CliProxySseEvent × Option RelayError :=
  let scanned := finishScan (scanChunks ({} : SseSemanticScanner tokenizer) chunks)
  (scanned.events, match scanned.result with
    | .ok () => none
    | .error thrown => some (cliProxyStreamError thrown))

end Scanner

end Frely.Providers
