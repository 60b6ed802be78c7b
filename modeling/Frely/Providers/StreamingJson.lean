import Frely.Lib.Utf8
import Mathlib.Algebra.Ring.Int.Defs
import Mathlib.Algebra.Ring.Nat

/-!
# Assembling a JSON value from pieces

`StreamingJsonValueParser` decodes pieces of UTF-8, hands the text to a tokenizer and assembles one
value from its tokens, without keeping the text.  The tokenizer is another package's and a parameter
here.  What is thrown is not told apart, as no caller does: a step that throws has no result.

A container is attached to its parent when it starts and filled later.  The parent's copy is brought
up to date when the container ends, `closeContainer`; nothing reads it before.
-/

namespace Frely.Providers

open Utf8

/-- The code units of a text, which escapes may give without their pairs. -/
abbrev JsString := List UInt16

/-- A number is kept as its literal. -/
inductive JsonValue where
  | null
  | bool (value : Bool)
  | number (literal : JsString)
  | string (value : JsString)
  | array (items : List JsonValue)
  | object (members : List (JsString × JsonValue))

inductive JsonToken where
  | startObject
  | endObject
  | startArray
  | endArray
  | keyValue (value : JsString)
  | stringValue (value : JsString)
  | numberValue (value : JsString)
  | nullValue
  | trueValue
  | falseValue

/-- The tokenizer takes text piece by piece and gives the tokens that are complete. -/
structure JsonTokenizer where
  State : Type
  start : State
  write : State → List Char → Option (State × List JsonToken)
  finish : State → Option (List JsonToken)

/-- What the tokenizer promises: text may come in any pieces, and no JSON text starts with `[D`. -/
structure JsonTokenizer.Documented (tokenizer : JsonTokenizer) : Prop where
  append : ∀ state text more, text ≠ [] → more ≠ [] →
    tokenizer.write state (text ++ more) = do
      let (state, tokens) ← tokenizer.write state text
      let (state, last) ← tokenizer.write state more
      pure (state, tokens ++ last)
  rejectsDone : ∀ text state tokens, ['[', 'D'] <+: text →
    tokenizer.write tokenizer.start text = some (state, tokens) → tokenizer.finish state = none

inductive ObjectState where
  | keyOrEnd
  | key
  | colon
  | value
  | commaOrEnd
deriving DecidableEq

inductive ArrayState where
  | valueOrEnd
  | value
  | commaOrEnd
deriving DecidableEq

structure ObjectFrame where
  value : List (JsString × JsonValue)
  state : ObjectState
  key : Option JsString

structure ArrayFrame where
  value : List JsonValue
  state : ArrayState

inductive ContainerFrame where
  | object (frame : ObjectFrame)
  | array (frame : ArrayFrame)

def ContainerFrame.container : ContainerFrame → JsonValue
  | object frame => .object frame.value
  | array frame => .array frame.value

/-- The containers that are open, the innermost first, and the value they belong to. -/
structure JsonAssembly where
  stack : List ContainerFrame := []
  root : Option JsonValue := none
  rootComplete : Bool := false

/-- A property that exists already takes the new value in its place. -/
def defineProperty (members : List (JsString × JsonValue)) (key : JsString) (value : JsonValue) :
    List (JsString × JsonValue) :=
  if members.any (·.1 = key) then
    members.map fun member => if member.1 = key then (key, value) else member
  else members ++ [(key, value)]

namespace JsonAssembly

def attachValue (assembly : JsonAssembly) (value : JsonValue) : Option JsonAssembly :=
  match assembly.stack with
  | [] =>
    if assembly.root.isSome then none else some { assembly with root := some value }
  | .array parent :: rest =>
    if parent.state = .value ∨ parent.state = .valueOrEnd then
      let parent := { value := parent.value ++ [value], state := .commaOrEnd }
      some { assembly with stack := .array parent :: rest }
    else none
  | .object parent :: rest =>
    match parent.key with
    | some key =>
      if parent.state = .value then
        let parent := { parent with
          value := defineProperty parent.value key value
          state := .commaOrEnd }
        some { assembly with stack := .object parent :: rest }
      else none
    | none => none

/-- The innermost container ends; its parent has it as the last value attached. -/
def closeContainer (assembly : JsonAssembly) : JsonAssembly :=
  match assembly.stack with
  | [] => assembly
  | [frame] => { stack := [], root := some frame.container, rootComplete := true }
  | frame :: .array parent :: rest =>
    let parent := { parent with value := parent.value.dropLast ++ [frame.container] }
    { assembly with stack := .array parent :: rest }
  | frame :: .object parent :: rest =>
    let value := match parent.key with
      | some key => defineProperty parent.value key frame.container
      | none => parent.value
    { assembly with stack := .object { parent with value := value } :: rest }

def primitive : JsonToken → Option JsonValue
  | .nullValue => some .null
  | .trueValue => some (.bool true)
  | .falseValue => some (.bool false)
  | .numberValue literal => some (.number literal)
  | .stringValue value => some (.string value)
  | _ => none

def consumeValue (assembly : JsonAssembly) (token : JsonToken) : Option JsonAssembly :=
  match primitive token, token with
  | some value, _ => do
    let attached ← assembly.attachValue value
    pure (if attached.stack = [] then { attached with rootComplete := true } else attached)
  | none, .startObject => do
    let attached ← assembly.attachValue (.object [])
    pure { attached with stack := .object ⟨[], .keyOrEnd, none⟩ :: attached.stack }
  | none, .startArray => do
    let attached ← assembly.attachValue (.array [])
    pure { attached with stack := .array ⟨[], .valueOrEnd⟩ :: attached.stack }
  | none, _ => none

def consumeObject (assembly : JsonAssembly) (frame : ObjectFrame) (rest : List ContainerFrame)
    (token : JsonToken) : Option JsonAssembly :=
  let become (frame : ObjectFrame) : JsonAssembly :=
    { assembly with stack := .object frame :: rest }
  match frame.state, token with
  | .keyOrEnd, .endObject => some assembly.closeContainer
  | .keyOrEnd, .keyValue key => some (become { frame with key := some key, state := .colon })
  | .keyOrEnd, _ => none
  | .key, .keyValue key => some (become { frame with key := some key, state := .colon })
  | .key, _ => none
  | .colon, token => (become { frame with state := .value }).consumeValue token
  | .value, token => assembly.consumeValue token
  | .commaOrEnd, .keyValue key => some (become { frame with key := some key, state := .colon })
  | .commaOrEnd, .endObject => some assembly.closeContainer
  | .commaOrEnd, _ => none

def consumeArray (assembly : JsonAssembly) (frame : ArrayFrame) (rest : List ContainerFrame)
    (token : JsonToken) : Option JsonAssembly :=
  match frame.state, token with
  | .valueOrEnd, .endArray => some assembly.closeContainer
  | .valueOrEnd, token => assembly.consumeValue token
  | .value, token => assembly.consumeValue token
  | .commaOrEnd, .endArray => some assembly.closeContainer
  | .commaOrEnd, token =>
    consumeValue { assembly with stack := .array { frame with state := .value } :: rest } token

def consume (assembly : JsonAssembly) (token : JsonToken) : Option JsonAssembly :=
  match assembly.stack with
  | .object frame :: rest => assembly.consumeObject frame rest token
  | .array frame :: rest => assembly.consumeArray frame rest token
  | [] =>
    if assembly.rootComplete ∨ assembly.root.isSome then none else assembly.consumeValue token

end JsonAssembly

/-- A parser that has not ended; `finish` leaves none. -/
structure StreamingJsonValueParser (tokenizer : JsonTokenizer) where
  decoder : Decoder := {}
  tokens : tokenizer.State := tokenizer.start
  assembly : JsonAssembly := {}
  decodedBytes : Nat := 0

structure StreamingJsonResult where
  value : Option JsonValue
  decodedByteLength : Nat

def utf8Length (text : List Char) : Nat := (text.map Char.utf8Size).sum

namespace StreamingJsonValueParser

variable {tokenizer : JsonTokenizer}

def consumeOutput (parser : StreamingJsonValueParser tokenizer) (tokens : List JsonToken) :
    Option (StreamingJsonValueParser tokenizer) := do
  let assembly ← tokens.foldlM JsonAssembly.consume parser.assembly
  pure { parser with assembly := assembly }

def writeDecoded (parser : StreamingJsonValueParser tokenizer) (decoded : List Char) :
    Option (StreamingJsonValueParser tokenizer) :=
  if decoded = [] then some parser
  else do
    let (state, tokens) ← tokenizer.write parser.tokens decoded
    let parser := { parser with
      tokens := state
      decodedBytes := parser.decodedBytes + utf8Length decoded }
    parser.consumeOutput tokens

def write (parser : StreamingJsonValueParser tokenizer) (bytes : List UInt8) :
    Option (StreamingJsonValueParser tokenizer) :=
  let (decoder, decoded) := parser.decoder.decode bytes
  { parser with decoder := decoder }.writeDecoded decoded

def finish (parser : StreamingJsonValueParser tokenizer) : Option StreamingJsonResult := do
  let parser ← parser.writeDecoded parser.decoder.flush
  let tokens ← tokenizer.finish parser.tokens
  let parser ← parser.consumeOutput tokens
  if parser.assembly.stack ≠ [] ∨ (parser.assembly.root.isSome ∧ ¬parser.assembly.rootComplete) then
    none
  else
    pure {
      value := if parser.assembly.rootComplete then parser.assembly.root else none
      decodedByteLength := parser.decodedBytes }

end StreamingJsonValueParser

end Frely.Providers
