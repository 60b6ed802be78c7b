import Frely.Providers.EventStream

/-!
# JSON texts

A JSON text by its grammar, in which an object may have a key more than once, with the tokens that
the tokenizer documents for it and the value that `JSON.parse` returns.
-/

namespace Frely.Providers

/-- A value of a JSON text: numbers by their literals, strings with their escapes resolved. -/
inductive JsonText where
  | null
  | bool (value : Bool)
  | number (literal : JsString)
  | string (value : JsString)
  | array (items : List JsonText)
  | object (members : List (JsString × JsonText))

namespace JsonText

theorem induction {P : JsonText → Prop} (null : P .null) (bool : ∀ value, P (.bool value))
    (number : ∀ literal, P (.number literal)) (string : ∀ value, P (.string value))
    (array : ∀ items, (∀ item ∈ items, P item) → P (.array items))
    (object : ∀ members, (∀ member ∈ members, P member.2) → P (.object members))
    (text : JsonText) : P text := by
  refine @JsonText.rec P (fun items => ∀ item ∈ items, P item)
    (fun members => ∀ member ∈ members, P member.2) (fun member => P member.2) null bool number
    string array object ?_ ?_ ?_ ?_ ?_ text
  · intro item hitem
    cases hitem
  · intro head rest hhead hrest
    exact List.forall_mem_cons.mpr ⟨hhead, hrest⟩
  · intro member hmember
    cases hmember
  · intro head rest hhead hrest
    exact List.forall_mem_cons.mpr ⟨hhead, hrest⟩
  · intro key value hvalue
    exact hvalue

/-! ### Tokens -/

def boolToken (value : Bool) : JsonToken := if value then .trueValue else .falseValue

mutual

/-- The tokens of a text, with packed values and without streamed ones. -/
def tokens : JsonText → List JsonToken
  | .null => [.nullValue]
  | .bool value => [boolToken value]
  | .number literal => [.numberValue literal]
  | .string value => [.stringValue value]
  | .array items => .startArray :: tokensOfItems items ++ [.endArray]
  | .object members => .startObject :: tokensOfMembers members ++ [.endObject]

def tokensOfItems : List JsonText → List JsonToken
  | [] => []
  | item :: rest => tokens item ++ tokensOfItems rest

def tokensOfMembers : List (JsString × JsonText) → List JsonToken
  | [] => []
  | (key, value) :: rest => .keyValue key :: tokens value ++ tokensOfMembers rest

end

/-! ### Values -/

/-- Every key once, where it occurs first, with the value it has last. -/
def lastValues (members : List (JsString × JsonValue)) : List (JsString × JsonValue) :=
  (members.map (·.1)).eraseDups.map fun key => (key, (members.reverse.lookup key).getD .null)

mutual

/-- `JSON.parse`. -/
def parse : JsonText → JsonValue
  | .null => .null
  | .bool value => .bool value
  | .number literal => .number literal
  | .string value => .string value
  | .array items => .array (parseItems items)
  | .object members => .object (lastValues (parseMembers members))

def parseItems : List JsonText → List JsonValue
  | [] => []
  | item :: rest => parse item :: parseItems rest

def parseMembers : List (JsString × JsonText) → List (JsString × JsonValue)
  | [] => []
  | (key, value) :: rest => (key, parse value) :: parseMembers rest

end

end JsonText

/-! ### The parser on pieces -/

namespace JsonTokenizer

variable (tokenizer : JsonTokenizer)

/-- The tokens that the parser is given for bytes in pieces. -/
def emitted (decoder : Utf8.Decoder) (state : tokenizer.State) :
    List (List UInt8) → Option (List JsonToken)
  | [] => do
    let (state, tokens) ← tokenizer.writeText state decoder.flush
    let last ← tokenizer.finish state
    pure (tokens ++ last)
  | bytes :: rest => do
    let (state, tokens) ← tokenizer.writeText state (decoder.decode bytes).2
    let more ← emitted (decoder.decode bytes).1 state rest
    pure (tokens ++ more)

end JsonTokenizer

/-- The parser on bytes in pieces: `write` for each of them, then `finish`. -/
def StreamingJsonValueParser.parse {tokenizer : JsonTokenizer}
    (parser : StreamingJsonValueParser tokenizer) : List (List UInt8) → Option StreamingJsonResult
  | [] => parser.finish
  | bytes :: rest => do
    let parser ← parser.write bytes
    parser.parse rest

end Frely.Providers
