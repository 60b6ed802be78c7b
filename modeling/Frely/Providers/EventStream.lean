import Frely.Providers.Sse

/-!
# The event-stream format

What a whole stream means, without a scanner.  Its lines end in LF, CR or CRLF (`Lines`), and a line
is a field name, a colon and a value, of which one leading space is not part.  A blank line ends a
frame, and so does the end of the stream.  The data of a frame are the values of its `data` fields,
joined by LF, and its name is the last value of an `event` field; other fields, and comments, whose
name is empty, mean nothing.  Data is a JSON text or `[DONE]`.

`StreamEvents` says what the events of a stream are, up to the first frame whose data is neither.
-/

namespace Frely.Providers

open Utf8

/-- A line has no line end in it. -/
def OneLine (line : List UInt8) : Prop := asciiLf ∉ line ∧ asciiCr ∉ line

/-- The lines of a stream.  What follows the last line end is a line if it is not empty. -/
inductive Lines : List UInt8 → List (List UInt8) → Prop
  | nil : Lines [] []
  | last {line} : OneLine line → line ≠ [] → Lines line [line]
  | lf {line rest lines} : OneLine line → Lines rest lines →
      Lines (line ++ asciiLf :: rest) (line :: lines)
  | crlf {line rest lines} : OneLine line → Lines rest lines →
      Lines (line ++ asciiCr :: asciiLf :: rest) (line :: lines)
  | cr {line rest lines} : OneLine line → rest.head? ≠ some asciiLf → Lines rest lines →
      Lines (line ++ asciiCr :: rest) (line :: lines)

/-- The lines of a stream of which a first part of a line has been read.  A LF right after a CR ends
no line of its own. -/
def linesFrom (afterCr : Bool) (line : List UInt8) : List UInt8 → List (List UInt8)
  | [] => if line = [] then [] else [line]
  | byte :: rest =>
    if byte = asciiCr then line :: linesFrom true [] rest
    else if byte = asciiLf then
      if afterCr then linesFrom false line rest else line :: linesFrom false [] rest
    else linesFrom false (line ++ [byte]) rest

theorem linesFrom_line {line bytes : List UInt8} (hline : OneLine line) (rest : List UInt8) :
    linesFrom false bytes (line ++ rest) = linesFrom false (bytes ++ line) rest := by
  induction line generalizing bytes with
  | nil => rw [List.nil_append, List.append_nil]
  | cons byte line ih =>
    obtain ⟨hlf, hcr⟩ := hline
    rw [List.mem_cons, not_or] at hlf hcr
    rw [List.cons_append, linesFrom, if_neg (Ne.symm hcr.1), if_neg (Ne.symm hlf.1),
      ih ⟨hlf.2, hcr.2⟩, List.append_assoc, List.singleton_append]

theorem lines_linesFrom (bytes : List UInt8) :
    (∀ line, OneLine line → Lines (line ++ bytes) (linesFrom false line bytes)) ∧
      ∀ line, OneLine line → Lines (line ++ asciiCr :: bytes)
        (line :: linesFrom true [] bytes) := by
  have hempty : OneLine [] := ⟨List.not_mem_nil, List.not_mem_nil⟩
  have hbyte : ∀ {line : List UInt8} {byte : UInt8}, OneLine line → byte ≠ asciiCr →
      byte ≠ asciiLf → OneLine (line ++ [byte]) := by
    intro line byte hline hcr hlf
    refine ⟨?_, ?_⟩
    · rw [List.mem_append, List.mem_singleton]
      exact fun h => h.elim hline.1 fun heq => hlf heq.symm
    · rw [List.mem_append, List.mem_singleton]
      exact fun h => h.elim hline.2 fun heq => hcr heq.symm
  -- a return may be half of a line's end: the states before and behind one go together
  induction bytes with
  | nil =>
    refine ⟨fun line hline => ?_, fun line hline => .cr hline nofun .nil⟩
    rw [List.append_nil, linesFrom]
    split
    · rename_i hnil
      rw [hnil]
      exact .nil
    · rename_i hne
      exact .last hline hne
  | cons byte rest ih =>
    obtain ⟨ihLine, ihCr⟩ := ih
    constructor
    · intro line hline
      rw [linesFrom]
      split
      · rename_i hcr
        rw [hcr]
        exact ihCr line hline
      · split
        · rename_i hlf
          rw [hlf]
          exact .lf hline (ihLine [] hempty)
        · rename_i hcr hlf
          have hrest := ihLine (line ++ [byte]) (hbyte hline hcr hlf)
          rw [List.append_assoc, List.singleton_append] at hrest
          exact hrest
    · intro line hline
      rw [linesFrom]
      split
      · rename_i hcr
        rw [hcr]
        have hhead : (asciiCr :: rest).head? ≠ some asciiLf := by
          rw [List.head?_cons]
          decide
        exact .cr hline hhead (ihCr [] hempty)
      · split
        · rename_i hlf
          rw [hlf]
          exact .crlf hline (ihLine [] hempty)
        · rename_i hcr hlf
          have hhead : (byte :: rest).head? ≠ some asciiLf := by
            rw [List.head?_cons]
            exact fun heq => hlf (Option.some.inj heq)
          exact .cr hline hhead (ihLine [byte] (hbyte hempty hcr hlf))

/-- A stream has its lines in one way. -/
theorem lines_iff {bytes : List UInt8} {lines : List (List UInt8)} :
    Lines bytes lines ↔ lines = linesFrom false [] bytes := by
  constructor
  · intro h
    induction h with
    | nil => rfl
    | @last line hline hne =>
      have hlast := @linesFrom_line line [] hline []
      rw [List.append_nil, List.nil_append] at hlast
      rw [hlast, linesFrom, if_neg hne]
    | @lf line rest lines hline _ ih =>
      rw [linesFrom_line hline, List.nil_append, linesFrom, if_neg (by decide), if_pos rfl, ih]
      rfl
    | @crlf line rest lines hline _ ih =>
      rw [linesFrom_line hline, List.nil_append, linesFrom, if_pos rfl, linesFrom,
        if_neg (by decide), if_pos rfl, if_pos rfl, ih]
    | @cr line rest lines hline hhead _ ih =>
      have hsame : linesFrom true [] rest = linesFrom false [] rest := by
        cases rest with
        | nil => rfl
        | cons byte rest =>
          have hlf : byte ≠ asciiLf := fun heq => hhead (congrArg some heq)
          rw [linesFrom, linesFrom, if_neg hlf]
          simp [hlf]
      rw [linesFrom_line hline, List.nil_append, linesFrom, if_pos rfl, hsame, ih]
  · rintro rfl
    exact (lines_linesFrom bytes).1 [] ⟨List.not_mem_nil, List.not_mem_nil⟩

def withoutBom (bytes : List UInt8) : List UInt8 :=
  if utf8Bom.isPrefixOf bytes then bytes.drop utf8Bom.length else bytes

/-- The name and the value of the field on a line. -/
def fieldOf (line : List UInt8) : List UInt8 × List UInt8 :=
  let name := line.takeWhile (· ≠ asciiColon)
  let value := (line.dropWhile (· ≠ asciiColon)).drop 1
  (name, if value.head? = some asciiSpace then value.drop 1 else value)

/-- The values of a field, in order. -/
def fieldValues (name : List UInt8) (frame : List (List UInt8)) : List (List UInt8) :=
  ((frame.map fieldOf).filter (·.1 = name)).map (·.2)

/-- The frames of the lines that follow a first part of a frame. -/
def framesFrom (frame : List (List UInt8)) : List (List UInt8) → List (List (List UInt8))
  | [] => [frame]
  | line :: rest =>
    if line = [] then frame :: framesFrom [] rest else framesFrom (frame ++ [line]) rest

section Values

variable (tokenizer : JsonTokenizer)

/-- No text is no write. -/
def JsonTokenizer.writeText (state : tokenizer.State) (text : List Char) :
    Option (tokenizer.State × List JsonToken) :=
  if text = [] then some (state, []) else tokenizer.write state text

/-- The value that the tokens of a whole text make. -/
def jsonValue (text : List Char) : Option JsonValue := do
  let (state, tokens) ← tokenizer.writeText tokenizer.start text
  let last ← tokenizer.finish state
  let assembly ← (tokens ++ last).foldlM JsonAssembly.consume {}
  if assembly.stack = [] ∧ assembly.rootComplete then assembly.root else none

def isDone (body : List UInt8) : Bool :=
  doneBytes.isPrefixOf body && (body.drop doneBytes.length).all isJsonWhitespace

/-- A JSON text after white space, with the bytes of both. -/
def jsonData (whitespace : Nat) (body : List UInt8) : Option (JsonValue × Nat) :=
  (jsonValue tokenizer (decodeAll body)).map (·, utf8Length (decodeAll body) + whitespace)

/-- The meaning of the data of a frame: none for `[DONE]`. -/
def dataValue (data : List UInt8) : Option (Option (JsonValue × Nat)) :=
  let body := data.dropWhile isJsonWhitespace
  if body = [] then none
  else if isDone body then some none
  else (jsonData tokenizer (data.length - body.length) body).map some

/-- The event of a frame, if it has one; no result if its data mean nothing. -/
def frameEvent (frame : List (List UInt8)) : Option (Option CliProxySseEvent) :=
  let data := fieldValues dataField frame
  let name := (fieldValues eventField frame).getLast?.map decodeAll
  if data = [] then some none
  else (dataValue tokenizer (List.intercalate [asciiLf] data)).map fun value =>
    some (match value with
    | none => .done
    | some (value, dataBytes) => .event (name.filter (· ≠ [])) value dataBytes)

end Values

/-- The events up to the first frame without a meaning, and whether there is one. -/
def collect : List (Option (Option CliProxySseEvent)) → List CliProxySseEvent × Bool
  | [] => ([], false)
  | none :: _ => ([], true)
  | some event :: rest => (event.toList ++ (collect rest).1, (collect rest).2)

/-- The events of a stream, and whether it has a frame without a meaning. -/
def StreamEvents (tokenizer : JsonTokenizer) (bytes : List UInt8)
    (outcome : List CliProxySseEvent × Bool) : Prop :=
  ∃ lines, Lines (withoutBom bytes) lines ∧
    outcome = collect ((framesFrom [] lines).map (frameEvent tokenizer))

end Frely.Providers
