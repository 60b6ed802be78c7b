import Frely.Providers.Equiv.StreamingJson
import Mathlib.Data.List.Induction

/-!
# The scanner reads frames

What the scanner makes of the parts of a frame is what the format says, from the inside out: the
data (`run_data`), the field on a line (`scanLine_eq`), and a frame of lines (`frameResult_eq`).
-/

namespace Frely.Providers

open Utf8 Blocks

variable {tokenizer : JsonTokenizer}

/-! ### Data -/

variable {data : SseJsonData tokenizer}

namespace SseJsonData

/-- The rest of the data and its end. -/
def run (data : SseJsonData tokenizer) (bytes : List UInt8) :
    Option (Option (JsonValue × Nat)) := do
  let data ← bytes.foldlM push data
  data.finish

theorem run_cons (data : SseJsonData tokenizer) (byte : UInt8) (rest : List UInt8) :
    data.run (byte :: rest) = data.push byte >>= fun data => data.run rest := by
  unfold run
  rw [List.foldlM_cons, bind_assoc]

/-- A JSON text is written to the parser whole. -/
theorem run_json (h : tokenizer.Documented) {sink : JsonByteSink tokenizer}
    (hmode : data.mode = .json) (hsink : data.sink = some sink) (bytes : List UInt8) :
    data.run bytes = (do
      let parser ← (sink.sink.write (sink.pending ++ bytes))
      let parsed ← parser.finish
      let value ← parsed.value
      pure (some (value, parsed.decodedByteLength + data.discardedWhitespaceBytes))) := by
  have hfold : ∀ (bytes : List UInt8) (data : SseJsonData tokenizer)
    (sink : JsonByteSink tokenizer),
      data.mode = .json → data.sink = some sink →
      bytes.foldlM push data =
        (bytes.foldlM JsonByteSink.push sink).map fun sink => { data with sink := some sink } := by
    intro bytes
    induction bytes with
    | nil =>
      intro data sink _ hsink
      obtain ⟨mode, candidateLength, discarded, lineCount, dataSink⟩ := data
      subst hsink
      rfl
    | cons byte rest ih =>
      intro data sink hmode hsink
      have hpush : data.push byte = (sink.push byte).map fun sink =>
          { data with sink := some sink } := by
        unfold push
        rw [hmode]
        dsimp only
        rw [hsink]
        dsimp only
        cases sink.push byte <;> rfl
      rw [List.foldlM_cons, List.foldlM_cons, hpush]
      cases sink.push byte with
      | none => rfl
      | some sink' => exact ih { data with sink := some sink' } sink' hmode rfl
  have hfinish : ∀ sink' : JsonByteSink tokenizer,
      ({ data with sink := some sink' } : SseJsonData tokenizer).finish =
        (Blocks.Writer.flush StreamingJsonValueParser.write sink').bind fun parser =>
          parser.finish.bind fun parsed => parsed.value.bind fun value =>
            pure (some (value, parsed.decodedByteLength + data.discardedWhitespaceBytes)) := by
    intro sink'
    have hcandidate : ({ data with sink := some sink' } : SseJsonData tokenizer).finishCandidate =
        some { data with sink := some sink' } := if_neg (by simp [hmode])
    unfold finish JsonByteSink.finish
    rw [if_neg (by simp [hmode]), hcandidate]
    simp only [Option.bind_eq_bind, Option.bind_some, Option.bind_assoc]
  unfold run
  rw [hfold bytes data sink hmode hsink]
  have hwrite := push_flush (StreamingJsonValueParser.write_concatenates h) (64 * 1024) sink bytes
  have hpushes : bytes.foldlM (Blocks.Writer.push (64 * 1024) StreamingJsonValueParser.write) sink =
      bytes.foldlM JsonByteSink.push sink := rfl
  rw [← hwrite, hpushes]
  cases bytes.foldlM JsonByteSink.push sink with
  | none => rfl
  | some sink' =>
    simp only [Option.map_some, Option.bind_eq_bind, Option.bind_some, hfinish]

theorem run_startJson (h : tokenizer.Documented) (data : SseJsonData tokenizer)
    (first bytes : List UInt8) :
    (data.startJson first >>= fun data => data.run bytes) =
      (jsonData tokenizer data.discardedWhitespaceBytes (first ++ bytes)).map some := by
  have hwrite : (first.foldlM JsonByteSink.push JsonByteSink.new >>= fun sink =>
      sink.sink.write (sink.pending ++ bytes)) =
        ({} : StreamingJsonValueParser tokenizer).write (first ++ bytes) :=
    push_write (StreamingJsonValueParser.write_concatenates h) (64 * 1024) JsonByteSink.new first
      bytes
  rw [← StreamingJsonValueParser.finish_write h, ← hwrite]
  unfold startJson
  cases first.foldlM JsonByteSink.push (JsonByteSink.new : JsonByteSink tokenizer) with
  | none => rfl
  | some sink =>
    simp only [Option.bind_eq_bind, Option.bind_some, Option.pure_def]
    rw [run_json h rfl rfl]
    simp only [Option.bind_eq_bind, Option.map_bind, Function.comp_def, Option.pure_def,
      Option.map_some]

/-- `[DONE]` and more is no JSON text. -/
theorem jsonData_done (h : tokenizer.Documented) (whitespace : Nat) (rest : List UInt8) :
    jsonData tokenizer whitespace (doneBytes ++ rest) = none := by
  have hstarts : ['[', 'D'] <+: decodeAll (doneBytes ++ rest) := ⟨_, rfl⟩
  unfold jsonData
  rw [StreamingJsonValueParser.jsonValue_done h hstarts]
  rfl

/-- After `[DONE]` only white space may follow. -/
theorem run_trailing (h : tokenizer.Documented) {data : SseJsonData tokenizer}
    (hmode : data.mode = .trailing) (bytes : List UInt8) :
    data.run bytes = if bytes.all isJsonWhitespace then some none else none := by
  induction bytes generalizing data with
  | nil =>
    unfold run finish
    simp [hmode]
  | cons byte rest ih =>
    rw [run_cons]
    unfold push
    rw [hmode]
    dsimp only
    by_cases hwhite : isJsonWhitespace byte = true
    · rw [if_pos hwhite]
      simp only [Option.bind_eq_bind, Option.bind_some, List.all_cons, hwhite, Bool.true_and]
      exact ih rfl
    · rw [if_neg hwhite, run_startJson h, List.append_assoc, jsonData_done h]
      simp [hwhite]

variable (tokenizer) in
/-- What data mean from their first byte that is not white space. -/
def bodyValue (whitespace : Nat) (body : List UInt8) : Option (Option (JsonValue × Nat)) :=
  if isDone body then some none else (jsonData tokenizer whitespace body).map some

theorem run_nil_candidate (hmode : data.mode = .candidate) :
    data.run [] = data.startJson (doneBytes.take data.candidateLength) >>= fun data =>
      data.run [] := by
  have hcandidate : data.finishCandidate = data.startJson (doneBytes.take data.candidateLength) :=
    if_pos hmode
  unfold run
  rw [List.foldlM_nil, pure_bind]
  unfold finish
  rw [if_neg (by simp [hmode]), hcandidate]
  unfold startJson
  cases (doneBytes.take data.candidateLength).foldlM JsonByteSink.push
    (JsonByteSink.new : JsonByteSink tokenizer) with
  | none => rfl
  | some sink => rfl

theorem isDone_ne {k : Nat} {byte : UInt8} {rest : List UInt8} (hk : k < doneBytes.length)
    (hne : doneBytes[k]? ≠ some byte) : isDone (doneBytes.take k ++ byte :: rest) = false := by
  rw [Bool.eq_false_iff]
  intro hdone
  unfold isDone at hdone
  rw [Bool.and_eq_true, List.isPrefixOf_iff_prefix] at hdone
  obtain ⟨⟨more, hmore⟩, -⟩ := hdone
  apply hne
  have hlength : (doneBytes.take k).length = k := List.length_take_of_le (Nat.le_of_lt hk)
  have hat : (doneBytes ++ more)[k]? = (doneBytes.take k ++ byte :: rest)[k]? := by rw [hmore]
  rw [List.getElem?_append_left hk, List.getElem?_append_right (Nat.le_of_eq hlength), hlength,
    Nat.sub_self]
    at hat
  exact hat

/-- A part of `[DONE]` may go on to be that, or be the start of a JSON text. -/
theorem run_candidate (h : tokenizer.Documented) (hmode : data.mode = .candidate)
    (hlength : data.candidateLength < doneBytes.length) (bytes : List UInt8) : data.run bytes =
      bodyValue tokenizer data.discardedWhitespaceBytes
        (doneBytes.take data.candidateLength ++ bytes) := by
  induction bytes generalizing data with
  | nil =>
    have hnot : isDone (doneBytes.take data.candidateLength ++ []) = false := by
      rw [List.append_nil]
      generalize data.candidateLength = k at hlength
      revert k
      decide
    rw [run_nil_candidate hmode, run_startJson h]
    unfold bodyValue
    rw [if_neg (Bool.eq_false_iff.mp hnot)]
  | cons byte rest ih =>
    rw [run_cons]
    unfold push
    rw [hmode]
    dsimp only
    by_cases hnext : doneBytes[data.candidateLength]? = some byte
    · have htake : doneBytes.take data.candidateLength ++ byte :: rest =
          doneBytes.take (data.candidateLength + 1) ++ rest := by
        rw [List.take_add_one, hnext, Option.toList_some, List.append_assoc, List.singleton_append]
      rw [if_pos hnext, htake]
      simp only [Option.bind_eq_bind, Option.bind_some]
      by_cases hlast : data.candidateLength + 1 = doneBytes.length
      · rw [if_pos hlast, run_trailing h rfl, hlast, List.take_length]
        unfold bodyValue isDone
        have hpart : doneBytes.isPrefixOf (doneBytes ++ rest) = true :=
          List.isPrefixOf_iff_prefix.mpr (List.prefix_append _ _)
        rw [hpart, List.drop_left, Bool.true_and, jsonData_done h]
        rfl
      · rw [if_neg hlast]
        exact ih rfl (by dsimp only; omega)
    · rw [if_neg hnext, run_startJson h, List.append_assoc, List.singleton_append]
      unfold bodyValue
      rw [isDone_ne hlength hnext]
      rfl

/-- **Data.** The scanner makes of data what the format says. -/
theorem run_leading (h : tokenizer.Documented) (hmode : data.mode = .leading)
    (hsink : data.sink = none) (bytes : List UInt8) :
    data.run bytes =
      if bytes.dropWhile isJsonWhitespace = [] then none
      else bodyValue tokenizer
        (data.discardedWhitespaceBytes + (bytes.length - (bytes.dropWhile isJsonWhitespace).length))
        (bytes.dropWhile isJsonWhitespace) := by
  induction bytes generalizing data with
  | nil =>
    have hcandidate : data.finishCandidate = some data := if_neg (by simp [hmode])
    unfold run finish
    rw [List.foldlM_nil, pure_bind, if_neg (by simp [hmode]), hcandidate]
    simp [hsink]
  | cons byte rest ih =>
    rw [run_cons]
    unfold push
    rw [hmode]
    dsimp only
    by_cases hwhite : isJsonWhitespace byte = true
    · rw [if_pos hwhite, List.dropWhile_cons_of_pos hwhite]
      simp only [Option.bind_eq_bind, Option.bind_some]
      rw [@ih { data with mode := .leading, discardedWhitespaceBytes :=
        data.discardedWhitespaceBytes + 1 }
        rfl hsink]
      have hle := (List.dropWhile_suffix (l := rest) isJsonWhitespace).length_le
      have hcount : data.discardedWhitespaceBytes + 1 +
          (rest.length - (rest.dropWhile isJsonWhitespace).length) =
          data.discardedWhitespaceBytes +
            ((byte :: rest).length - (rest.dropWhile isJsonWhitespace).length) := by
        rw [List.length_cons]
        omega
      dsimp only
      rw [hcount]
    · rw [if_neg hwhite, List.dropWhile_cons_of_neg hwhite, if_neg (List.cons_ne_nil _ _),
        Nat.sub_self, Nat.add_zero]
      by_cases hfirst : doneBytes[0]? = some byte
      · rw [if_pos hfirst]
        simp only [Option.bind_eq_bind, Option.bind_some]
        rw [run_candidate h rfl (by dsimp only; decide)]
        have hbyte : byte = 91 := (Option.some.inj hfirst).symm
        subst hbyte
        rfl
      · rw [if_neg hfirst, run_startJson h, List.singleton_append]
        have hnot := @isDone_ne 0 byte rest (by decide) hfirst
        rw [List.take_zero, List.nil_append] at hnot
        unfold bodyValue
        rw [hnot]
        rfl

/-- Data from the start. -/
theorem run_data (h : tokenizer.Documented) (lineCount : Nat) (bytes : List UInt8) :
    ({ lineCount := lineCount } : SseJsonData tokenizer).run bytes = dataValue tokenizer bytes := by
  rw [run_leading h rfl rfl, Nat.zero_add]
  unfold dataValue bodyValue
  rfl

end SseJsonData

/-! ### Event names -/

namespace Utf8StringAccumulator

theorem write_concatenates : Concatenates Decoding.write where
  nil decoding := by
    unfold Decoding.write
    rw [show decoding.1.decode [] = (decoding.1, []) from rfl]
    dsimp only
    rw [List.append_nil]
  append decoding bytes more := by
    unfold Decoding.write
    rw [decode_append]
    dsimp only
    rw [← List.append_assoc]
    rfl

theorem finish_pushes (bytes : List UInt8) :
    (bytes.foldl push new).finish = decodeAll bytes := by
  have hfold : ∀ accumulator : Utf8StringAccumulator,
      bytes.foldl push accumulator =
        Id.run (bytes.foldlM (Blocks.Writer.push 4096 Decoding.write) accumulator) := by
    induction bytes with
    | nil => intro accumulator; rfl
    | cons byte rest ih =>
      intro accumulator
      rw [List.foldl_cons, ih]
      rfl
  have hwrite := push_flush write_concatenates 4096 new bytes
  have hflush : Id.run (Blocks.Writer.flush Decoding.write (bytes.foldl push new)) =
      Id.run (Decoding.write ({}, []) bytes) := by
    rw [hfold]
    exact hwrite
  unfold finish
  rw [hflush]
  rfl

end Utf8StringAccumulator

/-! ### Lines -/

/-- What a field adds to a frame. -/
def addField (frame : SseFrameBuilder tokenizer) (field : List UInt8 × List UInt8) :
    Except SseThrown (SseFrameBuilder tokenizer) :=
  if field.1 = dataField then do
    let frame ← frame.startDataLine
    field.2.foldlM SseFrameBuilder.pushDataByte frame
  else if field.1 = eventField then .ok (frame.setEventName (decodeAll field.2))
  else .ok frame

namespace SseLine

/-- The rest of a line and its end. -/
def run (line : SseLine) (frame : SseFrameBuilder tokenizer) (bytes : List UInt8) :
    Except SseThrown (SseFrameBuilder tokenizer) := do
  let (line, frame) ← bytes.foldlM (fun scanned byte => scanned.1.push scanned.2 byte) (line, frame)
  line.finish frame

variable {line : SseLine} {frame : SseFrameBuilder tokenizer}

theorem run_nil : line.run frame [] = line.finish frame := rfl

theorem run_cons (byte : UInt8) (rest : List UInt8) : line.run frame (byte :: rest) =
    line.push frame byte >>= fun scanned => scanned.1.run scanned.2 rest := by
  unfold run
  rw [List.foldlM_cons, bind_assoc]

theorem run_ignore (hmode : line.mode = .ignore) (bytes : List UInt8) :
    line.run frame bytes = .ok frame := by
  induction bytes with
  | nil =>
    rw [run_nil]
    unfold finish finishField
    simp [hmode, pure, Except.pure, bind, Except.bind]
  | cons byte rest ih =>
    have hpush : line.push frame byte = .ok (line, frame) := by
      unfold push
      rw [hmode]
    rw [run_cons, hpush]
    exact ih

theorem run_dataBytes (hmode : line.mode = .data) (bytes : List UInt8) :
    line.run frame bytes = bytes.foldlM SseFrameBuilder.pushDataByte frame := by
  induction bytes generalizing frame with
  | nil =>
    rw [run_nil]
    unfold finish finishField
    simp [hmode, pure, Except.pure, bind, Except.bind]
  | cons byte rest ih =>
    have hpush : line.push frame byte = frame.pushDataByte byte >>= fun frame =>
        pure (line, frame) := by
      unfold push
      rw [hmode]
    rw [run_cons, hpush, List.foldlM_cons, bind_assoc]
    congr 1
    ext frame'
    rw [pure_bind]
    exact ih

/-- The value of a field, of which one leading space is not part. -/
def value (bytes : List UInt8) : List UInt8 :=
  if bytes.head? = some asciiSpace then bytes.drop 1 else bytes

theorem run_dataSpace (hmode : line.mode = .dataSpace) (bytes : List UInt8) :
    line.run frame bytes = (value bytes).foldlM SseFrameBuilder.pushDataByte frame := by
  cases bytes with
  | nil =>
    rw [run_nil]
    unfold finish finishField
    simp [hmode, value, pure, Except.pure, bind, Except.bind]
  | cons byte rest =>
    rw [run_cons]
    unfold push
    rw [hmode]
    dsimp only
    by_cases hspace : byte = asciiSpace
    · have hvalue : value (byte :: rest) = rest := by simp [value, hspace]
      rw [if_pos hspace, hvalue]
      exact run_dataBytes rfl rest
    · have hvalue : value (byte :: rest) = byte :: rest := by simp [value, hspace]
      rw [if_neg hspace, hvalue, List.foldlM_cons, bind_assoc]
      congr 1
      ext frame'
      rw [pure_bind]
      exact run_dataBytes rfl rest

theorem run_eventBytes {accumulator : Utf8StringAccumulator} (hmode : line.mode = .event)
    (hvalue : line.eventValue = some accumulator) (bytes : List UInt8) :
    line.run frame bytes =
      .ok (frame.setEventName (bytes.foldl Utf8StringAccumulator.push accumulator).finish) := by
  induction bytes generalizing line accumulator with
  | nil =>
    rw [run_nil]
    unfold finish finishField
    simp [hmode, hvalue, pure, Except.pure, bind, Except.bind]
  | cons byte rest ih =>
    have hpush : line.push frame byte = .ok (line.pushEventByte byte, frame) := by
      unfold push
      rw [hmode]
    rw [run_cons, hpush]
    refine ih hmode ?_
    unfold pushEventByte
    rw [hvalue]
    rfl

theorem run_eventSpace (hmode : line.mode = .eventSpace) (hvalue : line.eventValue = some .new)
    (bytes : List UInt8) :
    line.run frame bytes = .ok (frame.setEventName (decodeAll (value bytes))) := by
  rw [← Utf8StringAccumulator.finish_pushes]
  cases bytes with
  | nil =>
    rw [run_nil]
    unfold finish finishField
    simp [hmode, hvalue, value, pure, Except.pure, bind, Except.bind]
  | cons byte rest =>
    rw [run_cons]
    unfold push
    rw [hmode]
    dsimp only
    by_cases hspace : byte = asciiSpace
    · have hrest : value (byte :: rest) = rest := by simp [value, hspace]
      rw [if_pos hspace, hrest]
      apply run_eventBytes
      · rfl
      · exact hvalue
    · have hrest : value (byte :: rest) = byte :: rest := by simp [value, hspace]
      rw [if_neg hspace, hrest]
      apply run_eventBytes
      · rfl
      · unfold pushEventByte
        rw [hvalue]
        rfl

variable {name : List UInt8}

theorem fieldOf_append {rest : List UInt8} (hname : asciiColon ∉ name) :
    fieldOf (name ++ asciiColon :: rest) = (name, value rest) := by
  have hall : ∀ byte ∈ name, decide (byte ≠ asciiColon) = true := by
    intro byte hmem
    exact decide_eq_true fun heq => hname (heq ▸ hmem)
  unfold fieldOf value
  rw [List.takeWhile_append_of_pos hall, List.dropWhile_append_of_pos hall]
  simp

theorem fieldOf_name (hname : asciiColon ∉ name) : fieldOf name = (name, []) := by
  have hall : ∀ byte ∈ name, decide (byte ≠ asciiColon) = true := by
    intro byte hmem
    exact decide_eq_true fun heq => hname (heq ▸ hmem)
  have htake := @List.takeWhile_append_of_pos _ (fun byte => decide (byte ≠ asciiColon)) name
    [] hall
  have hdrop := @List.dropWhile_append_of_pos _ (fun byte => decide (byte ≠ asciiColon)) name
    [] hall
  rw [List.append_nil, List.takeWhile_nil, List.append_nil] at htake
  rw [List.append_nil, List.dropWhile_nil] at hdrop
  unfold fieldOf
  rw [htake, hdrop]
  rfl

/-- A field whose name has more bytes than a known one is ignored. -/
theorem addField_long {value : List UInt8} (hlength : 5 < name.length) :
    addField frame (name, value) = .ok frame := by
  have hdata : name ≠ dataField := by
    rintro rfl
    exact absurd hlength (by decide)
  have hevent : name ≠ eventField := by
    rintro rfl
    exact absurd hlength (by decide)
  unfold addField
  rw [if_neg hdata, if_neg hevent]

/-- The name of a field decides what its value is for. -/
theorem run_startKnownField (hfield : line.field = name) (bytes : List UInt8) :
    (line.startKnownField frame >>= fun scanned => scanned.1.run scanned.2 bytes) =
      addField frame (name, value bytes) := by
  unfold startKnownField addField
  rw [hfield]
  dsimp only
  by_cases hdata : name = dataField
  · rw [if_pos hdata, if_pos hdata, bind_assoc]
    congr 1
    ext frame'
    rw [pure_bind]
    exact run_dataSpace rfl bytes
  · rw [if_neg hdata, if_neg hdata]
    by_cases hevent : name = eventField
    · rw [if_pos hevent, if_pos hevent]
      exact run_eventSpace rfl rfl bytes
    · rw [if_neg hevent, if_neg hevent]
      exact run_ignore rfl bytes

theorem finish_field (hmode : line.mode = .field) : line.finish frame =
    line.startKnownField frame >>= fun scanned => scanned.1.run scanned.2 [] := by
  have hstart : line.finishField frame = line.startKnownField frame := if_pos hmode
  have hagain : ∀ scanned : SseLine × SseFrameBuilder tokenizer,
      line.startKnownField frame = .ok scanned → scanned.1.finishField scanned.2 = .ok scanned := by
    intro scanned hscanned
    have hne : scanned.1.mode ≠ .field := by
      unfold startKnownField at hscanned
      split at hscanned
      · cases hline : frame.startDataLine with
        | error thrown =>
          rw [hline] at hscanned
          cases hscanned
        | ok frame' =>
          rw [hline] at hscanned
          cases hscanned
          exact nofun
      · split at hscanned
        · cases hscanned
          exact nofun
        · cases hscanned
          exact nofun
    exact if_neg hne
  unfold finish
  rw [hstart]
  cases hscanned : line.startKnownField frame with
  | error thrown => rfl
  | ok scanned =>
    have hfinish := hagain scanned hscanned
    have hrun : scanned.1.run scanned.2 [] = scanned.1.finish scanned.2 := run_nil
    simp only [bind, Except.bind, hrun]
    unfold finish
    rw [hfinish]
    rfl

/-- The bytes up to a colon are the name of a field. -/
theorem run_field {name : List UInt8} (hname : asciiColon ∉ name) (hlength : name.length ≤ 5)
    (bytes : List UInt8) :
    ({ field := name } : SseLine).run frame bytes = addField frame (fieldOf (name ++ bytes)) := by
  induction bytes generalizing name with
  | nil =>
    rw [run_nil, finish_field rfl, run_startKnownField rfl, List.append_nil, fieldOf_name hname]
    rfl
  | cons byte rest ih =>
    rw [run_cons]
    by_cases hcolon : byte = asciiColon
    · subst hcolon
      rw [fieldOf_append hname]
      -- a line that starts with a colon is a comment
      by_cases hempty : name = []
      · subst hempty
        have hpush : ({ field := [] } : SseLine).push frame asciiColon =
            .ok ({ field := [], mode := .ignore }, frame) := rfl
        rw [hpush]
        exact run_ignore rfl rest
      · have hpush : ({ field := name } : SseLine).push frame asciiColon =
            ({ field := name } : SseLine).startKnownField frame := by
          unfold push
          dsimp only
          rw [if_neg (fun h => hempty h.1), if_pos rfl]
        rw [hpush]
        exact run_startKnownField rfl rest
    · have hname' : asciiColon ∉ name ++ [byte] := by
        rw [List.mem_append, List.mem_singleton]
        rintro (hmem | heq)
        · exact hname hmem
        · exact hcolon heq.symm
      have happend : name ++ byte :: rest = name ++ [byte] ++ rest := by simp
      -- no name that the scanner knows has more than five bytes
      by_cases hlong : 5 ≤ name.length
      · have hpush : ({ field := name } : SseLine).push frame byte =
            .ok ({ field := name, mode := .ignore }, frame) := by
          unfold push
          dsimp only
          rw [if_neg (fun h => hcolon h.2), if_neg hcolon, if_pos hlong]
        have hfield : 5 < (fieldOf (name ++ [byte] ++ rest)).1.length := by
          have hall : ∀ b ∈ name ++ [byte], decide (b ≠ asciiColon) = true := by
            intro b hmem
            exact decide_eq_true fun heq => hname' (heq ▸ hmem)
          unfold fieldOf
          rw [List.takeWhile_append_of_pos hall]
          simp only [List.length_append, List.length_singleton]
          omega
        rw [hpush, happend]
        exact (run_ignore rfl rest).trans (addField_long hfield).symm
      · have hpush : ({ field := name } : SseLine).push frame byte =
            .ok ({ field := name ++ [byte] }, frame) := by
          unfold push
          dsimp only
          rw [if_neg (fun h => hcolon h.2), if_neg hcolon, if_neg hlong]
        rw [hpush, happend]
        refine ih hname' ?_
        rw [List.length_append, List.length_singleton]
        omega

end SseLine

/-- **Lines.** The scanner adds to a frame the field that is on a line. -/
theorem scanLine_eq (frame : SseFrameBuilder tokenizer) (line : List UInt8) :
    ({} : SseLine).run frame line = addField frame (fieldOf line) :=
  @SseLine.run_field _ frame [] nofun (Nat.zero_le 5) line

/-! ### Lines of data -/

namespace SseJsonData

theorem run_append (data : SseJsonData tokenizer) (bytes more : List UInt8) :
    data.run (bytes ++ more) = bytes.foldlM push data >>= fun data => data.run more := by
  unfold run
  rw [List.foldlM_append, bind_assoc]

theorem startJson_lineCount (data : SseJsonData tokenizer) (lineCount : Nat) (bytes : List UInt8) :
    { data with lineCount := lineCount }.startJson bytes =
      (data.startJson bytes).map fun data => { data with lineCount := lineCount } := by
  unfold startJson
  cases bytes.foldlM JsonByteSink.push (JsonByteSink.new : JsonByteSink tokenizer) <;> rfl

/-- The count of lines is no part of what is pushed. -/
theorem push_lineCount (data : SseJsonData tokenizer) (lineCount : Nat) (byte : UInt8) :
    { data with lineCount := lineCount }.push byte =
      (data.push byte).map fun data => { data with lineCount := lineCount } := by
  obtain ⟨mode, candidateLength, discarded, count, sink⟩ := data
  unfold push
  dsimp only
  cases mode with
  | json =>
    dsimp only
    cases sink with
    | none => rfl
    | some sink =>
      dsimp only
      cases sink.push byte <;> rfl
  | leading =>
    dsimp only
    split
    · rfl
    · split
      · rfl
      · exact startJson_lineCount ⟨_, candidateLength, discarded, count, sink⟩ lineCount [byte]
  | candidate =>
    dsimp only
    split
    · rfl
    · exact startJson_lineCount ⟨_, candidateLength, discarded, count, sink⟩ lineCount _
  | trailing =>
    dsimp only
    split
    · rfl
    · exact startJson_lineCount ⟨_, candidateLength, discarded, count, sink⟩ lineCount _

theorem finish_lineCount (data : SseJsonData tokenizer) (lineCount : Nat) :
    { data with lineCount := lineCount }.finish = data.finish := by
  unfold finish finishCandidate
  dsimp only
  rw [startJson_lineCount]
  by_cases hcandidate : data.mode = .candidate
  · simp only [hcandidate, if_true]
    cases data.startJson (doneBytes.take data.candidateLength) <;> rfl
  · simp only [if_neg hcandidate]
    rfl

theorem run_lineCount (data : SseJsonData tokenizer) (lineCount : Nat) (bytes : List UInt8) :
    { data with lineCount := lineCount }.run bytes = data.run bytes := by
  induction bytes generalizing data with
  | nil => exact finish_lineCount data lineCount
  | cons byte rest ih =>
    rw [run_cons, run_cons, push_lineCount]
    cases data.push byte with
    | none => rfl
    | some next => exact ih next

variable {next : SseJsonData tokenizer}

theorem lineCount_of_push {byte : UInt8} (h : data.push byte = some next) :
    next.lineCount = data.lineCount := by
  have hsame := push_lineCount data data.lineCount byte
  rw [h, Option.map_some] at hsame
  have hcount := congrArg SseJsonData.lineCount (Option.some.inj hsame)
  exact hcount

theorem lineCount_of_pushes {bytes : List UInt8} (h : bytes.foldlM push data = some next) :
    next.lineCount = data.lineCount := by
  induction bytes generalizing data with
  | nil =>
    cases h
    rfl
  | cons byte rest ih =>
    rw [List.foldlM_cons] at h
    obtain ⟨pushed, hpush, h⟩ := Option.bind_eq_some_iff.mp h
    exact (ih h).trans (lineCount_of_push hpush)

/-- A line of data. -/
def addLine (data : SseJsonData tokenizer) (value : List UInt8) :
    Option (SseJsonData tokenizer) := do
  let data ← data.startLine
  value.foldlM push data

theorem run_lines (hcount : 0 < data.lineCount) (values : List (List UInt8)) :
    (values.foldlM addLine data >>= finish) =
      data.run (values.flatMap (asciiLf :: ·)) := by
  induction values generalizing data with
  | nil => rfl
  | cons value rest ih =>
    have hjoin : data.joinLine = data.push asciiLf := if_pos hcount
    rw [List.foldlM_cons, bind_assoc, List.flatMap_cons, List.cons_append, run_cons]
    unfold addLine startLine
    rw [hjoin, bind_assoc, bind_assoc]
    cases hpush : data.push asciiLf with
    | none => rfl
    | some joined =>
      simp only [Option.bind_eq_bind, Option.bind_some, Option.pure_def]
      rw [← run_lineCount joined (joined.lineCount + 1), run_append]
      cases hvalue : value.foldlM push { joined with lineCount := joined.lineCount + 1 } with
      | none => rfl
      | some added =>
        have hadded := lineCount_of_pushes hvalue
        dsimp only at hadded
        exact ih (by omega)

theorem intercalate_cons (value : List UInt8) (rest : List (List UInt8)) :
    List.intercalate [asciiLf] (value :: rest) = value ++ rest.flatMap (asciiLf :: ·) := by
  induction rest generalizing value with
  | nil => simp [List.intercalate]
  | cons next rest ih =>
    have hnext := ih next
    rw [List.flatMap_cons, List.cons_append, ← hnext]
    simp [List.intercalate]

/-- The lines of data of a frame are joined. -/
theorem run_values (h : tokenizer.Documented) (value : List UInt8) (rest : List (List UInt8)) :
    ((value :: rest).foldlM addLine ({} : SseJsonData tokenizer) >>= finish) =
      dataValue tokenizer (List.intercalate [asciiLf] (value :: rest)) := by
  rw [intercalate_cons, ← run_data h 1, run_append, List.foldlM_cons, bind_assoc]
  have hstart : ({} : SseJsonData tokenizer).startLine = some { lineCount := 1 } := rfl
  unfold addLine
  rw [hstart]
  simp only [Option.bind_eq_bind, Option.bind_some]
  cases hvalue : value.foldlM push ({ lineCount := 1 } : SseJsonData tokenizer) with
  | none => rfl
  | some added =>
    have hadded := lineCount_of_pushes hvalue
    dsimp only at hadded
    exact run_lines (by omega) rest

end SseJsonData

/-! ### Frames -/

def buildFrame (lines : List (List UInt8)) : Except SseThrown (SseFrameBuilder tokenizer) :=
  lines.foldlM (fun frame line => ({} : SseLine).run frame line) {}

variable (tokenizer) in
/-- What the lines of one frame make. -/
def frameResult (lines : List (List UInt8)) : Except SseThrown (Option CliProxySseEvent) := do
  let frame ← (buildFrame lines : Except SseThrown (SseFrameBuilder tokenizer))
  frame.finish

theorem buildFrame_append (lines more : List (List UInt8)) :
    (buildFrame (lines ++ more) : Except SseThrown (SseFrameBuilder tokenizer)) =
      buildFrame lines >>= fun frame =>
        more.foldlM (fun frame line => ({} : SseLine).run frame line) frame :=
  List.foldlM_append

/-- The data of a frame after some of its lines. -/
def addValue (data : Option (SseJsonData tokenizer)) (value : List UInt8) :
    Except SseThrown (Option (SseJsonData tokenizer)) :=
  (orThrow ((data.getD {}).addLine value)).map some

theorem pushDataByte_fold {frame : SseFrameBuilder tokenizer} {data : SseJsonData tokenizer}
    (hdata : frame.data = some data) (bytes : List UInt8) :
    bytes.foldlM SseFrameBuilder.pushDataByte frame =
      (orThrow (bytes.foldlM SseJsonData.push data)).map fun data =>
      { frame with data := some data } := by
  induction bytes generalizing frame data with
  | nil =>
    obtain ⟨frameData, eventName⟩ := frame
    cases hdata
    rfl
  | cons byte rest ih =>
    have hpush : frame.pushDataByte byte =
        (orThrow (data.push byte)).map fun data => { frame with data := some data } := by
      unfold SseFrameBuilder.pushDataByte
      rw [hdata]
      dsimp only
      cases data.push byte <;> rfl
    rw [List.foldlM_cons, List.foldlM_cons, hpush]
    cases data.push byte with
    | none => rfl
    | some next => exact @ih { frame with data := some next } next rfl

theorem addField_data (frame : SseFrameBuilder tokenizer) (value : List UInt8) :
    addField frame (dataField, value) =
      (addValue frame.data value).map fun data => { frame with data := data } := by
  unfold addField addValue SseFrameBuilder.startDataLine SseJsonData.addLine
  rw [if_pos rfl]
  dsimp only
  cases (frame.data.getD {}).startLine with
  | none => rfl
  | some data =>
    have hfold := @pushDataByte_fold _ { frame with data := some data } data rfl value
    refine hfold.trans ?_
    simp only [Option.bind_eq_bind, Option.bind_some]
    cases value.foldlM SseJsonData.push data <;> rfl

/-- A frame holds its data and the name it was given last. -/
theorem buildFrame_eq (lines : List (List UInt8)) :
    buildFrame lines = ((fieldValues dataField lines).foldlM addValue none).map fun data =>
      (⟨data, (fieldValues eventField lines).getLast?.map decodeAll⟩ :
      SseFrameBuilder tokenizer) := by
  induction lines using List.reverseRecOn with
  | nil => rfl
  | append_singleton lines line ih =>
    have hvalues : ∀ name, fieldValues name (lines ++ [line]) = fieldValues name lines ++
        if (fieldOf line).1 = name then [(fieldOf line).2] else [] := by
      intro name
      unfold fieldValues
      rw [List.map_append, List.filter_append, List.map_append]
      congr 1
      by_cases hname : (fieldOf line).1 = name
      · simp [hname]
      · simp [hname]
    rw [buildFrame_append, ih, hvalues, hvalues, List.foldlM_append]
    cases hdata : (fieldValues dataField lines).foldlM addValue
        (none : Option (SseJsonData tokenizer)) with
    | error thrown => rfl
    | ok data =>
      have hline := scanLine_eq (⟨data, (fieldValues eventField lines).getLast?.map decodeAll⟩ :
        SseFrameBuilder tokenizer) line
      simp only [Except.map, bind, Except.bind, List.foldlM_cons, List.foldlM_nil, pure,
        Except.pure]
      rw [hline]
      obtain ⟨name, value⟩ := fieldOf line
      dsimp only
      by_cases hdataField : name = dataField
      · subst hdataField
        rw [addField_data, if_pos rfl, if_neg (by decide), List.append_nil]
        simp only [List.foldlM_cons, List.foldlM_nil]
        cases addValue data value <;> rfl
      · unfold addField
        rw [if_neg hdataField, if_neg hdataField]
        by_cases heventField : name = eventField
        · rw [if_pos heventField, if_pos heventField, List.getLast?_append]
          rfl
        · rw [if_neg heventField, if_neg heventField, List.append_nil]
          rfl

theorem addValue_fold (data : SseJsonData tokenizer) (values : List (List UInt8)) :
    values.foldlM addValue (some data) =
      (orThrow (values.foldlM SseJsonData.addLine data)).map some := by
  induction values generalizing data with
  | nil => rfl
  | cons value rest ih =>
    rw [List.foldlM_cons, List.foldlM_cons]
    unfold addValue
    rw [Option.getD_some]
    cases data.addLine value with
    | none => rfl
    | some next => exact ih next

/-- **Frames.** The scanner makes of the lines of a frame what the format says. -/
theorem frameResult_eq (h : tokenizer.Documented) (lines : List (List UInt8)) :
    (frameResult tokenizer lines).toOption = frameEvent tokenizer lines := by
  unfold frameResult frameEvent
  rw [buildFrame_eq]
  cases hvalues : fieldValues dataField lines with
  | nil => rfl
  | cons value rest =>
    have hrun := SseJsonData.run_values h value rest
    have hdata : (value :: rest).foldlM addValue (none : Option (SseJsonData tokenizer)) =
        (orThrow ((value :: rest).foldlM SseJsonData.addLine {})).map some :=
      addValue_fold {} (value :: rest)
    dsimp only
    rw [hdata, if_neg (List.cons_ne_nil _ _), ← hrun]
    cases (value :: rest).foldlM SseJsonData.addLine ({} : SseJsonData tokenizer) with
    | none => rfl
    | some data =>
      simp only [Option.bind_eq_bind, Option.bind_some]
      unfold orThrow
      simp only [Except.map, bind, Except.bind]
      unfold SseFrameBuilder.finish
      dsimp only
      cases data.finish with
      | none => rfl
      | some result =>
        cases result with
        | none => rfl
        | some value => rfl

end Frely.Providers
