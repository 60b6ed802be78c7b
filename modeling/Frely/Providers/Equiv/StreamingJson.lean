import Frely.Providers.EventStream

/-!
# A JSON text in pieces

A documented tokenizer takes texts in any pieces, so the parser takes bytes in any pieces,
`write_concatenates`, and gives the value of the whole text, `finish_write`.
-/

namespace Frely.Providers

open Utf8 Blocks

variable {tokenizer : JsonTokenizer}

theorem utf8Length_append (text more : List Char) :
    utf8Length (text ++ more) = utf8Length text + utf8Length more := by
  unfold utf8Length
  rw [List.map_append, List.sum_append]

theorem JsonTokenizer.Documented.writeText_append (h : tokenizer.Documented)
    (state : tokenizer.State) (text more : List Char) :
    tokenizer.writeText state (text ++ more) = (do
      let (state, tokens) ← tokenizer.writeText state text
      let (state, last) ← tokenizer.writeText state more
      pure (state, tokens ++ last)) := by
  unfold JsonTokenizer.writeText
  by_cases htext : text = []
  · subst htext
    simp only [if_true, List.nil_append, Option.bind_eq_bind, Option.bind_some]
    cases (if more = [] then some (state, []) else tokenizer.write state more) <;> rfl
  · by_cases hmore : more = []
    · subst hmore
      simp only [if_true, List.append_nil, Option.bind_eq_bind, Option.bind_some, if_neg htext]
      cases tokenizer.write state text <;> rfl
    · have hboth : text ++ more ≠ [] := by simp [htext]
      simp only [if_neg htext, if_neg hmore, if_neg hboth]
      exact h.append state text more htext hmore

namespace StreamingJsonValueParser

/-- A write in terms of the tokens of its text. -/
theorem writeDecoded_eq (parser : StreamingJsonValueParser tokenizer) (decoded : List Char) :
    parser.writeDecoded decoded = (do
      let (state, tokens) ← tokenizer.writeText parser.tokens decoded
      let assembly ← tokens.foldlM JsonAssembly.consume parser.assembly
      pure { parser with
        tokens := state
        assembly := assembly
        decodedBytes := parser.decodedBytes + utf8Length decoded }) := by
  unfold writeDecoded JsonTokenizer.writeText
  by_cases hempty : decoded = []
  · subst hempty
    rw [if_pos rfl, if_pos rfl]
    rfl
  · rw [if_neg hempty, if_neg hempty]
    rfl

theorem write_eq (parser : StreamingJsonValueParser tokenizer) (bytes : List UInt8) :
    parser.write bytes = (do
      let (state, tokens) ← tokenizer.writeText parser.tokens (parser.decoder.decode bytes).2
      let assembly ← tokens.foldlM JsonAssembly.consume parser.assembly
      pure {
        decoder := (parser.decoder.decode bytes).1
        tokens := state
        assembly := assembly
        decodedBytes := parser.decodedBytes + utf8Length (parser.decoder.decode bytes).2 }) := by
  unfold write
  dsimp only
  rw [writeDecoded_eq]

theorem write_concatenates (h : tokenizer.Documented) :
    Concatenates (write : StreamingJsonValueParser tokenizer → List UInt8 → _) where
  nil _ := rfl
  append parser bytes more := by
    simp only [write_eq, decode_append, h.writeText_append, bind_assoc, utf8Length_append]
    cases tokenizer.writeText parser.tokens (parser.decoder.decode bytes).2 with
    | none => rfl
    | some written =>
      obtain ⟨state, tokens⟩ := written
      simp only [Option.bind_eq_bind, Option.bind_some, Option.pure_def, List.foldlM_append]
      cases tokenizer.writeText state ((parser.decoder.decode bytes).1.decode more).2 with
      | none => cases tokens.foldlM JsonAssembly.consume parser.assembly <;> rfl
      | some last =>
        simp only [Option.bind_some]
        cases tokens.foldlM JsonAssembly.consume parser.assembly with
        | none => rfl
        | some assembly => simp only [Option.bind_some, Nat.add_assoc]

/-- The end of a text, in terms of the tokens that it completes. -/
theorem finish_eq (parser : StreamingJsonValueParser tokenizer) :
    parser.finish = (do
      let (state, tokens) ← tokenizer.writeText parser.tokens parser.decoder.flush
      let last ← tokenizer.finish state
      let assembly ← (tokens ++ last).foldlM JsonAssembly.consume parser.assembly
      if assembly.stack ≠ [] ∨ (assembly.root.isSome ∧ ¬assembly.rootComplete) then none
      else pure {
        value := if assembly.rootComplete then assembly.root else none
        decodedByteLength := parser.decodedBytes + utf8Length parser.decoder.flush }) := by
  unfold finish
  simp only [writeDecoded_eq, bind_assoc, pure_bind]
  cases tokenizer.writeText parser.tokens parser.decoder.flush with
  | none => rfl
  | some written =>
    obtain ⟨state, tokens⟩ := written
    simp only [Option.bind_eq_bind, Option.bind_some, List.foldlM_append]
    cases tokenizer.finish state with
    | none => cases tokens.foldlM JsonAssembly.consume parser.assembly <;> rfl
    | some last =>
      simp only [Option.bind_some]
      cases tokens.foldlM JsonAssembly.consume parser.assembly with
      | none => rfl
      | some assembly =>
        simp only [Option.bind_some, consumeOutput, Option.bind_eq_bind, Option.bind_assoc,
          Option.pure_def]

/-- A container that is open, or a root that is not complete, leaves no value. -/
theorem value_of_assembly (assembly : JsonAssembly) (length whitespace : Nat) :
    ((if assembly.stack ≠ [] ∨ (assembly.root.isSome ∧ ¬assembly.rootComplete) then none
      else pure ⟨if assembly.rootComplete then assembly.root else none, length⟩ :
        Option StreamingJsonResult).bind fun parsed =>
          parsed.value.bind fun value => pure (value, parsed.decodedByteLength + whitespace)) =
      (if assembly.stack = [] ∧ assembly.rootComplete then assembly.root else none).map
        (·, length + whitespace) := by
  by_cases hstack : assembly.stack = []
  · cases hcomplete : assembly.rootComplete with
    | true => cases hroot : assembly.root <;> simp [hstack]
    | false => cases hroot : assembly.root <;> simp [hstack]
  · simp [hstack]

/-- A whole JSON text, written at once and finished. -/
theorem finish_write (h : tokenizer.Documented) (bytes : List UInt8) (whitespace : Nat) :
    (do
      let parser ← ({} : StreamingJsonValueParser tokenizer).write bytes
      let parsed ← parser.finish
      let value ← parsed.value
      pure (value, parsed.decodedByteLength + whitespace)) =
        jsonData tokenizer whitespace bytes := by
  unfold jsonData jsonValue decodeAll
  rw [write_eq]
  simp only [h.writeText_append, bind_assoc, pure_bind, finish_eq, utf8Length_append]
  cases tokenizer.writeText tokenizer.start (Decoder.decode {} bytes).2 with
  | none => rfl
  | some written =>
    obtain ⟨state, tokens⟩ := written
    simp only [Option.bind_eq_bind, Option.bind_some, List.foldlM_append]
    cases tokenizer.writeText state (Decoder.decode {} bytes).1.flush with
    | none => cases tokens.foldlM JsonAssembly.consume {} <;> rfl
    | some flushed =>
      simp only [Option.bind_some]
      cases tokenizer.finish flushed.1 with
      | none => cases tokens.foldlM JsonAssembly.consume {} <;> rfl
      | some last =>
        simp only [Option.bind_some, value_of_assembly]
        cases tokens.foldlM JsonAssembly.consume {} with
        | none => rfl
        | some assembly =>
          simp only [Option.bind_some, Option.map_bind, Option.bind_assoc, Nat.zero_add,
            Function.comp_def]

/-- No text that starts with `[D` has a value. -/
theorem jsonValue_done (h : tokenizer.Documented) {text : List Char}
    (hstarts : ['[', 'D'] <+: text) :
    jsonValue tokenizer text = none := by
  have hne : text ≠ [] := by
    rintro rfl
    exact absurd hstarts (by decide)
  unfold jsonValue JsonTokenizer.writeText
  rw [if_neg hne]
  cases hwrite : tokenizer.write tokenizer.start text with
  | none => rfl
  | some written =>
    obtain ⟨state, tokens⟩ := written
    simp only [Option.bind_eq_bind, Option.bind_some]
    rw [h.rejectsDone text state tokens hstarts hwrite]
    rfl

end StreamingJsonValueParser

end Frely.Providers
