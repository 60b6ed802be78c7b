import Frely.Capture.Equiv.StreamText

/-!
# Runs of the writer of streamed captures

`StreamInv` is what a writer satisfies while its calls come in order, with the text it has written
in terms of the events it was given.  So the file it publishes is the record of the whole exchange,
unless an event nests too deep, and there is no file of a writer that failed
(`streamed_stored_iff`).
-/

namespace Frely.Capture

open Checked Machine

variable {ν : Type} {runtime : CaptureRuntime ν}

/-! ### Runs of a writer -/

/-- What a writer was given so far, and whether a call failed or it was aborted before it was
done. -/
structure StreamHistory (ν : Type) where
  events : List (Json ν)
  /-- The event of the `appendEvent` that waits. -/
  running : Option (Json ν)
  closing : Option (String × Option String)
  failed : Bool

/-- Some call has failed. -/
def StreamHistory.fail (history : StreamHistory ν) : StreamHistory ν :=
  { history with failed := true }

/-- What the history notes of a step. -/
def StreamHistory.record (history : StreamHistory ν)
    (step : Step (WriterInput ν) WriterOutput StreamWriter) : StreamHistory ν :=
  match step.input, step.output with
  | .appended _, .failed _ => { history.fail with running := none }
  | _, .failed _ => history.fail
  | .appendEvent event _, .waits => { history with running := (toSafeJsonTree event).toOption }
  | .appended _, .done =>
    { history with events := history.events ++ history.running.toList, running := none }
  | .finalize errorCode capturedAt now _, .waits =>
    { history with closing := some (capturedAt.getD now, errorCode) }
  | .abort, _ => if step.before.state = .finalized then history else history.fail
  | _, _ => history

/-- Calls do not overlap with an `appendEvent` or a `finalize`, and no event comes after it.  An
abort may overlap, but with a `finalize` only if the staging file is gone before it would be
published. -/
def InOrder (step : Step (WriterInput ν) WriterOutput StreamWriter) : Prop :=
  match step.input with
  | .appendEvent _ _ => step.before.appending = 0 ∧ step.before.state ≠ .finalizing ∧
      step.before.state ≠ .finalized
  | .finalize _ _ _ _ => step.before.appending = 0 ∧ step.before.state ≠ .finalizing
  | .abort => step.before.waiting ≠ some .publication
  | .publish _ _ => ¬(step.before.state = .aborted ∧ step.before.staged = true)
  | _ => True

instance (step : Step (WriterInput ν) WriterOutput StreamWriter) : Decidable (InOrder step) :=
  match step with
  | ⟨before, .appendEvent _ _, _, _⟩ => inferInstanceAs (Decidable
      (before.appending = 0 ∧ before.state ≠ .finalizing ∧ before.state ≠ .finalized))
  | ⟨_, .appended _, _, _⟩ => inferInstanceAs (Decidable True)
  | ⟨before, .finalize _ _ _ _, _, _⟩ =>
    inferInstanceAs (Decidable (before.appending = 0 ∧ before.state ≠ .finalizing))
  | ⟨before, .abort, _, _⟩ => inferInstanceAs (Decidable (before.waiting ≠ some .publication))
  | ⟨before, .publish _ _, _, _⟩ =>
    inferInstanceAs (Decidable ¬(before.state = .aborted ∧ before.staged = true))
  | ⟨_, .verifyStaged _, _, _⟩ => inferInstanceAs (Decidable True)
  | ⟨_, .complete, _, _⟩ => inferInstanceAs (Decidable True)
  | ⟨_, .settle, _, _⟩ => inferInstanceAs (Decidable True)
  | ⟨_, .publishedByOther _, _, _⟩ => inferInstanceAs (Decidable True)

/-- What every writer satisfies in a run in order. -/
structure StreamInv (runtime : CaptureRuntime ν) (base : RequestCaptureV3Record ν) (status : ν)
    (history : StreamHistory ν) (writer : StreamWriter) : Prop where
  text : writer.state ≠ .aborted → writer.text = streamStart runtime base status ++ ['['] ++
    itemsText runtime.format (history.events ++ history.running.toList) ++
    history.closing.elim [] fun closing => closingText runtime closing.1 closing.2
  count : writer.state ≠ .aborted → writer.eventCount = history.events.length
  appending : writer.appending = history.running.toList.length
  whole : history.closing.isSome = true → history.running = none
  events : ∀ event ∈ history.events ++ history.running.toList, event.Distinct
  closing : ∀ closing ∈ history.closing,
    isoText runtime closing.1 = .ok closing.1 ∧ closing.2 ≠ some ""
  started : writer.state ≠ .opening
  unclosed : writer.state = .open → history.closing = none ∧ writer.waiting = none
  waits : writer.waiting ≠ none → writer.state ≠ .finalized ∧ history.closing.isSome = true
  publishing : writer.waiting = some .publication → writer.state = .finalizing
  closed : writer.state = .finalized → history.closing.isSome = true
  own : ∀ file ∈ writer.canonical, file.byWriter = true → file.raw = writer.raw ∧
    (writer.state = .finalized ∨ writer.waiting = some .publication)
  linked : writer.state = .finalized ∨ writer.waiting = some .publication →
    ∃ file, writer.canonical = some file ∧ runtime.sha256 file.raw = runtime.sha256 writer.raw
  aborted : history.failed = true → writer.state = .aborted

section

variable {base : RequestCaptureV3Record ν} {status : ν} {history : StreamHistory ν}
  {writer : StreamWriter}

theorem StreamInv.no_own (h : StreamInv runtime base status history writer)
    (hstate : writer.state ≠ .finalized) (hwaiting : writer.waiting ≠ some .publication) :
    ∀ file ∈ writer.canonical, ¬file.byWriter = true := by
  intro file hfile howner
  rcases (h.own file hfile howner).2 with hdone | hpublication
  · exact hstate hdone
  · exact hwaiting hpublication

/-- A failed call, or an abort, before the record is published; an `appendEvent` that waits may
fail with it. -/
theorem StreamInv.stop (h : StreamInv runtime base status history writer)
    (hstate : writer.state ≠ .finalized) (hwaiting : writer.waiting ≠ some .publication)
    {stopped : StreamWriter} (hstopped : stopped.state = .aborted)
    {running : Option (Json ν)} (hrunning : running = history.running ∨ running = none)
    (happending : stopped.appending = running.toList.length)
    (hwaits : stopped.waiting = none ∨ stopped.waiting = writer.waiting)
    (hcanonical : stopped.canonical = writer.canonical) :
    StreamInv runtime base status { history.fail with running } stopped := by
  have hnot : stopped.waiting ≠ some .publication := by
    rcases hwaits with hnone | hsame
    · rw [hnone]
      nofun
    · rwa [hsame]
  constructor
  · exact fun hactive => absurd hstopped hactive
  · exact fun hactive => absurd hstopped hactive
  · exact happending
  · intro hclosing
    rcases hrunning with rfl | rfl
    · exact h.whole hclosing
    · rfl
  · intro event hevent
    rcases hrunning with rfl | rfl
    · exact h.events event hevent
    · exact h.events event (List.mem_append_left _ ((List.append_nil history.events) ▸ hevent))
  · exact h.closing
  · rw [hstopped]
    nofun
  · rw [hstopped]
    nofun
  · intro hsome
    rw [hstopped]
    refine ⟨nofun, ?_⟩
    rcases hwaits with hnone | hsame
    · exact absurd hnone hsome
    · exact (h.waits (hsame ▸ hsome)).2
  · intro hpublication
    exact absurd hpublication hnot
  · rw [hstopped]
    nofun
  · intro file hfile howner
    exact absurd howner (h.no_own hstate hwaiting file (hcanonical ▸ hfile))
  · rintro (hdone | hpublication)
    · rw [hstopped] at hdone
      cases hdone
    · exact absurd hpublication hnot
  · exact fun _ => hstopped

theorem abort_state (hstate : writer.state ≠ .finalized) : writer.abort.state = .aborted := by
  unfold StreamWriter.abort
  split_ifs with h
  · exact h.resolve_left hstate
  · rfl

theorem abort_keeps : writer.abort.appending = writer.appending ∧
    writer.abort.waiting = writer.waiting ∧ writer.abort.canonical = writer.canonical := by
  unfold StreamWriter.abort
  split_ifs <;> exact ⟨rfl, rfl, rfl⟩

theorem failed_inv (h : StreamInv runtime base status history writer)
    (hstate : writer.state ≠ .finalized) (hwaiting : writer.waiting ≠ some .publication)
    (error : CaptureError) :
    StreamInv runtime base status history.fail (failed writer error).2 := by
  obtain ⟨happending, -, hcanonical⟩ := @abort_keeps writer
  have hstopped : (failed writer error).2.state = .aborted := abort_state hstate
  exact h.stop hstate hwaiting hstopped (.inl rfl) (happending.trans h.appending) (.inl rfl)
    hcanonical

theorem abort_inv (h : StreamInv runtime base status history writer)
    (hstate : writer.state ≠ .finalized) (hwaiting : writer.waiting ≠ some .publication) :
    StreamInv runtime base status history.fail writer.abort := by
  obtain ⟨happending, hwaits, hcanonical⟩ := @abort_keeps writer
  exact h.stop hstate hwaiting (abort_state hstate) (.inl rfl) (happending.trans h.appending)
    (.inr hwaits) hcanonical

/-- A step that only moves on with the publication. -/
theorem StreamInv.move (h : StreamInv runtime base status history writer) {moved : StreamWriter}
    (hstate : moved.state = writer.state) (htext : moved.text = writer.text)
    (hcount : moved.eventCount = writer.eventCount)
    (happending : moved.appending = writer.appending)
    (hwaits : moved.waiting = writer.waiting ∨
      writer.waiting ≠ none ∧ writer.waiting ≠ some .publication ∧ moved.waiting = some .digest)
    (hcanonical : ∀ file, writer.canonical = some file → moved.canonical = some file)
    (hother : ∀ file, moved.canonical = some file → file.byWriter = true →
      writer.canonical = some file) :
    StreamInv runtime base status history moved := by
  have hraw : moved.raw = writer.raw := congrArg Utf8.encode htext
  have hsome : moved.waiting ≠ none → writer.waiting ≠ none := by
    intro hmoved
    rcases hwaits with hsame | ⟨hwaiting, -⟩
    · rwa [← hsame]
    · exact hwaiting
  -- the wait stays, or gives way to the one for the digest, and not at the publication
  have hpublication : moved.waiting = some .publication ↔ writer.waiting = some .publication := by
    rcases hwaits with hsame | ⟨-, hnot, hdigest⟩
    · rw [hsame]
    · rw [hdigest]
      exact ⟨nofun, fun heq => absurd heq hnot⟩
  constructor
  · rw [hstate, htext]
    exact h.text
  · rw [hstate, hcount]
    exact h.count
  · exact happending.trans h.appending
  · exact h.whole
  · exact h.events
  · exact h.closing
  · rw [hstate]
    exact h.started
  · rw [hstate]
    intro hopen
    obtain ⟨hclosing, hnone⟩ := h.unclosed hopen
    refine ⟨hclosing, ?_⟩
    by_contra hmoved
    exact hsome hmoved hnone
  · rw [hstate]
    exact fun hmoved => h.waits (hsome hmoved)
  · rw [hstate, hpublication]
    exact h.publishing
  · rw [hstate]
    exact h.closed
  · intro file hfile howner
    rw [hraw, hstate, hpublication]
    exact h.own file (hother file hfile howner) howner
  · rw [hstate, hpublication, hraw]
    intro hdone
    obtain ⟨file, hfile, hdigest⟩ := h.linked hdone
    exact ⟨file, hcanonical file hfile, hdigest⟩
  · rw [hstate]
    exact h.aborted

theorem writeRaw_eq_ok {text : List Char} {taken : Bool} {written : StreamWriter}
    (h : writeRaw writer text taken = .ok written) :
    written = { writer with text := writer.text ++ text } := by
  obtain ⟨_, -, h⟩ := bind_eq_ok.mp h
  obtain ⟨_, -, h⟩ := bind_eq_ok.mp h
  exact (Except.ok.inj h).symm

theorem appendTree_eq_ok {event : Unknown ν} {taken : Bool} {appended : StreamWriter}
    (h : appendTree runtime writer event taken = .ok appended) :
    ∃ tree, toSafeJsonTree event = .ok tree ∧
      appended = { writer with
        text := writer.text ++ eventText runtime writer tree
        appending := writer.appending + 1 } := by
  obtain ⟨tree, htree, h⟩ := bind_eq_ok.mp h
  obtain ⟨written, hwritten, h⟩ := bind_eq_ok.mp h
  refine ⟨tree, htree, ?_⟩
  rw [← Except.ok.inj h, writeRaw_eq_ok hwritten]

/-- A writer that refuses a call has been aborted. -/
theorem StreamInv.refused (h : StreamInv runtime base status history writer)
    (hopen : writer.state ≠ .open) (hfinalizing : writer.state ≠ .finalizing)
    (hdone : writer.state ≠ .finalized) :
    StreamInv runtime base status history.fail writer := by
  have hstate : writer.state = .aborted := by
    cases hcase : writer.state with
    | opening => exact absurd hcase h.started
    | «open» => exact absurd hcase hopen
    | finalizing => exact absurd hcase hfinalizing
    | finalized => exact absurd hcase hdone
    | aborted => rfl
  refine h.stop hdone ?_ hstate (.inl rfl) h.appending (.inr rfl) rfl
  intro hpublication
  exact hfinalizing (h.publishing hpublication)

theorem appendEvent_inv (h : StreamInv runtime base status history writer)
    (event : Unknown ν) (taken : Bool)
    (horder : writer.appending = 0 ∧ writer.state ≠ .finalizing ∧ writer.state ≠ .finalized) :
    let step := stepOf (writerStep runtime) writer (.appendEvent event taken)
    StreamInv runtime base status (history.record step) step.after := by
  intro step
  obtain ⟨hidle, hfinalizing, hfinalized⟩ := horder
  by_cases hopen : writer.state = .open
  · obtain ⟨hclosing, hnone⟩ := h.unclosed hopen
    have hwaiting : writer.waiting ≠ some .publication := by
      rw [hnone]
      nofun
    have hactive : writer.state ≠ .aborted := by
      rw [hopen]
      nofun
    cases happend : appendTree runtime writer event taken with
    | error error =>
      have hstep : step = ⟨writer, .appendEvent event taken, (failed writer error).1,
          (failed writer error).2⟩ := by
        simp only [step, stepOf, writerStep, appendEvent, if_pos hopen, happend]
      rw [hstep]
      exact failed_inv h hfinalized hwaiting error
    | ok appended =>
      have hstep : step = ⟨writer, .appendEvent event taken, .waits, appended⟩ := by
        simp only [step, stepOf, writerStep, appendEvent, if_pos hopen, happend]
      obtain ⟨tree, htree, rfl⟩ := appendTree_eq_ok happend
      have hhistory : history.record step = { history with running := some tree } := by
        rw [hstep]
        simp only [StreamHistory.record, htree]
        rfl
      -- no other event waits, so the text written before is that of the counted events
      have hrunning : history.running = none := by
        have hlength := h.appending
        rw [hidle] at hlength
        exact Option.toList_eq_nil_iff.mp (List.eq_nil_of_length_eq_zero hlength.symm)
      have hno := h.no_own hfinalized hwaiting
      have hevents := h.events
      have htext := h.text hactive
      rw [hrunning, Option.toList_none, List.append_nil] at hevents htext
      rw [hhistory, hstep]
      constructor
      · intro _
        rw [hclosing, Option.elim_none, List.append_nil] at htext
        simp only [hclosing, Option.elim_none, List.append_nil, Option.toList_some,
          itemsText_concat, eventText, htext, h.count hactive, List.append_assoc]
      · exact h.count
      · show writer.appending + 1 = 1
        rw [hidle]
      · rw [hclosing]
        nofun
      · intro found hfound
        rcases List.mem_append.mp hfound with hfound | hfound
        · exact hevents found hfound
        · rw [List.mem_singleton.mp hfound]
          exact (distinct_of_toSafeJsonTree htree).1
      · exact h.closing
      · exact h.started
      · exact h.unclosed
      · exact h.waits
      · exact h.publishing
      · exact h.closed
      · exact fun file hfile howner => absurd howner (hno file hfile)
      · rintro (hdone | hpublication)
        · exact absurd hdone hfinalized
        · exact absurd hpublication hwaiting
      · exact h.aborted
  · have hstep : step = ⟨writer, .appendEvent event taken, .failed stateInvalid, writer⟩ := by
      simp only [step, stepOf, writerStep, appendEvent, if_neg hopen]
    rw [hstep]
    exact h.refused hopen hfinalizing hfinalized

theorem appended_inv (h : StreamInv runtime base status history writer)
    (rejected : Option CaptureError) :
    let step := stepOf (writerStep runtime) writer (.appended rejected)
    StreamInv runtime base status (history.record step) step.after := by
  intro step
  cases hrunning : history.running with
  | none =>
    have hidle : writer.appending = 0 := by
      rw [h.appending, hrunning]
      rfl
    have hstep : step = ⟨writer, .appended rejected, .idle, writer⟩ := by
      simp only [step, stepOf, writerStep, appended, if_pos hidle]
    rw [hstep]
    exact h
  | some event =>
    have happending : writer.appending = 1 := by
      rw [h.appending, hrunning]
      rfl
    have hbusy : writer.appending ≠ 0 := by omega
    -- a record that is closed has no event that waits
    have hunclosed : ¬history.closing.isSome = true := by
      intro hclosing
      have hnone := h.whole hclosing
      rw [hrunning] at hnone
      cases hnone
    have hfinalized : writer.state ≠ .finalized := fun hdone => hunclosed (h.closed hdone)
    have hwaiting : writer.waiting ≠ some .publication := by
      intro hpublication
      refine hunclosed (h.waits ?_).2
      rw [hpublication]
      nofun
    cases rejected with
    | some error =>
      let resumed := { writer with appending := writer.appending - 1 }
      have hstep : step = ⟨writer, .appended (some error),
          .failed (normalizeStreamCaptureWriteError error), resumed.abort⟩ := by
        simp only [step, stepOf, writerStep, appended, if_neg hbusy, resumed]
      obtain ⟨hkept, hwaits, hcanonical⟩ := @abort_keeps resumed
      have hstopped : resumed.abort.state = .aborted := abort_state hfinalized
      rw [hstep]
      refine h.stop hfinalized hwaiting hstopped (.inr rfl) ?_ (.inr hwaits) hcanonical
      rw [hkept]
      show writer.appending - 1 = 0
      rw [happending]
    | none =>
      have hstep : step = ⟨writer, .appended none, .done, { writer with
          appending := writer.appending - 1
          eventCount := writer.eventCount + 1 }⟩ := by
        simp only [step, stepOf, writerStep, appended, if_neg hbusy]
      have hhistory : history.record step =
          { history with events := history.events ++ [event], running := none } := by
        rw [hstep]
        simp only [StreamHistory.record, hrunning, Option.toList_some]
      have htext := h.text
      have hevents := h.events
      rw [hrunning, Option.toList_some] at htext hevents
      rw [hhistory, hstep]
      constructor
      · rw [Option.toList_none, List.append_nil]
        exact htext
      · intro hactive
        rw [List.length_append, List.length_singleton, ← h.count hactive]
      · show writer.appending - 1 = 0
        rw [happending]
      · exact fun _ => rfl
      · rw [Option.toList_none, List.append_nil]
        exact hevents
      · exact h.closing
      · exact h.started
      · exact h.unclosed
      · exact h.waits
      · exact h.publishing
      · exact h.closed
      · exact h.own
      · exact h.linked
      · exact h.aborted

theorem closeRecord_eq_ok {errorCode : Option String} {capturedAt : String} {taken : Bool}
    {closed : StreamWriter} (h : closeRecord runtime writer errorCode capturedAt taken =
      .ok closed) :
    isoText runtime capturedAt = .ok capturedAt ∧ errorCode ≠ some "" ∧
      closed = { writer with text := writer.text ++ closingText runtime capturedAt errorCode } := by
  obtain ⟨timestamp, htimestamp, h⟩ := bind_eq_ok.mp h
  obtain ⟨_, herror, h⟩ := bind_eq_ok.mp h
  have hsame : timestamp = capturedAt := by
    obtain ⟨_, -, hread⟩ := bind_eq_ok.mp htimestamp
    exact (Except.ok.inj hread).symm
  rw [hsame] at htimestamp h
  exact ⟨htimestamp, rejectIf_eq_ok.mp herror, writeRaw_eq_ok h⟩

theorem finalize_inv (h : StreamInv runtime base status history writer)
    (errorCode capturedAt : Option String) (now : String) (taken : Bool)
    (horder : writer.appending = 0 ∧ writer.state ≠ .finalizing) :
    let step := stepOf (writerStep runtime) writer (.finalize errorCode capturedAt now taken)
    StreamInv runtime base status (history.record step) step.after := by
  intro step
  obtain ⟨hidle, hfinalizing⟩ := horder
  by_cases hdone : writer.state = .finalized
  · have hstep : step = ⟨writer, .finalize errorCode capturedAt now taken, .done, writer⟩ := by
      simp only [step, stepOf, writerStep, finalize, if_pos hdone]
    rw [hstep]
    exact h
  by_cases hopen : writer.state = .open
  · obtain ⟨hclosing, hnone⟩ := h.unclosed hopen
    have hwaiting : writer.waiting ≠ some .publication := by
      rw [hnone]
      nofun
    cases hclose : closeRecord runtime { writer with state := .finalizing } errorCode
        (capturedAt.getD now) taken with
    -- the record of the end is refused, and the writer fails
    | error error =>
      have hstep : step = ⟨writer, .finalize errorCode capturedAt now taken,
          (failed { writer with state := .finalizing } error).1,
          (failed { writer with state := .finalizing } error).2⟩ := by
        simp only [step, stepOf, writerStep, finalize, if_neg hdone, if_pos hopen, hclose]
      rw [hstep]
      exact h.stop hdone hwaiting rfl (.inl rfl) h.appending (.inl rfl) rfl
    | ok closed =>
      have hstep : step = ⟨writer, .finalize errorCode capturedAt now taken, .waits,
          { closed with waiting := some .pipeline }⟩ := by
        simp only [step, stepOf, writerStep, finalize, if_neg hdone, if_pos hopen, hclose]
      obtain ⟨htimestamp, herror, rfl⟩ := closeRecord_eq_ok hclose
      have hno := h.no_own hdone hwaiting
      rw [hstep]
      have hactive : writer.state ≠ .aborted := by
        rw [hopen]
        nofun
      -- no append runs, so what was written is all that was appended
      constructor
      · intro _
        have htext := h.text hactive
        rw [hclosing, Option.elim_none, List.append_nil] at htext
        show writer.text ++ _ = _
        rw [htext]
        rfl
      · exact fun _ => h.count hactive
      · exact h.appending
      · intro _
        have hlength := h.appending
        rw [hidle] at hlength
        exact Option.toList_eq_nil_iff.mp (List.eq_nil_of_length_eq_zero hlength.symm)
      · exact h.events
      · rintro closing ⟨⟩
        exact ⟨htimestamp, herror⟩
      · nofun
      · nofun
      · exact fun _ => ⟨nofun, rfl⟩
      · nofun
      · nofun
      · exact fun file hfile howner => absurd howner (hno file hfile)
      · rintro (hdone | hpublication)
        · cases hdone
        · cases hpublication
      · intro hfailed
        have haborted : writer.state = .aborted := h.aborted hfailed
        rw [hopen] at haborted
        cases haborted
  · have hstep : step =
        ⟨writer, .finalize errorCode capturedAt now taken, .failed stateInvalid, writer⟩ := by
      simp only [step, stepOf, writerStep, finalize, if_neg hdone, if_neg hopen]
    rw [hstep]
    exact h.refused hopen hfinalizing hdone

theorem settle_keeps : writer.settle.state = writer.state ∧ writer.settle.text = writer.text ∧
    writer.settle.eventCount = writer.eventCount ∧ writer.settle.appending = writer.appending ∧
    writer.settle.waiting = writer.waiting ∧ writer.settle.canonical = writer.canonical := by
  unfold StreamWriter.settle
  split_ifs <;> exact ⟨rfl, rfl, rfl, rfl, rfl, rfl⟩

theorem settle_inv (h : StreamInv runtime base status history writer) :
    StreamInv runtime base status history writer.settle := by
  obtain ⟨hstate, htext, hcount, happending, hwaits, hcanonical⟩ := @settle_keeps writer
  refine h.move hstate htext hcount happending (.inl hwaits) ?_ ?_
  · rw [hcanonical]
    exact fun file hfile => hfile
  · rw [hcanonical]
    exact fun file hfile _ => hfile

theorem verifyStaged_inv (h : StreamInv runtime base status history writer) (intact : Bool) :
    let step := stepOf (writerStep runtime) writer (.verifyStaged intact)
    StreamInv runtime base status (history.record step) step.after := by
  intro step
  by_cases hwaiting : writer.waiting = some .pipeline
  · have hpublication : writer.waiting ≠ some .publication := by
      rw [hwaiting]
      nofun
    have hsome : writer.waiting ≠ none := by
      rw [hwaiting]
      nofun
    by_cases hintact : intact ∧ writer.staged
    · have hstep : step = ⟨writer, .verifyStaged intact, .waits,
          { writer with waiting := some .digest }.settle⟩ := by
        simp only [step, stepOf, writerStep, verifyStaged, if_pos hwaiting, if_pos hintact]
      rw [hstep]
      refine settle_inv (h.move rfl rfl rfl rfl (.inr ⟨hsome, hpublication, rfl⟩) ?_ ?_)
      · exact fun file hfile => hfile
      · exact fun file hfile _ => hfile
    · have hstep : step = ⟨writer, .verifyStaged intact, (failed writer publishVerifyFailed).1,
          (failed writer publishVerifyFailed).2⟩ := by
        simp only [step, stepOf, writerStep, verifyStaged, if_pos hwaiting, if_neg hintact]
      rw [hstep]
      exact failed_inv h (h.waits hsome).1 hpublication publishVerifyFailed
  · have hstep : step = ⟨writer, .verifyStaged intact, .idle, writer⟩ := by
      simp only [step, stepOf, writerStep, verifyStaged, if_neg hwaiting]
    rw [hstep]
    exact h

/-- Publishing a record that was staged, by a writer that was not aborted. -/
theorem StreamInv.published (h : StreamInv runtime base status history writer)
    (hstate : writer.state = .finalizing) (hwaiting : writer.waiting = some .digest)
    {file : CanonicalFile} (hfile : writer.canonical = some file ∨
      writer.canonical = none ∧ file = ⟨writer.raw, true⟩)
    (hdigest : runtime.sha256 file.raw = runtime.sha256 writer.raw) :
    StreamInv runtime base status history { writer with
      waiting := some .publication
      staged := false
      canonical := some file } := by
  have hsome : writer.waiting ≠ none := by
    rw [hwaiting]
    nofun
  have hpublication : writer.waiting ≠ some .publication := by
    rw [hwaiting]
    nofun
  have hnot : writer.state ≠ .finalized := by
    rw [hstate]
    nofun
  obtain ⟨-, hclosing⟩ := h.waits hsome
  constructor
  · exact h.text
  · exact h.count
  · exact h.appending
  · exact h.whole
  · exact h.events
  · exact h.closing
  · exact h.started
  · intro hopen
    have hopen : writer.state = .open := hopen
    rw [hstate] at hopen
    cases hopen
  · exact fun _ => ⟨hnot, hclosing⟩
  · exact fun _ => hstate
  · exact h.closed
  · rintro found ⟨⟩ howner
    refine ⟨?_, .inr rfl⟩
    rcases hfile with hfile | ⟨-, rfl⟩
    · exact absurd howner (h.no_own hnot hpublication file hfile)
    · rfl
  · exact fun _ => ⟨file, rfl, hdigest⟩
  · exact h.aborted

theorem publish_inv (h : StreamInv runtime base status history writer) (matching synced : Bool)
    (horder : ¬(writer.state = .aborted ∧ writer.staged = true)) :
    let step := stepOf (writerStep runtime) writer (.publish matching synced)
    StreamInv runtime base status (history.record step) step.after := by
  intro step
  by_cases hwaiting : writer.waiting = some .digest
  · have hpublication : writer.waiting ≠ some .publication := by
      rw [hwaiting]
      nofun
    have hnot : writer.state ≠ .finalized := by
      refine (h.waits ?_).1
      rw [hwaiting]
      nofun
    -- a step that fails keeps the invariant, whatever the error
    have hfailed : ∀ error, step = ⟨writer, .publish matching synced, (failed writer error).1,
        (failed writer error).2⟩ → StreamInv runtime base status (history.record step)
          step.after := by
      intro error hstep
      rw [hstep]
      exact failed_inv h hnot hpublication error
    by_cases hmatching : matching = false
    · refine hfailed publishVerifyFailed ?_
      simp only [step, stepOf, writerStep, publish, if_pos hwaiting, if_pos hmatching]
    by_cases hstaged : writer.staged = false
    · refine hfailed (.codec "ENOENT") ?_
      simp only [step, stepOf, writerStep, publish, if_pos hwaiting, if_neg hmatching,
        if_pos hstaged]
    -- only a finalize that is still going on waits for the digest
    have hstate : writer.state = .finalizing := by
      cases hcase : writer.state with
      | opening => exact absurd hcase h.started
      | «open» =>
        have hnone := (h.unclosed hcase).2
        rw [hwaiting] at hnone
        cases hnone
      | finalizing => rfl
      | finalized => exact absurd hcase hnot
      | aborted => exact absurd ⟨hcase, (Bool.not_eq_false _).mp hstaged⟩ horder
    cases hcanonical : writer.canonical with
    -- the file of an earlier capture counts when it has the same digest
    | some file =>
      by_cases hdigest : runtime.sha256 file.raw = runtime.sha256 writer.raw
      · have hstep : step = ⟨writer, .publish matching synced, .waits,
            { writer with waiting := some .publication, staged := false }⟩ := by
          simp only [step, stepOf, writerStep, publish, if_pos hwaiting, if_neg hmatching,
            if_neg hstaged, hcanonical, if_pos hdigest]
        have hpublished := h.published hstate hwaiting (.inl hcanonical) hdigest
        rw [hstep]
        rw [← hcanonical] at hpublished
        exact hpublished
      · refine hfailed captureConflict ?_
        simp only [step, stepOf, writerStep, publish, if_pos hwaiting, if_neg hmatching,
          if_neg hstaged, hcanonical, if_neg hdigest]
    -- the staged file takes the place of none, and is on disk once it is synced
    | none =>
      cases hsynced : synced with
      | true =>
        have hstep : step = ⟨writer, .publish matching synced, .waits, { writer with
            waiting := some .publication
            staged := false
            canonical := some ⟨writer.raw, true⟩ }⟩ := by
          simp only [step, stepOf, writerStep, publish, if_pos hwaiting, if_neg hmatching,
            if_neg hstaged, hcanonical, hsynced, if_pos]
        rw [hstep]
        exact h.published hstate hwaiting (.inr ⟨hcanonical, rfl⟩) rfl
      | false =>
        refine hfailed (.codec "EIO") ?_
        have hsync : ¬synced = true := by
          rw [hsynced]
          decide
        simp only [step, stepOf, writerStep, publish, if_pos hwaiting, if_neg hmatching,
          if_neg hstaged, hcanonical, if_neg hsync]
  · have hstep : step = ⟨writer, .publish matching synced, .idle, writer⟩ := by
      simp only [step, stepOf, writerStep, publish, if_neg hwaiting]
    rw [hstep]
    exact h

theorem complete_inv (h : StreamInv runtime base status history writer) :
    let step := stepOf (writerStep runtime) writer .complete
    StreamInv runtime base status (history.record step) step.after := by
  intro step
  by_cases hwaiting : writer.waiting = some .publication
  · have hstep : step = ⟨writer, .complete, .done,
        { writer with state := .finalized, waiting := none }⟩ := by
      simp only [step, stepOf, writerStep, complete, if_pos hwaiting]
    have hsome : writer.waiting ≠ none := by
      rw [hwaiting]
      nofun
    rw [hstep]
    have hactive : writer.state ≠ .aborted := by
      rw [h.publishing hwaiting]
      nofun
    constructor
    · exact fun _ => h.text hactive
    · exact fun _ => h.count hactive
    · exact h.appending
    · exact h.whole
    · exact h.events
    · exact h.closing
    · nofun
    · nofun
    · exact fun hnone => absurd rfl hnone
    · nofun
    · exact fun _ => (h.waits hsome).2
    · exact fun file hfile howner => ⟨(h.own file hfile howner).1, .inl rfl⟩
    · exact fun _ => h.linked (.inr hwaiting)
    · intro hfailed
      have haborted : writer.state = .aborted := h.aborted hfailed
      rw [h.publishing hwaiting] at haborted
      cases haborted
  · have hstep : step = ⟨writer, .complete, .idle, writer⟩ := by
      simp only [step, stepOf, writerStep, complete, if_neg hwaiting]
    rw [hstep]
    exact h

theorem publishedByOther_inv (h : StreamInv runtime base status history writer)
    (raw : List UInt8) :
    StreamInv runtime base status history (publishedByOther raw writer).2 := by
  cases hcanonical : writer.canonical with
  | some file =>
    simp only [publishedByOther, hcanonical]
    exact h
  | none =>
    simp only [publishedByOther, hcanonical]
    refine h.move rfl rfl rfl rfl (.inl rfl) ?_ ?_
    · intro file hfile
      rw [hcanonical] at hfile
      cases hfile
    · rintro file ⟨⟩ howner
      cases howner

/-- One step of a writer. -/
theorem writerStep_inv (input : WriterInput ν) (h : StreamInv runtime base status history writer)
    (horder : InOrder (stepOf (writerStep runtime) writer input)) :
    let step := stepOf (writerStep runtime) writer input
    StreamInv runtime base status (history.record step) step.after := by
  cases input with
  | appendEvent event taken => exact appendEvent_inv h event taken horder
  | appended rejected => exact appended_inv h rejected
  | finalize errorCode capturedAt now taken =>
    exact finalize_inv h errorCode capturedAt now taken horder
  | verifyStaged intact => exact verifyStaged_inv h intact
  | publish matching synced => exact publish_inv h matching synced horder
  | complete => exact complete_inv h
  | abort =>
    by_cases hdone : writer.state = .finalized
    · have hsame : writer.abort = writer := if_pos (.inl hdone)
      have hhistory : history.record (stepOf (writerStep runtime) writer .abort) = history :=
        if_pos hdone
      intro step
      rw [hhistory]
      show StreamInv runtime base status history writer.abort
      rw [hsame]
      exact h
    · have hhistory : history.record (stepOf (writerStep runtime) writer .abort) = history.fail :=
        if_neg hdone
      intro step
      rw [hhistory]
      exact abort_inv h hdone horder
  | settle => exact settle_inv h
  | publishedByOther raw =>
    have houtput : (publishedByOther raw writer).1 = .idle := by
      unfold publishedByOther
      split <;> rfl
    have hhistory : history.record (stepOf (writerStep runtime) writer (.publishedByOther raw)) =
        history := by
      simp only [StreamHistory.record, stepOf, writerStep, houtput]
    intro step
    rw [hhistory]
    exact publishedByOther_inv h raw

end

/-! ### What is published -/

theorem beginStreamExchange_eq_ok {input : RequestCaptureV3BaseInput ν} {responseStatus : ν}
    {taken : Bool} {canonical : Option CanonicalFile} {writer : StreamWriter}
    (h : beginStreamExchange runtime input responseStatus taken canonical = .ok writer)
    (hother : ∀ file ∈ canonical, file.byWriter = false) :
    ∃ base, requestCaptureV3BaseRecord runtime input = .ok base ∧
      isStatus runtime responseStatus = true ∧
      StreamInv runtime base responseStatus ⟨[], none, none, false⟩ writer := by
  obtain ⟨base, hbase, h⟩ := bind_eq_ok.mp h
  obtain ⟨_, hstatus, h⟩ := bind_eq_ok.mp h
  obtain ⟨eventsAt, hindex, h⟩ := bind_eq_ok.mp h
  rw [lastIndexOf_prefixObject] at hindex
  obtain rfl := Except.ok.inj hindex
  rw [take_prefixObject] at h
  obtain ⟨written, hwritten, h⟩ := bind_eq_ok.mp h
  obtain rfl := writeRaw_eq_ok hwritten
  obtain rfl := Except.ok.inj h
  refine ⟨base, hbase, (Bool.not_eq_false _).mp (rejectIf_eq_ok.mp hstatus), ?_⟩
  constructor
  · intro _
    show [] ++ (streamStart runtime base responseStatus ++ ['[']) = _ ++ itemsText _ [] ++ _
    rw [List.nil_append, itemsText, Option.elim_none, List.append_nil, List.append_nil]
  · exact fun _ => rfl
  · rfl
  · exact fun _ => rfl
  · exact fun event hevent => absurd hevent List.not_mem_nil
  · intro closing hclosing
    cases hclosing
  · intro hopening
    cases hopening
  · exact fun _ => ⟨rfl, rfl⟩
  · exact fun hsome => absurd rfl hsome
  · intro hpublication
    cases hpublication
  · intro hdone
    cases hdone
  · intro file hfile howner
    rw [hother file hfile] at howner
    cases howner
  · rintro (hdone | hpublication)
    · cases hdone
    · cases hpublication
  · intro hfailed
    cases hfailed

section

variable {input : RequestCaptureV3BaseInput ν} {responseStatus : ν} {taken : Bool}
  {canonical : Option CanonicalFile} {writer : StreamWriter}

/-- A writer that is done has not failed, and neither has one that has published its file. -/
theorem streamed_final
    (hbegin : beginStreamExchange runtime input responseStatus taken canonical = .ok writer)
    (hother : ∀ file ∈ canonical, file.byWriter = false) {inputs : List (WriterInput ν)}
    (horder : ∀ step ∈ trace (writerStep runtime) writer inputs, InOrder step) :
    let history := (trace (writerStep runtime) writer inputs).foldl StreamHistory.record
      ⟨[], none, none, false⟩
    let last := final (writerStep runtime) writer inputs
    (last.state = .finalized → history.failed = false ∧ ∃ file, last.canonical = some file ∧
      runtime.sha256 file.raw = runtime.sha256 last.raw) ∧
    (∀ file ∈ last.canonical, file.byWriter = true → history.failed = false ∧
      ∃ closing, history.closing = some closing ∧
        Streamed runtime input responseStatus history.events closing file.raw) := by
  intro history last
  obtain ⟨base, hbase, hstatus, hstart⟩ := beginStreamExchange_eq_ok hbegin hother
  have hinv : StreamInv runtime base responseStatus history last :=
    recorded_of_allowed (fun history input writer h => writerStep_inv input h) hstart horder
  have hsucceeded : last.state ≠ .aborted → history.failed = false := by
    intro hstate
    cases hfailed : history.failed with
    | false => rfl
    | true => exact absurd (hinv.aborted hfailed) hstate
  constructor
  · intro hdone
    refine ⟨hsucceeded ?_, hinv.linked (.inl hdone)⟩
    rw [hdone]
    nofun
  · intro file hfile howner
    obtain ⟨hraw, hpublished⟩ := hinv.own file hfile howner
    -- a file of the writer's own is published after the closing, and not by an aborted writer
    have hclosed : history.closing.isSome = true ∧ last.state ≠ .aborted := by
      rcases hpublished with hdone | hpublication
      · refine ⟨hinv.closed hdone, ?_⟩
        rw [hdone]
        nofun
      · have hstate := hinv.publishing hpublication
        refine ⟨(hinv.waits ?_).2, ?_⟩
        · rw [hpublication]
          nofun
        · rw [hstate]
          nofun
    obtain ⟨closing, hclosing⟩ := Option.isSome_iff_exists.mp hclosed.1
    obtain ⟨hcapturedAt, herror⟩ := hinv.closing closing hclosing
    have htext := hinv.text hclosed.2
    have hevents := hinv.events
    rw [hinv.whole hclosed.1, Option.toList_none, List.append_nil] at htext hevents
    rw [hclosing, Option.elim_some] at htext
    refine ⟨hsucceeded hclosed.2, closing, hclosing, ⟨base, hbase, ?_⟩, hstatus, hevents,
      hcapturedAt, herror⟩
    rw [hraw, StreamWriter.raw, htext]

end

/-! ### A stream of one event -/

def plainBase : RequestCaptureV3BaseInput Nat := (plainExchange 0).toRequestCaptureV3BaseInput

/-- The writer of a stream over a path where there is no file. -/
def plainWriter : Result StreamWriter := beginStreamExchange plainRuntime plainBase 200 true none

/-- An event that is arrays in arrays, and the end of the stream. -/
def plainInputs (depth : Nat) : List (WriterInput Nat) :=
  [.appendEvent (.tree (nested depth) (distinct_nested depth)) true, .appended none,
    .finalize none none plainNow true, .verifyStaged true, .publish true true, .complete]

/-- Every call returns, and the writer has put its file at the canonical path. -/
def publishes (depth : Nat) (writer : StreamWriter) : Bool :=
  let steps := trace (writerStep plainRuntime) writer (plainInputs depth)
  steps.map (·.output) = [.waits, .done, .waits, .waits, .waits, .done] ∧
    (∀ step ∈ steps, InOrder step) ∧
    (final (writerStep plainRuntime) writer (plainInputs depth)).canonical.any (·.byWriter)

/-- The depth of the events of a run. -/
def streamedNesting (depth : Nat) (writer : StreamWriter) : List Nat :=
  let steps := trace (writerStep plainRuntime) writer (plainInputs depth)
  (steps.foldl StreamHistory.record ⟨[], none, none, false⟩).events.map Json.nesting

theorem exists_plainWriter {depth : Nat} {nesting : Nat}
    (h : plainWriter.toOption.any (fun writer =>
      publishes depth writer && decide (streamedNesting depth writer = [nesting])) = true) :
    ∃ writer file, plainWriter = .ok writer ∧
      (trace (writerStep plainRuntime) writer (plainInputs depth)).map (·.output) =
        [.waits, .done, .waits, .waits, .waits, .done] ∧
      (∀ step ∈ trace (writerStep plainRuntime) writer (plainInputs depth), InOrder step) ∧
      (final (writerStep plainRuntime) writer (plainInputs depth)).canonical = some file ∧
      file.byWriter = true ∧ streamedNesting depth writer = [nesting] := by
  obtain ⟨writer, hwriter, htest⟩ := exists_of_test h
  rw [Bool.and_eq_true, decide_eq_true_eq, publishes, decide_eq_true_eq] at htest
  obtain ⟨⟨houtputs, horder, hown⟩, hnesting⟩ := htest
  cases hcanonical : (final (writerStep plainRuntime) writer (plainInputs depth)).canonical with
  | none =>
    rw [hcanonical] at hown
    cases hown
  | some file =>
    rw [hcanonical] at hown
    exact ⟨writer, file, hwriter, houtputs, horder, hcanonical, hown, hnesting⟩

section

variable {input : RequestCaptureV3BaseInput ν} {responseStatus : ν} {taken : Bool}
  {canonical : Option CanonicalFile} {writer : StreamWriter}

/-- In every run in order: a writer that is done has left the digest of its bytes at the canonical
path, what it has put there is the record of the whole exchange unless an event nests deeper than 62
levels, and a writer that failed or was aborted has put nothing there. -/
theorem streamed_stored_iff
    (hbegin : beginStreamExchange runtime input responseStatus taken canonical = .ok writer)
    (hother : ∀ file ∈ canonical, file.byWriter = false) {inputs : List (WriterInput ν)}
    (horder : ∀ step ∈ trace (writerStep runtime) writer inputs, InOrder step) :
    let history := (trace (writerStep runtime) writer inputs).foldl StreamHistory.record
      ⟨[], none, none, false⟩
    let last := final (writerStep runtime) writer inputs
    (last.state = .finalized → history.failed = false ∧ ∃ file, last.canonical = some file ∧
      runtime.sha256 file.raw = runtime.sha256 last.raw) ∧
    (∀ file ∈ last.canonical, file.byWriter = true → history.failed = false ∧
      ∃ closing, history.closing = some closing ∧
        (Stored runtime input responseStatus history.events closing file.raw ↔
          ∀ event ∈ history.events, event.nesting ≤ 62)) := by
  intro history last
  obtain ⟨hdone, hown⟩ := streamed_final hbegin hother horder
  refine ⟨hdone, ?_⟩
  intro file hfile howner
  obtain ⟨hsucceeded, closing, hclosing, hstreamed⟩ := hown file hfile howner
  exact ⟨hsucceeded, closing, hclosing, stored_iff hstreamed⟩

end

theorem forall_nesting_le {events : List (Json ν)} {nesting : Nat}
    (h : events.map Json.nesting = [nesting]) {bound : Nat} :
    (∀ event ∈ events, event.nesting ≤ bound) ↔ nesting ≤ bound := by
  obtain ⟨event, rfl, rfl⟩ := List.map_eq_singleton_iff.mp h
  exact List.forall_mem_singleton

theorem plainWriter_publishes : ∀ depth ∈ [3, 63], plainWriter.toOption.any (fun writer =>
    publishes depth writer && decide (streamedNesting depth writer = [depth])) = true := by
  decide +kernel

theorem plainStream_stored : ∃ writer file events closing, plainWriter = .ok writer ∧
    (final (writerStep plainRuntime) writer (plainInputs 3)).canonical = some file ∧
    Stored plainRuntime plainBase 200 events closing file.raw := by
  have htest := plainWriter_publishes 3 (by decide)
  obtain ⟨writer, file, hwriter, -, horder, hfile, howner, hnesting⟩ := exists_plainWriter htest
  obtain ⟨-, hown⟩ := streamed_stored_iff hwriter nofun horder
  obtain ⟨-, closing, -, hstored⟩ := hown file hfile howner
  exact ⟨writer, file, _, closing, hwriter, hfile,
    hstored.mpr ((forall_nesting_le hnesting).mpr (by decide))⟩

/-- Every call of this writer returns, and nobody can read the file it leaves. -/
theorem plainStream_not_stored : ∃ writer file, plainWriter = .ok writer ∧
    (trace (writerStep plainRuntime) writer (plainInputs 63)).map (·.output) =
      [.waits, .done, .waits, .waits, .waits, .done] ∧
    (∀ step ∈ trace (writerStep plainRuntime) writer (plainInputs 63), InOrder step) ∧
    (final (writerStep plainRuntime) writer (plainInputs 63)).canonical = some file ∧
    file.byWriter = true ∧
    ∀ record, parseRequestCaptureV3Jsonl plainRuntime file.raw ≠ .ok record := by
  have htest := plainWriter_publishes 63 (by decide)
  obtain ⟨writer, file, hwriter, houtputs, horder, hfile, howner, hnesting⟩ :=
    exists_plainWriter htest
  obtain ⟨-, hown⟩ := streamed_final hwriter nofun horder
  obtain ⟨-, closing, -, hstreamed⟩ := hown file hfile howner
  refine ⟨writer, file, hwriter, houtputs, horder, hfile, howner, ?_⟩
  intro record hparse
  have hdeep := (forall_nesting_le hnesting).mp (nesting_of_parse hstreamed hparse)
  omega

end Frely.Capture
