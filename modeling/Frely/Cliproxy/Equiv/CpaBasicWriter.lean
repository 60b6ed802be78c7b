import Frely.Cliproxy.CpaBasicWriter

/-!
# The writer is transparent

The frames of a body are those that its delimiters end, wherever the body is cut into payloads
(`framesFrom`).  `writeBytes_frames`: what the writer has handled after some bytes are the frames
that ended among them, one after the other, and it holds the bytes of the frame that has not ended,
up to the size of an inspection.  `handleFrames_written` says what the frames become: themselves,
with the evidence directly before the first one that ends the response.
-/

namespace Frely.CpaBasic

variable {ν : Type}

/-! ### Delimiters -/

variable {frame : List UInt8}

/-- The ways in which a frame can end. -/
def delimiters : List (List UInt8) :=
  [[13, 10, 13, 10], [13, 10, 10], [10, 13, 10], [10, 10], [13, 13]]

/-- A frame ends in a delimiter. -/
def Ends (frame : List UInt8) : Prop := ∃ delimiter ∈ delimiters, delimiter <:+ frame

instance (frame : List UInt8) : Decidable (Ends frame) :=
  inferInstanceAs (Decidable (∃ delimiter ∈ delimiters, delimiter <:+ frame))

/-- What the scanner keeps of a frame. -/
def lastFour (frame : List UInt8) : List UInt8 := frame.drop (frame.length - 4)

theorem push_tail {scanner : DelimiterScanner} (h : scanner.tail = lastFour frame)
    (character : UInt8) : (scanner.push character).1.tail = lastFour (frame ++ [character]) := by
  have hlength : scanner.tail.length = min frame.length 4 := by
    rw [h, lastFour, List.length_drop]
    omega
  unfold DelimiterScanner.push
  dsimp only
  rw [hlength, h]
  unfold lastFour
  rw [List.length_append, List.length_singleton]
  split_ifs with hshort
  · have hnone : frame.length - 4 = 0 := by omega
    have hnext : frame.length + 1 - 4 = 0 := by omega
    rw [hnone, hnext, List.drop_zero, List.drop_zero]
  · have hnext : frame.length + 1 - 4 = frame.length - 4 + 1 := by omega
    rw [hnext, List.drop_drop, List.drop_append_of_le_length (by omega)]

theorem suffix_lastFour {delimiter : List UInt8} (h : delimiter.length ≤ 4) :
    delimiter <:+ lastFour frame ↔ delimiter <:+ frame := by
  have hlast : lastFour frame <:+ frame := List.drop_suffix _ _
  constructor
  · intro hsuffix
    exact hsuffix.trans hlast
  · intro hsuffix
    have hlength : delimiter.length ≤ (lastFour frame).length := by
      have hle := hsuffix.length_le
      rw [lastFour, List.length_drop]
      omega
    exact List.suffix_of_suffix_length_le hsuffix hlast hlength

/-- The scanner sees the delimiter that ends a frame. -/
theorem delimiterLength_eq_zero (frame : List UInt8) :
    delimiterLength (lastFour frame) = 0 ↔ ¬Ends frame := by
  have hall : ∀ delimiter ∈ delimiters,
      (delimiter <:+ lastFour frame ↔ delimiter <:+ frame) := by
    intro delimiter hdelimiter
    have hshort : ∀ delimiter ∈ delimiters, delimiter.length ≤ 4 := by decide
    exact suffix_lastFour (hshort delimiter hdelimiter)
  have hends : Ends frame ↔ ∃ delimiter ∈ delimiters, delimiter <:+ lastFour frame :=
    exists_congr fun delimiter => and_congr_right fun hmem => (hall delimiter hmem).symm
  rw [hends]
  unfold delimiterLength delimiters
  simp only [List.mem_cons, List.not_mem_nil, or_false, exists_eq_or_imp, exists_eq_left, not_or]
  split_ifs with hfour hthree htwo
  · simp [hfour]
  · rcases hthree with h | h <;> simp [h]
  · rcases htwo with h | h <;> simp [h]
  · rw [not_or] at hthree htwo
    exact iff_of_true rfl ⟨hfour, hthree.1, hthree.2, htwo.1, htwo.2⟩

/-! ### The frames of a body -/

/-- The frames that end among some bytes, and the bytes of the frame that has not ended. -/
def framesFrom (frame : List UInt8) : List UInt8 → List (List UInt8) × List UInt8
  | [] => ([], frame)
  | character :: rest =>
    if Ends (frame ++ [character]) then
      let (frames, last) := framesFrom [] rest
      ((frame ++ [character]) :: frames, last)
    else framesFrom (frame ++ [character]) rest

theorem flatten_framesFrom (frame bytes : List UInt8) :
    (framesFrom frame bytes).1.flatten ++ (framesFrom frame bytes).2 = frame ++ bytes := by
  induction bytes generalizing frame with
  | nil => simp [framesFrom]
  | cons character rest ih =>
    rw [framesFrom]
    split_ifs with hends
    · dsimp only
      rw [List.flatten_cons, List.append_assoc, ih]
      simp
    · rw [ih]
      simp

/-- The frames of a body do not depend on where it is cut. -/
theorem framesFrom_append (frame bytes more : List UInt8) :
    framesFrom frame (bytes ++ more) =
      ((framesFrom frame bytes).1 ++ (framesFrom (framesFrom frame bytes).2 more).1,
        (framesFrom (framesFrom frame bytes).2 more).2) := by
  induction bytes generalizing frame with
  | nil => simp [framesFrom]
  | cons character rest ih =>
    rw [List.cons_append, framesFrom, framesFrom]
    split_ifs with hends
    · dsimp only
      rw [ih]
      rfl
    · rw [ih]

/-! ### What becomes of frames -/

variable (runtime : GoRuntime ν) (request : Negotiated)

/-- A frame that ends at a position. -/
def EvidenceWriter.handleFrame (writer : EvidenceWriter) (position : Nat) (frame : List UInt8) :
    EvidenceWriter :=
  if frame.length ≤ maxSSEFrameInspectionBytes then
    writer.processInspectableSSEFrame runtime request position frame
  else writer.send frame

/-- Frames from a position on. -/
def EvidenceWriter.handleFrames (writer : EvidenceWriter) (position : Nat) :
    List (List UInt8) → EvidenceWriter
  | [] => writer
  | frame :: frames =>
    (writer.handleFrame runtime request (position + frame.length) frame).handleFrames
      (position + frame.length) frames

theorem handleFrames_append (writer : EvidenceWriter) (position : Nat)
    (frames more : List (List UInt8)) :
    writer.handleFrames runtime request position (frames ++ more) =
      (writer.handleFrames runtime request position frames).handleFrames runtime request
        (position + frames.flatten.length) more := by
  induction frames generalizing writer position with
  | nil => rfl
  | cons frame frames ih =>
    rw [List.cons_append, EvidenceWriter.handleFrames, EvidenceWriter.handleFrames, ih,
      List.flatten_cons, List.length_append, Nat.add_assoc]

/-- A writer between two frames. -/
def EvidenceWriter.between (writer : EvidenceWriter) (written : List UInt8) : EvidenceWriter :=
  { writer with sseFrame := [], sseFrameOversize := false, sseScanner := {}, written := written }

/-- The writer holds the beginning of a frame, with the bytes of the payload in `segment`;
`written` is what went out before the frame. -/
structure Holds (writer : EvidenceWriter) (segment written frame : List UInt8) : Prop where
  scanner : writer.sseScanner.tail = lastFour frame
  oversize : writer.sseFrameOversize = true ↔ maxSSEFrameInspectionBytes < frame.length
  held : frame.length ≤ maxSSEFrameInspectionBytes →
    writer.sseFrame ++ segment = frame ∧ writer.written = written
  passed : maxSSEFrameInspectionBytes < frame.length →
    writer.sseFrame = [] ∧ writer.written ++ segment = written ++ frame

theorem holds_between (writer : EvidenceWriter) (written : List UInt8) :
    Holds (writer.between written) [] written [] where
  scanner := rfl
  oversize := by simp [EvidenceWriter.between]
  held _ := ⟨rfl, rfl⟩
  passed h := absurd h (by simp)

variable {writer : EvidenceWriter} {segment written frame : List UInt8}

theorem push_eq (h : writer.sseScanner.tail = lastFour frame) (character : UInt8) :
    writer.sseScanner.push character =
      (⟨lastFour (frame ++ [character])⟩, delimiterLength (lastFour (frame ++ [character]))) := by
  have htail := push_tail h character
  have hpush : writer.sseScanner.push character =
      (⟨(writer.sseScanner.push character).1.tail⟩,
        delimiterLength (writer.sseScanner.push character).1.tail) := rfl
  rw [hpush, htail]

/-- One more byte is held, or the frame is passed on with it. -/
theorem passOversize_holds (h : Holds writer segment written frame) (character : UInt8) :
    Holds ({ writer with sseScanner := ⟨lastFour (frame ++ [character])⟩ }.passOversize
        (segment ++ [character])).1
        ({ writer with sseScanner := ⟨lastFour (frame ++ [character])⟩ }.passOversize
          (segment ++ [character])).2 written (frame ++ [character]) ∧
      ({ writer with sseScanner := ⟨lastFour (frame ++ [character])⟩ }.passOversize
        (segment ++ [character])).1.between written = writer.between written := by
  have hlength : (frame ++ [character]).length = frame.length + 1 := List.length_append
  unfold EvidenceWriter.passOversize
  by_cases hlong : maxSSEFrameInspectionBytes < frame.length
  · -- the frame is passed on already
    obtain ⟨hframe, hwritten⟩ := h.passed hlong
    have hoversize := h.oversize.mpr hlong
    rw [if_neg (by simp [hoversize])]
    refine ⟨⟨rfl, ?_, fun hle => ?_, fun _ => ⟨hframe, ?_⟩⟩, rfl⟩
    · exact iff_of_true hoversize (by omega)
    · omega
    · rw [← List.append_assoc, hwritten, List.append_assoc]
  · obtain ⟨hframe, hwritten⟩ := h.held (Nat.not_lt.mp hlong)
    have hoversize : writer.sseFrameOversize = false :=
      (Bool.not_eq_true _).mp fun htrue => hlong (h.oversize.mp htrue)
    have hheld : writer.sseFrame.length + (segment ++ [character]).length = frame.length + 1 := by
      rw [← hframe, List.length_append, List.length_append]
      rfl
    dsimp only
    rw [hheld]
    by_cases hnext : maxSSEFrameInspectionBytes < frame.length + 1
    · rw [if_pos ⟨by rw [hoversize]; rfl, hnext⟩]
      refine ⟨⟨rfl, ?_, fun hle => ?_, fun _ => ⟨rfl, ?_⟩⟩, rfl⟩
      · exact iff_of_true rfl (by omega)
      · omega
      · change writer.written ++ writer.sseFrame ++ (segment ++ [character]) ++ [] = _
        rw [List.append_nil, List.append_assoc, ← List.append_assoc writer.sseFrame, hframe,
          hwritten]
    · rw [if_neg (fun hboth => hnext hboth.2)]
      refine ⟨⟨rfl, ?_, fun _ => ⟨?_, hwritten⟩, fun hlt => ?_⟩, rfl⟩
      · exact iff_of_false (by simp [hoversize]) (by omega)
      · rw [← List.append_assoc, hframe]
      · omega

/-- What is said about a frame does not depend on the bytes that are held. -/
theorem processObservation_between (writer : EvidenceWriter) (position : Nat)
    (observation : FrameObservation) (frame : List UInt8) :
    (writer.processObservation runtime request position observation frame).clearFrame.startFrame =
      (writer.between writer.written).processObservation runtime request position observation
        frame := by
  unfold EvidenceWriter.processObservation
  dsimp only
  rw [apply_ite EvidenceWriter.clearFrame, apply_ite EvidenceWriter.startFrame]
  rfl

theorem between_processObservation (writer : EvidenceWriter) (written : List UInt8)
    (position : Nat) (observation : FrameObservation) (frame : List UInt8) :
    ((writer.between written).processObservation runtime request position observation
        frame).between
      ((writer.between written).processObservation runtime request position observation
        frame).written =
      (writer.between written).processObservation runtime request position observation frame := by
  unfold EvidenceWriter.processObservation
  dsimp only
  split_ifs <;> rfl

theorem holds_handleFrame (writer : EvidenceWriter) (position : Nat)
    (written frame : List UInt8) :
    Holds ((writer.between written).handleFrame runtime request position frame) []
        ((writer.between written).handleFrame runtime request position frame).written [] ∧
      ((writer.between written).handleFrame runtime request position frame).between
        ((writer.between written).handleFrame runtime request position frame).written =
      (writer.between written).handleFrame runtime request position frame := by
  have hbetween : ((writer.between written).handleFrame runtime request position frame).between
      ((writer.between written).handleFrame runtime request position frame).written =
      (writer.between written).handleFrame runtime request position frame := by
    unfold EvidenceWriter.handleFrame
    split_ifs
    · exact between_processObservation runtime request writer written position _ frame
    · rfl
  exact ⟨hbetween ▸ holds_between _ _, hbetween⟩

/-- The frame that ends is handled as a whole. -/
theorem endFrame_eq (h : Holds writer segment written frame) (position : Nat) :
    writer.endFrame runtime request position segment =
      (writer.between written).handleFrame runtime request position frame := by
  unfold EvidenceWriter.endFrame EvidenceWriter.handleFrame
  by_cases hlong : maxSSEFrameInspectionBytes < frame.length
  · obtain ⟨hframe, hwritten⟩ := h.passed hlong
    rw [if_pos (h.oversize.mpr hlong), if_neg (Nat.not_le.mpr hlong)]
    unfold EvidenceWriter.startFrame EvidenceWriter.between EvidenceWriter.send
    rw [hwritten, hframe]
  · obtain ⟨hframe, rfl⟩ := h.held (Nat.not_lt.mp hlong)
    rw [if_neg (fun htrue => hlong (h.oversize.mp htrue)), if_pos (Nat.not_lt.mp hlong), hframe]
    exact processObservation_between runtime request writer position _ frame

/-- **What the bytes of a payload do.** -/
theorem writeBytes_frames (h : Holds writer segment written frame) {start position : Nat}
    (hposition : position = start + frame.length) (bytes : List UInt8) :
    let result := writer.writeBytes runtime request position segment bytes
    let handled := (writer.between written).handleFrames runtime request start
      (framesFrom frame bytes).1
    Holds result.1 result.2 handled.written (framesFrom frame bytes).2 ∧
      result.1.between handled.written = handled := by
  induction bytes generalizing writer segment written frame start position with
  | nil => exact ⟨h, rfl⟩
  | cons character rest ih =>
    have hlength : (frame ++ [character]).length = frame.length + 1 := List.length_append
    obtain ⟨hholds, hbetween⟩ := passOversize_holds h character
    rw [EvidenceWriter.writeBytes, EvidenceWriter.writeByte, push_eq h.scanner]
    dsimp only at hholds hbetween ⊢
    by_cases hends : Ends (frame ++ [character])
    · have hzero : ¬delimiterLength (lastFour (frame ++ [character])) = 0 :=
        fun hzero => (delimiterLength_eq_zero _).mp hzero hends
      rw [if_neg hzero, endFrame_eq runtime request hholds, hbetween, framesFrom, if_pos hends]
      obtain ⟨hnext, hbetween⟩ := holds_handleFrame runtime request writer (position + 1) written
        (frame ++ [character])
      have hstart : position + 1 = start + (frame ++ [character]).length := by omega
      have hempty : position + 1 = position + 1 + ([] : List UInt8).length := rfl
      have hrest := ih hnext hempty
      rw [hbetween] at hrest
      dsimp only
      rw [EvidenceWriter.handleFrames, ← hstart]
      exact hrest
    · rw [if_pos ((delimiterLength_eq_zero _).mpr hends), framesFrom, if_neg hends, ← hbetween]
      exact ih hholds (by omega)

/-- At the end of a payload its last bytes are held as well. -/
theorem holds_rest (h : Holds writer segment written frame) :
    Holds (if writer.sseFrameOversize = true then writer.send segment
      else { writer with sseFrame := writer.sseFrame ++ segment }) [] written frame := by
  by_cases hlong : maxSSEFrameInspectionBytes < frame.length
  · obtain ⟨hframe, hwritten⟩ := h.passed hlong
    rw [if_pos (h.oversize.mpr hlong)]
    exact ⟨h.scanner, h.oversize, fun hle => absurd hlong (Nat.not_lt.mpr hle),
      fun _ => ⟨hframe, (List.append_nil _).trans hwritten⟩⟩
  · obtain ⟨hframe, hwritten⟩ := h.held (Nat.not_lt.mp hlong)
    rw [if_neg (fun htrue => hlong (h.oversize.mp htrue))]
    exact ⟨h.scanner, h.oversize, fun _ => ⟨(List.append_nil _).trans hframe, hwritten⟩,
      fun hlt => absurd hlt hlong⟩

theorem between_rest (writer : EvidenceWriter) (segment written : List UInt8) :
    (if writer.sseFrameOversize = true then writer.send segment
      else { writer with sseFrame := writer.sseFrame ++ segment }).between written =
      writer.between written := by
  split_ifs <;> rfl

/-! ### What goes out -/

variable {observation : FrameObservation}

/-- A frame that can be inspected and ends the response. -/
def Closing (frame : List UInt8) : Prop :=
  frame.length ≤ maxSSEFrameInspectionBytes ∧ (inspectSSEFrame runtime frame).terminal = true

instance (frame : List UInt8) : Decidable (Closing runtime frame) :=
  inferInstanceAs (Decidable (_ ∧ _))

theorem processObservation_unchanged (writer : EvidenceWriter) (position : Nat)
    {observation : FrameObservation} (frame : List UInt8)
    (h : observation.terminal = false ∨ writer.evidenceWritten = true ∨
      request.cancelled position = true) :
    (writer.processObservation runtime request position observation frame).written =
        writer.written ++ frame ∧
      (writer.processObservation runtime request position observation frame).evidenceWritten =
        writer.evidenceWritten := by
  unfold EvidenceWriter.processObservation
  dsimp only
  rw [if_neg]
  · exact ⟨rfl, rfl⟩
  · intro hclosing
    have hwritten : (!writer.evidenceWritten) = true := hclosing.2.1
    rcases h with hfalse | htrue | hcancelled
    · exact Bool.false_ne_true (hfalse.symm.trans hclosing.1)
    · rw [htrue] at hwritten
      exact Bool.false_ne_true hwritten
    · rw [hcancelled] at hclosing
      exact Bool.false_ne_true hclosing.2.2

theorem processObservation_closing (hfault : request.fault = none) (writer : EvidenceWriter)
    {position : Nat} (frame : List UInt8) (hterminal : observation.terminal = true)
    (hwritten : writer.evidenceWritten = false) (hrunning : request.cancelled position = false) :
    (writer.processObservation runtime request position observation frame).written =
        writer.written ++ evidenceSSEFrame runtime
          ((writer.observe observation).frameEvidence request observation) ++ frame ∧
      (writer.processObservation runtime request position observation frame).evidenceWritten =
        true := by
  have hclosing : observation.terminal = true ∧
      (!(writer.observe observation).evidenceWritten) = true ∧
      (!request.cancelled position) = true :=
    ⟨hterminal, (congrArg not hwritten).trans rfl, (congrArg not hrunning).trans rfl⟩
  unfold EvidenceWriter.processObservation
  dsimp only
  rw [if_pos hclosing, faultFrames, hfault]
  exact ⟨rfl, rfl⟩

theorem handleFrame_unchanged (writer : EvidenceWriter) (position : Nat) (frame : List UInt8)
    (h : ¬Closing runtime frame ∨ writer.evidenceWritten = true ∨
      request.cancelled position = true) :
    (writer.handleFrame runtime request position frame).written = writer.written ++ frame ∧
      (writer.handleFrame runtime request position frame).evidenceWritten =
        writer.evidenceWritten := by
  unfold EvidenceWriter.handleFrame
  split_ifs with hshort
  · have hterminal : ¬Closing runtime frame → (inspectSSEFrame runtime frame).terminal = false :=
      fun hclosing => (Bool.not_eq_true _).mp fun hterminal => hclosing ⟨hshort, hterminal⟩
    exact processObservation_unchanged runtime request writer position frame (h.imp_left hterminal)
  · exact ⟨rfl, rfl⟩

theorem handleFrames_unchanged (writer : EvidenceWriter) (position : Nat)
    (frames : List (List UInt8))
    (h : (∀ frame ∈ frames, ¬Closing runtime frame) ∨ writer.evidenceWritten = true ∨
      request.cancelled position = true) :
    (writer.handleFrames runtime request position frames).written =
        writer.written ++ frames.flatten ∧
      (writer.handleFrames runtime request position frames).evidenceWritten =
        writer.evidenceWritten := by
  induction frames generalizing writer position with
  | nil => exact ⟨(List.append_nil _).symm, rfl⟩
  | cons frame frames ih =>
    have hlater : request.cancelled position = true →
        request.cancelled (position + frame.length) = true :=
      request.stays _ _ (Nat.le_add_right _ _)
    obtain ⟨hframe, hevidence⟩ := handleFrame_unchanged runtime request writer
      (position + frame.length) frame
      (h.imp (fun hnone => hnone frame List.mem_cons_self) (Or.imp_right hlater))
    have hrest := ih (writer.handleFrame runtime request (position + frame.length) frame)
      (position + frame.length)
      (h.imp (fun hnone other hother => hnone other (List.mem_cons_of_mem _ hother))
        (Or.imp (hevidence.trans ·) hlater))
    rw [EvidenceWriter.handleFrames, hrest.1, hrest.2, hframe, hevidence, List.flatten_cons,
      List.append_assoc]
    exact ⟨rfl, rfl⟩

/-- The first frame that ends the response, if there is one. -/
theorem exists_first (frames : List (List UInt8)) :
    (∀ frame ∈ frames, ¬Closing runtime frame) ∨
      ∃ before frame after, frames = before ++ frame :: after ∧ Closing runtime frame ∧
        ∀ other ∈ before, ¬Closing runtime other := by
  induction frames with
  | nil => exact .inl fun _ hmem => absurd hmem List.not_mem_nil
  | cons first frames ih =>
    by_cases hfirst : Closing runtime first
    · exact .inr ⟨[], first, frames, rfl, hfirst, fun _ hmem => absurd hmem List.not_mem_nil⟩
    · rcases ih with hnone | ⟨before, frame, after, rfl, hclosing, hbefore⟩
      · exact .inl (List.forall_mem_cons.mpr ⟨hfirst, hnone⟩)
      · exact .inr ⟨first :: before, frame, after, rfl, hclosing,
          List.forall_mem_cons.mpr ⟨hfirst, hbefore⟩⟩

/-- There is one first frame. -/
theorem first_unique {before others after rest : List (List UInt8)} {other : List UInt8}
    (h : before ++ frame :: after = others ++ other :: rest) (hclosing : Closing runtime frame)
    (hbefore : ∀ frame ∈ before, ¬Closing runtime frame) (hother : Closing runtime other)
    (hothers : ∀ frame ∈ others, ¬Closing runtime frame) : before = others ∧ frame = other := by
  induction before generalizing others with
  | nil =>
    cases others with
    | nil => exact ⟨rfl, (List.cons.inj h).1⟩
    | cons first others =>
      have hfirst : frame = first := (List.cons.inj h).1
      exact absurd hclosing (hfirst ▸ hothers first List.mem_cons_self)
  | cons first before ih =>
    cases others with
    | nil =>
      have hfirst : first = other := (List.cons.inj h).1
      exact absurd hother (hfirst ▸ hbefore first List.mem_cons_self)
    | cons second others =>
      obtain ⟨rfl, hrest⟩ := List.cons.inj h
      obtain ⟨rfl, hsame⟩ := ih hrest (List.forall_mem_cons.mp hbefore).2
        (List.forall_mem_cons.mp hothers).2
      exact ⟨rfl, hsame⟩

/-- What went out for the frames of a body: the evidence stands directly before the first frame that
ends the response, unless the request was cancelled by then. -/
inductive Injected (frames : List (List UInt8)) : List UInt8 → Prop where
  | unchanged
    (h : ∀ before frame after, frames = before ++ frame :: after → Closing runtime frame →
      (∀ other ∈ before, ¬Closing runtime other) →
      request.cancelled (before ++ [frame]).flatten.length = true) :
    Injected frames frames.flatten
  | evidence {before : List (List UInt8)} {frame : List UInt8} {after : List (List UInt8)}
    (evidence : Evidence) (hframes : frames = before ++ frame :: after)
    (hclosing : Closing runtime frame) (hbefore : ∀ other ∈ before, ¬Closing runtime other)
    (hrunning : request.cancelled (before ++ [frame]).flatten.length = false) :
    Injected frames
      (before.flatten ++ evidenceSSEFrame runtime evidence ++ frame ++ after.flatten)

theorem handleFrames_injected (hfault : request.fault = none)
    (hwriter : writer.evidenceWritten = false) (hwritten : writer.written = [])
    (frames : List (List UInt8)) :
    Injected runtime request frames (writer.handleFrames runtime request 0 frames).written := by
  rcases exists_first runtime frames with hnone | ⟨before, frame, after, rfl, hclosing, hbefore⟩
  · rw [(handleFrames_unchanged runtime request writer 0 frames (.inl hnone)).1, hwritten]
    refine .unchanged fun before frame after hframes hclosing _ => ?_
    exact absurd hclosing (hnone frame (hframes ▸ List.mem_append_right _ List.mem_cons_self))
  · obtain ⟨hsame, hevidence⟩ := handleFrames_unchanged runtime request writer 0 before
      (.inl hbefore)
    rw [hwriter] at hevidence
    have hposition : (before ++ [frame]).flatten.length =
        0 + before.flatten.length + frame.length := by
      rw [List.flatten_append, List.length_append, List.flatten_singleton, Nat.zero_add]
    rw [handleFrames_append, EvidenceWriter.handleFrames]
    cases hcancelled : request.cancelled (0 + before.flatten.length + frame.length) with
    | true =>
      obtain ⟨hframe, -⟩ := handleFrame_unchanged runtime request
        (writer.handleFrames runtime request 0 before) (0 + before.flatten.length + frame.length)
        frame (.inr (.inr hcancelled))
      obtain ⟨hrest, -⟩ := handleFrames_unchanged runtime request
        ((writer.handleFrames runtime request 0 before).handleFrame runtime request
          (0 + before.flatten.length + frame.length) frame)
        (0 + before.flatten.length + frame.length) after (.inr (.inr hcancelled))
      have hwhole : [] ++ before.flatten ++ frame ++ after.flatten =
          (before ++ frame :: after).flatten := by simp
      rw [hrest, hframe, hsame, hwritten, hwhole]
      refine .unchanged fun others other rest hframes hother hothers => ?_
      obtain ⟨rfl, rfl⟩ := first_unique runtime hframes hclosing hbefore hother hothers
      rw [hposition]
      exact hcancelled
    | false =>
      obtain ⟨hframe, hdone⟩ := processObservation_closing runtime request hfault
        (writer.handleFrames runtime request 0 before) frame hclosing.2 hevidence hcancelled
      have hhandle : (writer.handleFrames runtime request 0 before).handleFrame runtime request
          (0 + before.flatten.length + frame.length) frame =
          (writer.handleFrames runtime request 0 before).processObservation runtime request
            (0 + before.flatten.length + frame.length) (inspectSSEFrame runtime frame) frame :=
        if_pos hclosing.1
      rw [hhandle, (handleFrames_unchanged runtime request _ _ after (.inr (.inl hdone))).1, hframe,
        hsame, hwritten, List.nil_append]
      exact .evidence _ rfl hclosing hbefore (by rw [hposition]; exact hcancelled)

/-! ### Whole responses -/

theorem handleFrame_fields (writer : EvidenceWriter) (size : Option Nat) (position : Nat)
    (frame : List UInt8) :
    { writer with size := size, committed := true, mode := .sse }.handleFrame runtime request
        position frame =
      { writer.handleFrame runtime request position frame with
        size := size, committed := true, mode := .sse } := by
  unfold EvidenceWriter.handleFrame EvidenceWriter.processInspectableSSEFrame
  split_ifs
  · generalize inspectSSEFrame runtime frame = observation
    unfold EvidenceWriter.processObservation
    dsimp only
    by_cases hclosing : observation.terminal = true ∧
        (!(writer.observe observation).evidenceWritten) = true ∧
        (!request.cancelled position) = true
    · rw [if_pos hclosing, if_pos (by exact hclosing)]
      rfl
    · rw [if_neg hclosing, if_neg (by exact hclosing)]
      rfl
  · rfl

theorem handleFrames_fields (writer : EvidenceWriter) (size : Option Nat) (position : Nat)
    (frames : List (List UInt8)) :
    { writer with size := size, committed := true, mode := .sse }.handleFrames runtime request
        position frames =
      { writer.handleFrames runtime request position frames with
        size := size, committed := true, mode := .sse } := by
  induction frames generalizing writer position with
  | nil => rfl
  | cons frame frames ih =>
    rw [EvidenceWriter.handleFrames, handleFrame_fields, ih]
    rfl

theorem handleFrames_size (writer : EvidenceWriter) (position : Nat) (frames : List (List UInt8)) :
    (writer.handleFrames runtime request position frames).size = writer.size ∧
      (writer.handleFrames runtime request position frames).finished = writer.finished := by
  have hprocess : ∀ (writer : EvidenceWriter) (position : Nat) (observation : FrameObservation)
      (frame : List UInt8),
      (writer.processObservation runtime request position observation frame).size = writer.size ∧
        (writer.processObservation runtime request position observation frame).finished =
          writer.finished := by
    intro writer position observation frame
    unfold EvidenceWriter.processObservation
    dsimp only
    split_ifs <;> exact ⟨rfl, rfl⟩
  induction frames generalizing writer position with
  | nil => exact ⟨rfl, rfl⟩
  | cons frame frames ih =>
    obtain ⟨hsize, hfinished⟩ := ih
      (writer.handleFrame runtime request (position + frame.length) frame) (position + frame.length)
    rw [EvidenceWriter.handleFrames, hsize, hfinished]
    unfold EvidenceWriter.handleFrame
    split_ifs
    · exact hprocess writer (position + frame.length) _ frame
    · exact ⟨rfl, rfl⟩

/-- The frames of a body that have been handled. -/
def handledFrames (status : Nat) (body : List UInt8) : EvidenceWriter :=
  { status := status : EvidenceWriter }.handleFrames runtime request 0 (framesFrom [] body).1

/-- The writer of an event stream, after some payloads of its body. -/
structure Streams (status : Nat) (body : List UInt8) (writer : EvidenceWriter) : Prop where
  mode : writer.mode = .undecided ∨ writer.mode = .sse
  unfinished : writer.finished = false
  size : writer.size.getD 0 = body.length
  holds : Holds writer [] (handledFrames runtime request status body).written (framesFrom [] body).2
  between : { writer with size := none, committed := true, mode := .sse }.between
      (handledFrames runtime request status body).written =
    { handledFrames runtime request status body with committed := true, mode := .sse }

theorem streams_start (status : Nat) :
    Streams runtime request status [] { status := status } where
  mode := .inl rfl
  unfinished := rfl
  size := rfl
  holds := holds_between { status := status } []
  between := rfl

section EventStream

variable (status : Nat) (hmedia : mediaType runtime request = "text/event-stream")

include hmedia

theorem refreshMode_sse (h : writer.mode = .undecided ∨ writer.mode = .sse) :
    writer.refreshMode runtime request = { writer with mode := .sse } := by
  unfold EvidenceWriter.refreshMode
  rcases h with hmode | hmode
  · rw [if_neg (not_not.mpr hmode), if_pos hmedia]
  · rw [if_pos (by rw [hmode]; decide), ← hmode]

theorem write_streams {status : Nat} {body : List UInt8}
    (h : Streams runtime request status body writer) (payload : List UInt8) :
    Streams runtime request status (body ++ payload) (writer.write runtime request payload) := by
  have hwrite : writer.write runtime request payload =
      { writer with size := some (body.length + payload.length), mode := .sse }.writeSSE
        runtime request body.length payload := by
    unfold EvidenceWriter.write
    rw [if_neg (by rw [h.unfinished]; exact Bool.false_ne_true), h.size]
    dsimp only
    rw [refreshMode_sse runtime request hmedia (by exact h.mode)]
  let started : EvidenceWriter :=
    { writer with size := some (body.length + payload.length), committed := true, mode := .sse }
  have hholds : Holds started [] (handledFrames runtime request status body).written
      (framesFrom [] body).2 := ⟨h.holds.scanner, h.holds.oversize, h.holds.held, h.holds.passed⟩
  have hlength : body.length =
      (framesFrom [] body).1.flatten.length + (framesFrom [] body).2.length := by
    rw [← List.length_append, flatten_framesFrom]
    rfl
  have hbetween : started.between (handledFrames runtime request status body).written =
      { handledFrames runtime request status body with
        size := some (body.length + payload.length), committed := true, mode := .sse } :=
    congrArg (fun writer : EvidenceWriter =>
      { writer with size := some (body.length + payload.length) }) h.between
  obtain ⟨hnext, hdone⟩ := writeBytes_frames runtime request hholds hlength payload
  -- the frames of the whole body are those of its parts
  have hframes : (handledFrames runtime request status (body ++ payload)) =
      (handledFrames runtime request status body).handleFrames runtime request
        (framesFrom [] body).1.flatten.length (framesFrom (framesFrom [] body).2 payload).1 := by
    unfold handledFrames
    rw [framesFrom_append, handleFrames_append, Nat.zero_add]
  have hlast : (framesFrom [] (body ++ payload)).2 =
      (framesFrom (framesFrom [] body).2 payload).2 := by
    rw [framesFrom_append]
  rw [hbetween, handleFrames_fields, ← hframes] at hnext hdone
  rw [← hlast] at hnext
  rw [hwrite]
  have hfinal := (between_rest (started.writeBytes runtime request body.length [] payload).1
    (started.writeBytes runtime request body.length [] payload).2
    (handledFrames runtime request status (body ++ payload)).written).trans hdone
  obtain ⟨hsize, hfinished⟩ := handleFrames_size runtime request { status := status } 0
    (framesFrom [] (body ++ payload)).1
  constructor
  · exact .inr (congrArg EvidenceWriter.mode hfinal)
  · exact (congrArg EvidenceWriter.finished hfinal).trans hfinished
  · rw [List.length_append]
    exact congrArg (fun writer : EvidenceWriter => writer.size.getD 0) hfinal
  · exact holds_rest hnext
  · have hnone := congrArg (fun writer : EvidenceWriter => { writer with size := none }) hfinal
    have hsame : { handledFrames runtime request status (body ++ payload) with
        size := none, committed := true, mode := .sse } =
        { handledFrames runtime request status (body ++ payload) with committed := true, mode :=
          .sse } :=
      congrArg (fun size : Option Nat => { handledFrames runtime request status
        (body ++ payload) with
        size := size, committed := true, mode := .sse }) hsize.symm
    exact (congrArg (fun writer : EvidenceWriter =>
      { writer with committed := true, mode := .sse }) hnone).trans hsame

theorem finish_streams {status : Nat} {body : List UInt8}
    (h : Streams runtime request status body writer) :
    (writer.finish runtime request).written =
      (handledFrames runtime request status body).written ++ (framesFrom [] body).2 := by
  unfold EvidenceWriter.finish
  rw [if_neg (by rw [h.unfinished]; exact Bool.false_ne_true)]
  dsimp only
  have hmode : { writer with finished := true }.mode = .undecided ∨
      { writer with finished := true }.mode = .sse := h.mode
  rw [refreshMode_sse runtime request hmedia hmode]
  change writer.written ++ writer.sseFrame = _
  by_cases hlong : maxSSEFrameInspectionBytes < (framesFrom [] body).2.length
  · obtain ⟨hframe, hwritten⟩ := h.holds.passed hlong
    rw [hframe, hwritten]
  · obtain ⟨hframe, hwritten⟩ := h.holds.held (Nat.not_lt.mp hlong)
    rw [List.append_nil] at hframe
    rw [hframe, hwritten]

theorem respond_eq (payloads : List (List UInt8)) :
    respond runtime request status payloads =
      (handledFrames runtime request status payloads.flatten).written ++
        (framesFrom [] payloads.flatten).2 := by
  have hall : ∀ (payloads : List (List UInt8)) (body : List UInt8) (writer : EvidenceWriter),
      Streams runtime request status body writer →
      Streams runtime request status (body ++ payloads.flatten)
        (payloads.foldl (fun writer payload => writer.write runtime request payload) writer) := by
    intro payloads
    induction payloads with
    | nil =>
      intro body writer h
      simpa using h
    | cons payload payloads ih =>
      intro body writer h
      rw [List.flatten_cons, ← List.append_assoc]
      exact ih _ _ (write_streams runtime request hmedia h payload)
  exact finish_streams runtime request hmedia (hall payloads [] { status := status }
    (streams_start runtime request status))

/-- **Transparency.**  The body goes out as it came in, with the evidence directly before the first
frame that ends the response and can be inspected, wherever the payloads cut the body. -/
theorem respond_injected (hfault : request.fault = none) (payloads : List (List UInt8)) :
    (∃ sent, Injected runtime request (framesFrom [] payloads.flatten).1 sent ∧
      respond runtime request status payloads = sent ++ (framesFrom [] payloads.flatten).2) ∧
      (framesFrom [] payloads.flatten).1.flatten ++ (framesFrom [] payloads.flatten).2 =
        payloads.flatten ∧
      ∀ others : List (List UInt8), others.flatten = payloads.flatten →
        respond runtime request status others = respond runtime request status payloads := by
  refine ⟨⟨_, ?_, respond_eq runtime request status hmedia payloads⟩, flatten_framesFrom [] _, ?_⟩
  · exact handleFrames_injected runtime request hfault rfl rfl _
  · intro others hothers
    rw [respond_eq runtime request status hmedia, respond_eq runtime request status hmedia, hothers]

end EventStream

/-! ### A sample -/

/-- Only white space is decoded here. -/
def blankRuntime : GoRuntime Nat where
  format := Json.natFormat
  decode payload := if payload.all (· ∈ [9, 10, 13, 32]) then .eof else .invalid
  valid _ := false
  parseInt n := some n
  parseInt_ofNat _ := rfl
  toLower := Char.toLower
  toLower_ascii _ _ := rfl

def streamRequest : Negotiated where
  attemptRef := "attempt-1"
  fault := none
  contentType := "text/event-stream; charset=utf-8"
  cancelled _ := false
  stays _ _ _ h := h

/-- A frame that ends the response, cut in its delimiter, and an unfinished one. -/
def stopPayloads : List (List UInt8) :=
  [ascii "event: message_stop\n", ascii "\nevent: ping"]

theorem stopPayloads_injected :
    (∃ sent, Injected blankRuntime streamRequest (framesFrom [] stopPayloads.flatten).1 sent ∧
      respond blankRuntime streamRequest 200 stopPayloads =
        sent ++ (framesFrom [] stopPayloads.flatten).2) ∧
      (framesFrom [] stopPayloads.flatten).1.flatten ++ (framesFrom [] stopPayloads.flatten).2 =
        stopPayloads.flatten ∧
      ∀ others : List (List UInt8), others.flatten = stopPayloads.flatten →
        respond blankRuntime streamRequest 200 others =
          respond blankRuntime streamRequest 200 stopPayloads :=
  respond_injected blankRuntime streamRequest 200 (by decide) rfl stopPayloads

end Frely.CpaBasic
