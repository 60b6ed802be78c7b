import Frely.Providers.Equiv.SseFrame

/-!
# The scanner reads the format

A first part of a frame and of a line determine the scanner, `Holds`, and what it gives of the bytes
that are left is what the format says of them, `restOutcome_eq`.  The induction is on these bytes; a
CR ends its line one byte later than in the format, so the invariant has two forms.  How the bytes
are cut into chunks makes no difference, `scanChunks_eq`.
-/

namespace Frely.Providers

open Utf8 Blocks

variable {tokenizer : JsonTokenizer}

/-! ### Streams -/

variable {thrown : SseThrown} {lines : List (List UInt8)} {line : List UInt8}
  {completed : Option CompletedSseFrame}

/-- What a scan passed on, and whether it ended in an error. -/
def Scan.outcome {α : Type} (scan : Scan α) : List CliProxySseEvent × Bool :=
  (scan.events, match scan.result with
    | .ok _ => false
    | .error _ => true)

variable (tokenizer) in
/-- What frames give. -/
def collectFrames (frames : List (List (List UInt8))) : List CliProxySseEvent × Bool :=
  collect (frames.map fun frame => (frameResult tokenizer frame).toOption)

/-- The bytes of a line so far. -/
def scanLine (frame : SseFrameBuilder tokenizer) (line : List UInt8) :
    Except SseThrown (SseLine × SseFrameBuilder tokenizer) :=
  line.foldlM (fun scanned byte => scanned.1.push scanned.2 byte) ({}, frame)

/-- The scanner after the lines of a first part of a frame and the bytes of a first part of a
line. -/
structure Holds (lines : List (List UInt8)) (line : List UInt8)
    (scanner : SseSemanticScanner tokenizer) : Prop where
  bomResolved : scanner.bomResolved = true
  pendingCr : scanner.pendingCr = false
  lineHasBytes : scanner.lineHasBytes = decide (line ≠ [])
  built : (buildFrame lines >>= fun frame => scanLine frame line) =
    .ok (scanner.line, scanner.frame)

/-- A line that was scanned is added to the frame. -/
theorem buildFrame_concat (lines : List (List UInt8)) (line : List UInt8) :
    (buildFrame (lines ++ [line]) : Except SseThrown (SseFrameBuilder tokenizer)) =
      (buildFrame lines >>= fun frame => scanLine frame line) >>= fun scanned =>
        scanned.1.finish scanned.2 := by
  rw [buildFrame_append, bind_assoc]
  congr 1
  ext frame
  rw [List.foldlM_cons]
  simp only [List.foldlM_nil, bind_pure]
  rfl

/-- A frame that has failed stays so, whatever lines follow. -/
theorem collectFrames_failed {lines : List (List UInt8)} {thrown : SseThrown}
    (h : (buildFrame lines : Except SseThrown (SseFrameBuilder tokenizer)) = .error thrown)
    (rest : List (List UInt8)) : collectFrames tokenizer (framesFrom lines rest) = ([], true) := by
  have hresult : ∀ {lines : List (List UInt8)} {thrown : SseThrown},
      (buildFrame lines : Except SseThrown (SseFrameBuilder tokenizer)) = .error thrown →
        (frameResult tokenizer lines).toOption = none := by
    intro lines thrown h
    unfold frameResult
    rw [h]
    rfl
  induction rest generalizing lines thrown with
  | nil =>
    unfold collectFrames framesFrom
    rw [List.map_cons, hresult h]
    rfl
  | cons line rest ih =>
    unfold framesFrom
    split
    · unfold collectFrames
      rw [List.map_cons, hresult h]
      rfl
    · refine @ih (lines ++ [line]) thrown ?_
      rw [buildFrame_append, h]
      rfl

theorem collectFrames_of_error (h : frameResult tokenizer lines = .error thrown)
    (rest : List (List (List UInt8))) : collectFrames tokenizer (lines :: rest) = ([], true) := by
  unfold collectFrames
  rw [List.map_cons, h]
  rfl

theorem collectFrames_of_ok {event : Option CliProxySseEvent}
    (h : frameResult tokenizer lines = .ok event) (rest : List (List (List UInt8))) :
    collectFrames tokenizer (lines :: rest) =
      (event.toList ++ (collectFrames tokenizer rest).1, (collectFrames tokenizer rest).2) := by
  unfold collectFrames
  rw [List.map_cons, h]
  rfl

theorem framesFrom_blank (lines rest : List (List UInt8)) :
    framesFrom lines ([] :: rest) = lines :: framesFrom [] rest := rfl

theorem framesFrom_line (hline : line ≠ []) (lines rest : List (List UInt8)) :
    framesFrom lines (line :: rest) = framesFrom (lines ++ [line]) rest := by
  rw [framesFrom, if_neg hline]

namespace Holds

variable {lines : List (List UInt8)} {line : List UInt8} {scanner : SseSemanticScanner tokenizer}

theorem buildFrame_of_blank (h : Holds lines [] scanner) :
    buildFrame lines = .ok scanner.frame ∧ scanner.line = {} := by
  have hbuilt := h.built
  cases hframe : (buildFrame lines : Except SseThrown (SseFrameBuilder tokenizer)) with
  | error thrown =>
    rw [hframe] at hbuilt
    cases hbuilt
  | ok frame =>
    rw [hframe] at hbuilt
    have hpair : (({} : SseLine), frame) = (scanner.line, scanner.frame) := Except.ok.inj hbuilt
    obtain ⟨hline, rfl⟩ := Prod.mk.inj hpair
    exact ⟨rfl, hline.symm⟩

/-- The frame that a line end or the end of the stream closes. -/
theorem finishFrame_eq (h : Holds lines [] scanner) :
    scanner.finishFrame = frameResult tokenizer lines >>= fun event =>
      pure (event, { scanner with frame := {} }) := by
  unfold SseSemanticScanner.finishFrame frameResult
  rw [h.buildFrame_of_blank.1]
  rfl

/-- A line that ends is added to the frame. -/
theorem finish_line (h : Holds lines line scanner) (frame : SseFrameBuilder tokenizer)
    (hfinish : scanner.line.finish scanner.frame = .ok frame) :
    Holds (lines ++ [line]) []
      { scanner with frame := frame, line := {}, lineHasBytes := false } where
  bomResolved := h.bomResolved
  pendingCr := h.pendingCr
  lineHasBytes := rfl
  built := by
    have hline : (buildFrame (lines ++ [line]) : Except SseThrown (SseFrameBuilder tokenizer)) =
        .ok frame := by
      rw [buildFrame_concat, h.built]
      exact hfinish
    rw [hline]
    rfl

theorem failed_line (h : Holds lines line scanner)
    (hfinish : scanner.line.finish scanner.frame = .error thrown) :
    (buildFrame (lines ++ [line]) : Except SseThrown (SseFrameBuilder tokenizer)) =
      .error thrown := by
  rw [buildFrame_concat, h.built]
  exact hfinish

/-- A line end that fails. -/
theorem finishLine_error (h : Holds lines line scanner)
    (hfinish : scanner.finishLine = .error thrown) (rest : List (List UInt8)) :
    collectFrames tokenizer (framesFrom lines (line :: rest)) = ([], true) := by
  unfold SseSemanticScanner.finishLine at hfinish
  rw [h.lineHasBytes] at hfinish
  by_cases hline : line = []
  · subst hline
    rw [if_neg (by decide), h.finishFrame_eq] at hfinish
    rw [framesFrom_blank]
    cases hresult : frameResult tokenizer lines with
    | error thrown => exact collectFrames_of_error hresult _
    | ok event =>
      rw [hresult] at hfinish
      cases hfinish
  · rw [if_pos (decide_eq_true hline)] at hfinish
    rw [framesFrom_line hline]
    cases hfinished : scanner.line.finish scanner.frame with
    | error thrown => exact collectFrames_failed (h.failed_line hfinished) rest
    | ok frame =>
      rw [hfinished] at hfinish
      cases hfinish

variable {next : SseSemanticScanner tokenizer}

/-- A line end adds the line to the frame, or closes the frame if the line is blank. -/
theorem finishLine_ok (h : Holds lines line scanner)
    (hfinish : scanner.finishLine = .ok (completed, next)) :
    ∃ lines', Holds lines' [] next ∧
      (completed.bind CompletedSseFrame.event ≠ none → lines' = []) ∧
      ∀ rest, collectFrames tokenizer (framesFrom lines (line :: rest)) =
        ((completed.bind CompletedSseFrame.event).toList ++
            (collectFrames tokenizer (framesFrom lines' rest)).1,
          (collectFrames tokenizer (framesFrom lines' rest)).2) := by
  unfold SseSemanticScanner.finishLine at hfinish
  rw [h.lineHasBytes] at hfinish
  by_cases hline : line = []
  · subst hline
    rw [if_neg (by decide), h.finishFrame_eq] at hfinish
    cases hresult : frameResult tokenizer lines with
    | error thrown =>
      rw [hresult] at hfinish
      cases hfinish
    | ok event =>
      rw [hresult] at hfinish
      cases hfinish
      refine ⟨[], ⟨h.bomResolved, h.pendingCr, h.lineHasBytes, ?_⟩, fun _ => rfl, ?_⟩
      · rw [h.buildFrame_of_blank.2]
        rfl
      · intro rest
        rw [framesFrom_blank]
        exact collectFrames_of_ok hresult _
  · rw [if_pos (decide_eq_true hline)] at hfinish
    cases hfinished : scanner.line.finish scanner.frame with
    | error thrown =>
      rw [hfinished] at hfinish
      cases hfinish
    | ok frame =>
      rw [hfinished] at hfinish
      cases hfinish
      refine ⟨lines ++ [line], h.finish_line frame hfinished, fun hsome => absurd rfl hsome, ?_⟩
      intro rest
      rw [framesFrom_line hline]
      rfl

/-- A byte of a line. -/
theorem pushLineByte_ok (h : Holds lines line scanner) {byte : UInt8}
    (hpush : scanner.pushLineByte byte = .ok next) :
    Holds lines (line ++ [byte]) next ∧ next.pendingCr = false := by
  unfold SseSemanticScanner.pushLineByte at hpush
  cases hbyte : scanner.line.push scanner.frame byte with
  | error thrown =>
    rw [hbyte] at hpush
    cases hpush
  | ok scanned =>
    rw [hbyte] at hpush
    cases hpush
    refine ⟨⟨h.bomResolved, h.pendingCr, ?_, ?_⟩, h.pendingCr⟩
    · simp
    · have hbuilt := h.built
      unfold scanLine at hbuilt ⊢
      simp only [List.foldlM_append, List.foldlM_cons, List.foldlM_nil, bind_pure]
      rw [← bind_assoc, hbuilt]
      exact hbyte

/-- A byte that fails makes the whole frame fail. -/
theorem pushLineByte_error (h : Holds lines line scanner) {byte : UInt8}
    (hpush : scanner.pushLineByte byte = .error thrown) (more : List UInt8)
    (rest : List (List UInt8)) :
    collectFrames tokenizer (framesFrom lines ((line ++ byte :: more) :: rest)) = ([], true) := by
  have hbyte : scanner.line.push scanner.frame byte = .error thrown := by
    unfold SseSemanticScanner.pushLineByte at hpush
    cases hbyte : scanner.line.push scanner.frame byte with
    | error failed =>
      rw [hbyte] at hpush
      cases hpush
      rfl
    | ok scanned =>
      rw [hbyte] at hpush
      cases hpush
  have hne : line ++ byte :: more ≠ [] := by simp
  rw [framesFrom_line hne]
  refine @collectFrames_failed _ _ thrown ?_ rest
  have hbuilt := h.built
  rw [buildFrame_concat]
  unfold scanLine at hbuilt ⊢
  simp only [List.foldlM_append, List.foldlM_cons]
  rw [← bind_assoc, hbuilt]
  simp only [bind, Except.bind, hbyte]

theorem finishFrame_collect (h : Holds lines [] scanner) :
    (match scanner.finishFrame with
    | .error _ => (([], true) : List CliProxySseEvent × Bool)
    | .ok (event, _) => (event.toList, false)) = collectFrames tokenizer [lines] := by
  rw [h.finishFrame_eq]
  cases hresult : frameResult tokenizer lines with
  | error thrown => exact (collectFrames_of_error hresult []).symm
  | ok event =>
    rw [collectFrames_of_ok hresult []]
    exact Prod.ext (List.append_nil _).symm rfl

/-- What is left at the end is the last line and the last frame. -/
theorem finishLast (h : Holds lines line scanner) :
    (match (do
      let scanner ← scanner.finishLastLine
      scanner.finishFrame : SseSemanticScanner.Scanned (Option CliProxySseEvent) tokenizer) with
    | .error _ => (([], true) : List CliProxySseEvent × Bool)
    | .ok (event, _) => (event.toList, false)) =
      collectFrames tokenizer (framesFrom lines (linesFrom false line [])) := by
  unfold SseSemanticScanner.finishLastLine linesFrom
  rw [h.lineHasBytes]
  by_cases hline : line = []
  · subst hline
    rw [if_neg (by decide), if_pos rfl]
    exact h.finishFrame_collect
  · rw [if_pos (decide_eq_true hline), if_neg hline, framesFrom_line hline]
    cases hfinished : scanner.line.finish scanner.frame with
    | error thrown => exact (collectFrames_failed (h.failed_line hfinished) []).symm
    | ok frame => exact (h.finish_line frame hfinished).finishFrame_collect

end Holds

/-- What the end of the stream gives. -/
def finishOutcome (scanner : SseSemanticScanner tokenizer) : List CliProxySseEvent × Bool :=
  match scanner.finish with
  | .error _ => ([], true)
  | .ok (event, _) => (event.toList, false)

/-- What the rest of a stream gives. -/
def restOutcome (scanner : SseSemanticScanner tokenizer) (bytes : List UInt8) :
    List CliProxySseEvent × Bool :=
  (finishScan (scanBytes scanner bytes)).outcome

variable {scanner next : SseSemanticScanner tokenizer} {byte : UInt8}

theorem restOutcome_nil : restOutcome scanner [] = finishOutcome scanner := by
  unfold restOutcome scanBytes finishScan finishOutcome
  dsimp only
  cases scanner.finish with
  | error thrown => rfl
  | ok finished => rfl

theorem restOutcome_error (hpush : scanner.push byte = .error thrown) (rest : List UInt8) :
    restOutcome scanner (byte :: rest) = ([], true) := by
  unfold restOutcome scanBytes
  rw [hpush]
  rfl

theorem restOutcome_ok {complete : Option CompletedSseFrame}
    (hpush : scanner.push byte = .ok (complete, next)) (rest : List UInt8) :
    restOutcome scanner (byte :: rest) =
      ((complete.bind CompletedSseFrame.event).toList ++ (restOutcome next rest).1,
        (restOutcome next rest).2) := by
  unfold restOutcome
  rw [scanBytes, hpush]
  dsimp only
  unfold finishScan Scan.prepend
  cases hresult : (scanBytes next rest).result with
  | error thrown => rfl
  | ok last =>
    dsimp only
    cases last.finish with
    | error thrown => rfl
    | ok finished => exact Prod.ext (List.append_assoc _ _ _) rfl

/-- A line that has bytes is not complete before its end. -/
theorem linesFrom_of_ne_nil (hline : line ≠ []) (bytes : List UInt8) :
    ∃ more rest, linesFrom false line bytes = (line ++ more) :: rest := by
  induction bytes generalizing line with
  | nil =>
    refine ⟨[], [], ?_⟩
    rw [linesFrom, if_neg hline, List.append_nil]
  | cons byte rest ih =>
    unfold linesFrom
    split
    · exact ⟨[], _, by rw [List.append_nil]⟩
    · split
      · exact ⟨[], _, by rw [List.append_nil, if_neg Bool.false_ne_true]⟩
      · obtain ⟨more, lines, hlines⟩ := @ih (line ++ [byte]) (by simp)
        exact ⟨byte :: more, lines, by rw [hlines, List.append_assoc, List.singleton_append]⟩

/-- After a line end, what the scanner gives of the rest comes after what the line end completed. -/
theorem restOutcome_finishLine {lines : List (List UInt8)} {line : List UInt8}
    {after : List (List UInt8)} (h : Holds lines line scanner)
    {completed : Option CompletedSseFrame} (hfinish : scanner.finishLine = .ok (completed, next))
    {outcome : List CliProxySseEvent × Bool}
    (hnext : ∀ lines', Holds lines' [] next →
      outcome = collectFrames tokenizer (framesFrom lines' after)) :
    ((completed.bind CompletedSseFrame.event).toList ++ outcome.1, outcome.2) =
      collectFrames tokenizer (framesFrom lines (line :: after)) := by
  obtain ⟨lines', hlines', -, hcollect⟩ := h.finishLine_ok hfinish
  rw [hcollect, hnext lines' hlines']

/-- The first byte of a line does not fail, so what the line before completed is not lost. -/
theorem pushLineByte_first (hline : scanner.line = {}) (byte : UInt8) :
    ∃ next, scanner.pushLineByte byte = .ok next := by
  unfold SseSemanticScanner.pushLineByte SseLine.push
  rw [hline]
  dsimp only
  by_cases hcolon : byte = asciiColon
  · exact ⟨_, by rw [if_pos ⟨rfl, hcolon⟩]; rfl⟩
  · exact ⟨_, by rw [if_neg fun h => hcolon h.2, if_neg hcolon, if_neg (by decide)]; rfl⟩

/-- **Streams.** What the scanner gives of the bytes that are left is what the format says of them,
between two bytes of a line and after a CR. -/
theorem restOutcome_eq (bytes : List UInt8) :
    (Holds lines line scanner → restOutcome scanner bytes =
      collectFrames tokenizer (framesFrom lines (linesFrom false line bytes))) ∧
    (scanner.pendingCr = true → Holds lines line { scanner with pendingCr := false } →
      restOutcome scanner bytes =
        collectFrames tokenizer (framesFrom lines (line :: linesFrom true [] bytes))) := by
  -- over the bytes: after one of them the scanner is between two bytes or after a CR
  induction bytes generalizing scanner lines line with
  | nil =>
    rw [restOutcome_nil]
    unfold finishOutcome SseSemanticScanner.finish SseSemanticScanner.finishBom
      SseSemanticScanner.finishCr
    constructor
    · intro h
      rw [if_pos h.bomResolved]
      simp only [pure_bind]
      rw [if_neg (by rw [h.pendingCr]; decide)]
      exact h.finishLast
    · intro hpending h
      have hresolved : scanner.bomResolved = true := h.bomResolved
      rw [if_pos hresolved]
      simp only [pure_bind]
      rw [if_pos hpending]
      cases hfinish : ({ scanner with pendingCr := false } :
          SseSemanticScanner tokenizer).finishLine with
      | error thrown => exact (h.finishLine_error hfinish []).symm
      | ok finished =>
        obtain ⟨completed, next⟩ := finished
        obtain ⟨lines', hnext, hempty, hcollect⟩ := h.finishLine_ok hfinish
        have hblank : linesFrom true [] [] = [] := rfl
        rw [hblank, hcollect]
        simp only [bind, Except.bind]
        cases hevent : completed.bind CompletedSseFrame.event with
        | none => exact hnext.finishLast
        | some event =>
          rw [hempty (by simp [hevent])]
          rfl
  | cons byte rest ih =>
    constructor
    · intro h
      have hpush : scanner.push byte = scanner.pushResolvedByte byte := if_pos h.bomResolved
      unfold SseSemanticScanner.pushResolvedByte at hpush
      rw [if_neg (by rw [h.pendingCr]; decide)] at hpush
      unfold linesFrom
      -- a CR ends the line when the byte after it is known
      by_cases hcr : byte = asciiCr
      · rw [if_pos hcr] at hpush ⊢
        rw [restOutcome_ok hpush]
        exact ih.2 rfl ⟨h.bomResolved, rfl, h.lineHasBytes, h.built⟩
      rw [if_neg hcr] at hpush ⊢
      by_cases hlf : byte = asciiLf
      · rw [if_pos hlf] at hpush ⊢
        rw [if_neg Bool.false_ne_true]
        cases hfinish : scanner.finishLine with
        | error thrown =>
          rw [restOutcome_error (hpush.trans hfinish), h.finishLine_error hfinish]
        | ok finished =>
          rw [restOutcome_ok (hpush.trans hfinish)]
          exact restOutcome_finishLine h hfinish fun lines' hnext => ih.1 hnext
      · rw [if_neg hlf] at hpush ⊢
        cases hbyte : scanner.pushLineByte byte with
        | error thrown =>
          rw [hbyte] at hpush
          obtain ⟨more, after, hlines⟩ := linesFrom_of_ne_nil
            (show line ++ [byte] ≠ [] by simp) rest
          rw [restOutcome_error hpush, hlines, List.append_assoc, List.singleton_append,
            h.pushLineByte_error hbyte]
        | ok next =>
          rw [hbyte] at hpush
          rw [restOutcome_ok hpush]
          exact ih.1 (h.pushLineByte_ok hbyte).1
    · intro hpending h
      have hresolved : scanner.bomResolved = true := h.bomResolved
      have hpush : scanner.push byte = scanner.pushResolvedByte byte := if_pos hresolved
      unfold SseSemanticScanner.pushResolvedByte at hpush
      rw [if_pos hpending] at hpush
      dsimp only at hpush
      cases hfinish : ({ scanner with pendingCr := false } :
          SseSemanticScanner tokenizer).finishLine with
      | error thrown =>
        rw [hfinish] at hpush
        have herror : scanner.push byte = .error thrown := by
          rw [hpush]
          split <;> rfl
        rw [restOutcome_error herror, h.finishLine_error hfinish]
      | ok finished =>
        obtain ⟨completed, next⟩ := finished
        rw [hfinish] at hpush
        unfold linesFrom
        -- an LF after the CR belongs to the same end of line
        by_cases hlf : byte = asciiLf
        · rw [if_pos hlf] at hpush
          have hcr : byte ≠ asciiCr := by
            rw [hlf]
            decide
          rw [if_neg hcr, if_pos hlf, if_pos rfl, restOutcome_ok hpush]
          exact restOutcome_finishLine h hfinish fun lines' hnext => ih.1 hnext
        rw [if_neg hlf] at hpush
        simp only [bind, Except.bind] at hpush
        by_cases hcr : byte = asciiCr
        · rw [if_pos hcr] at hpush ⊢
          rw [restOutcome_ok hpush]
          refine restOutcome_finishLine h hfinish fun lines' hnext => ?_
          exact ih.2 rfl ⟨hnext.bomResolved, rfl, hnext.lineHasBytes, hnext.built⟩
        · rw [if_neg hcr] at hpush ⊢
          rw [if_neg hlf]
          obtain ⟨lines', hblank, -⟩ := h.finishLine_ok hfinish
          obtain ⟨last, hbyte⟩ := pushLineByte_first hblank.buildFrame_of_blank.2 byte
          rw [hbyte] at hpush
          rw [restOutcome_ok hpush]
          refine restOutcome_finishLine h hfinish fun lines' hnext => ?_
          exact ih.1 (hnext.pushLineByte_ok hbyte).1

/-! ### The byte order mark -/

/-- A scanner that holds back bytes, and one that has read them as bytes of a line. -/
def heldBack (tokenizer : JsonTokenizer) (pending : List UInt8) : SseSemanticScanner tokenizer :=
    { bomPending := pending }

/-- The scanner behind bytes that turned out to be no byte order mark. -/
def readBack (tokenizer : JsonTokenizer) (field : List UInt8) : SseSemanticScanner tokenizer where
  line := { field := field }
  lineHasBytes := decide (field ≠ [])
  bomResolved := true

theorem restOutcome_congr {other : SseSemanticScanner tokenizer}
    (hpush : scanner.push byte = other.push byte) (rest : List UInt8) :
    restOutcome scanner (byte :: rest) = restOutcome other (byte :: rest) := by
  unfold restOutcome scanBytes
  rw [hpush]

theorem restOutcome_silent (hpush : scanner.push byte = .ok (none, next)) (rest : List UInt8) :
    restOutcome scanner (byte :: rest) = restOutcome next rest :=
  restOutcome_ok hpush rest

/-- Bytes that turn out not to be a byte order mark are bytes of the first line. -/
theorem restOutcome_heldBack {k : Nat} (hk : k < utf8Bom.length) {bytes : List UInt8}
    (hbytes : ∀ byte rest, bytes = byte :: rest → utf8Bom[k]? ≠ some byte) :
    restOutcome (heldBack tokenizer (utf8Bom.take k)) bytes =
      restOutcome (readBack tokenizer (utf8Bom.take k)) bytes := by
  have hcases : k = 0 ∨ k = 1 ∨ k = 2 := by
    have hlength : utf8Bom.length = 3 := rfl
    omega
  cases bytes with
  | nil =>
    rw [restOutcome_nil, restOutcome_nil]
    obtain rfl | rfl | rfl := hcases
    · rfl
    · rfl
    · rfl
  | cons byte rest =>
    have hne := hbytes byte rest rfl
    apply restOutcome_congr
    unfold SseSemanticScanner.push SseSemanticScanner.pushInitialByte
    obtain rfl | rfl | rfl := hcases
    · exact if_neg hne
    · exact if_neg hne
    · exact if_neg hne

/-- **Byte order mark.** One at the start of a stream is left out. -/
theorem restOutcome_withoutBom (bytes : List UInt8) :
    restOutcome ({} : SseSemanticScanner tokenizer) bytes =
      restOutcome (readBack tokenizer []) (withoutBom bytes) := by
  have hne : ∀ {k : Nat} {byte : UInt8} {rest : List UInt8}, utf8Bom[k]? ≠ some byte →
      ∀ b r, byte :: rest = b :: r → utf8Bom[k]? ≠ some b := by
    rintro k byte rest h b r heq
    cases heq
    exact h
  match bytes with
  | [] => exact @restOutcome_heldBack tokenizer 0 (by decide) [] nofun
  | first :: rest =>
    -- one, two or three bytes of the mark can be there: what is not a whole mark is read back
    by_cases hfirst : utf8Bom[0]? = some first
    · cases hfirst
      have hheld : ∀ rest, restOutcome ({} : SseSemanticScanner tokenizer) (0xEF :: rest) =
          restOutcome (heldBack tokenizer [0xEF]) rest := restOutcome_silent rfl
      have hread : ∀ rest, restOutcome (readBack tokenizer []) (0xEF :: rest) =
          restOutcome (readBack tokenizer [0xEF]) rest := restOutcome_silent rfl
      rw [hheld]
      match rest with
      | [] =>
        have hsame : withoutBom [0xEF] = [0xEF] := by decide
        rw [hsame, hread]
        exact @restOutcome_heldBack tokenizer 1 (by decide) [] nofun
      | second :: rest =>
        by_cases hsecond : utf8Bom[1]? = some second
        · cases hsecond
          have hheld : ∀ rest, restOutcome (heldBack tokenizer [0xEF])
              (0xBB :: rest) = restOutcome (heldBack tokenizer [0xEF, 0xBB]) rest :=
                restOutcome_silent rfl
          have hreadAgain : ∀ rest, restOutcome (readBack tokenizer [0xEF])
              (0xBB :: rest) = restOutcome (readBack tokenizer [0xEF, 0xBB]) rest :=
                restOutcome_silent rfl
          rw [hheld]
          match rest with
          | [] =>
            have hsame : withoutBom [0xEF, 0xBB] = [0xEF, 0xBB] := by decide
            rw [hsame, hread, hreadAgain]
            exact @restOutcome_heldBack tokenizer 2 (by decide) [] nofun
          | third :: rest =>
            by_cases hthird : utf8Bom[2]? = some third
            · cases hthird
              exact restOutcome_silent rfl rest
            · have hsame : withoutBom (0xEF :: 0xBB :: third :: rest) =
                  0xEF :: 0xBB :: third :: rest := by
                have hnot : (0xBF == third) = false := by
                  rw [beq_eq_false_iff_ne]
                  rintro rfl
                  exact hthird rfl
                simp [withoutBom, utf8Bom, List.isPrefixOf, hnot]
              rw [hsame, hread, hreadAgain]
              exact @restOutcome_heldBack tokenizer 2 (by decide) _ (hne hthird)
        · have hsame : withoutBom (0xEF :: second :: rest) = 0xEF :: second :: rest := by
            have hnot : (0xBB == second) = false := by
              rw [beq_eq_false_iff_ne]
              rintro rfl
              exact hsecond rfl
            simp [withoutBom, utf8Bom, List.isPrefixOf, hnot]
          rw [hsame, hread]
          exact @restOutcome_heldBack tokenizer 1 (by decide) _ (hne hsecond)
    · have hsame : withoutBom (first :: rest) = first :: rest := by
        have hnot : (0xEF == first) = false := by
          rw [beq_eq_false_iff_ne]
          rintro rfl
          exact hfirst rfl
        simp [withoutBom, utf8Bom, List.isPrefixOf, hnot]
      rw [hsame]
      exact @restOutcome_heldBack tokenizer 0 (by decide) _ (hne hfirst)

/-! ### Chunks -/

theorem scanBytes_append (scanner : SseSemanticScanner tokenizer) (bytes more : List UInt8) :
    scanBytes scanner (bytes ++ more) = match (scanBytes scanner bytes).result with
      | .error thrown => ⟨(scanBytes scanner bytes).events, .error thrown⟩
      | .ok next => (scanBytes next more).prepend (scanBytes scanner bytes).events := by
  induction bytes generalizing scanner with
  | nil => rfl
  | cons byte rest ih =>
    rw [List.cons_append, scanBytes, scanBytes]
    cases scanner.push byte with
    | error thrown => rfl
    | ok pushed =>
      dsimp only
      rw [ih]
      unfold Scan.prepend
      dsimp only
      cases (scanBytes pushed.2 rest).result with
      | error thrown => rfl
      | ok next =>
        dsimp only
        rw [List.append_assoc]

/-- **Chunks.** How the bytes are cut makes no difference. -/
theorem scanChunks_eq (scanner : SseSemanticScanner tokenizer) (chunks : List (List UInt8)) :
    scanChunks scanner chunks = scanBytes scanner chunks.flatten := by
  induction chunks generalizing scanner with
  | nil => rfl
  | cons chunk rest ih =>
    rw [List.flatten_cons, scanBytes_append]
    unfold scanChunks
    dsimp only
    cases (scanBytes scanner chunk).result with
    | error thrown => rfl
    | ok next =>
      dsimp only
      rw [ih]

/-- **Server-sent events.** The events of a response do not depend on its chunks, and are those of
the format up to the first frame whose data mean nothing, at which the response fails. -/
theorem parseCliProxySse_streamEvents (h : tokenizer.Documented) (chunks : List (List UInt8)) :
    parseCliProxySse tokenizer chunks = parseCliProxySse tokenizer [chunks.flatten] ∧
      ∀ outcome, StreamEvents tokenizer chunks.flatten outcome ↔ outcome =
        ((parseCliProxySse tokenizer chunks).1, (parseCliProxySse tokenizer chunks).2.isSome) := by
  have hchunks : ∀ chunks, parseCliProxySse tokenizer chunks =
      parseCliProxySse tokenizer [chunks.flatten] := by
    intro chunks
    unfold parseCliProxySse
    rw [scanChunks_eq, scanChunks_eq, List.flatten_cons, List.flatten_nil, List.append_nil]
  have hparsed : ((parseCliProxySse tokenizer chunks).1,
      (parseCliProxySse tokenizer chunks).2.isSome) =
        restOutcome ({} : SseSemanticScanner tokenizer) chunks.flatten := by
    unfold parseCliProxySse restOutcome Scan.outcome
    rw [scanChunks_eq]
    dsimp only
    cases (finishScan (scanBytes ({} : SseSemanticScanner tokenizer) chunks.flatten)).result with
    | ok finished => rfl
    | error thrown => rfl
  have hholds : Holds [] [] (readBack tokenizer []) := ⟨rfl, rfl, rfl, rfl⟩
  refine ⟨hchunks chunks, fun outcome => ?_⟩
  unfold StreamEvents
  rw [hparsed, restOutcome_withoutBom, (restOutcome_eq _).1 hholds]
  unfold collectFrames
  simp only [frameResult_eq h, lines_iff, exists_eq_left]

/-- A tokenizer that knows numbers without a sign or a point, and waits for the whole text. -/
def digitTokenizer : JsonTokenizer where
  State := List Char
  start := []
  write text more := some (text ++ more, [])
  finish text :=
    if text ≠ [] ∧ text.all Char.isDigit then
      some [.numberValue (text.map fun c => UInt16.ofNat c.toNat)]
    else none

theorem digitTokenizer_documented : digitTokenizer.Documented where
  append state text more _ _ :=
    congrArg (fun text : List Char => some (text, ([] : List JsonToken)))
      (List.append_assoc (state : List Char) text more).symm
  rejectsDone text state tokens hstarts hwrite := by
    obtain ⟨rest, rfl⟩ := hstarts
    cases hwrite
    have hbracket : Char.isDigit '[' = false := by decide
    simp [digitTokenizer, hbracket]

/-- `data: [DONE]`, a blank line, and a number, cut within a CRLF. -/
def doneThenNumber : List (List UInt8) :=
  [[0x64, 0x61, 0x74, 0x61, 0x3A, 0x20, 0x5B, 0x44, 0x4F, 0x4E, 0x45, 0x5D, 0x0D],
    [0x0A, 0x0D, 0x0A, 0x64, 0x61, 0x74, 0x61, 0x3A, 0x31, 0x0A, 0x0A]]

theorem parseCliProxySse_streamEvents_doneThenNumber :
    StreamEvents digitTokenizer doneThenNumber.flatten
      ([.done, .event none (.number [49]) 1], false) :=
  ((parseCliProxySse_streamEvents digitTokenizer_documented doneThenNumber).2 _).mpr rfl

/-- Nothing comes after `[DONE]`. -/
def EndsAtDone (events : List CliProxySseEvent) : Prop :=
  ∀ before after, events = before ++ .done :: after → after = []

theorem doneThenNumber_goes_on :
    ¬EndsAtDone (parseCliProxySse digitTokenizer doneThenNumber).1 := by
  intro h
  cases h [] [.event none (.number [49]) 1] rfl

end Frely.Providers
