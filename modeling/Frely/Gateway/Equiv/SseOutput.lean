import Frely.Gateway.Equiv.StreamPreflight
import Frely.Gateway.SseOutput

/-!
# What the SSE output writes

`streamToSse_faithful`: in every run the frames that are no heartbeats are those of the first events
of the provider stream, and no heartbeat comes after a terminal frame.  Nothing at all comes after
one exactly when the provider stream yields no public event after its first error or done event.

`Awaits` says where a pull stands, and `Written` what is written so far; one lemma for each kind of
output extends the latter.
-/

namespace Frely.Gateway

section Written

variable {δ : Type} {reads : Nat → StreamRead δ} {stringify : δ → Except StreamThrown String}

/-! ### What is written -/

variable {frame : SseFrame} {read : StreamRead δ}

/-- A read that needs no frame, or has one. -/
def Shown (stringify : δ → Except StreamThrown String) : StreamRead δ → Prop
  | .event (.usage _) => True
  | read => (frameOfRead stringify read).isSome

/-- What is written when so many reads are handled. -/
structure Written (reads : Nat → StreamRead δ) (stringify : δ → Except StreamThrown String)
    (outputs : List SseOutput) (terminalFrameSent finished : Bool) (handled : Nat) : Prop where
  terminal : ∀ frame ∈ outputs.filterMap SseOutput.frame?,
    frame.isTerminal = true → terminalFrameSent = true
  faithful : (outputs.filterMap SseOutput.frame?).filter (· ≠ .heartbeat) =
    (List.range handled).filterMap fun i => frameOfRead stringify (reads i)
  ordered : (outputs.filterMap SseOutput.frame?).Pairwise
    fun older newer => older.isTerminal = true → newer ≠ .heartbeat
  shown : ∀ i < handled, Shown stringify (reads i) ∨ i + 1 = handled ∧ finished = true
  ended : .closed ∈ outputs → finished = true ∧ ∃ i, i + 1 = handled ∧ reads i = .finished

variable {outputs : List SseOutput} {terminalFrameSent finished : Bool} {handled : Nat}

theorem written_nil : Written reads stringify [] false false 0 where
  terminal _ h := absurd h List.not_mem_nil
  faithful := rfl
  ordered := .nil
  shown i h := absurd h (Nat.not_lt_zero i)
  ended h := absurd h List.not_mem_nil

theorem shown_of_lt (h : Written reads stringify outputs terminalFrameSent false handled) :
    ∀ i < handled, Shown stringify (reads i) := fun i hi =>
  (h.shown i hi).resolve_right fun hlast => Bool.false_ne_true hlast.2

theorem not_closed (h : Written reads stringify outputs terminalFrameSent false handled) :
    .closed ∉ outputs := fun hmem => Bool.false_ne_true (h.ended hmem).1

theorem Written.finish (h : Written reads stringify outputs terminalFrameSent finished handled) :
    Written reads stringify outputs terminalFrameSent true handled :=
  { h with
    shown := fun i hi => (h.shown i hi).imp_right fun hlast => ⟨hlast.1, rfl⟩
    ended := fun hmem => ⟨rfl, (h.ended hmem).2⟩ }

theorem Written.heartbeat (h : Written reads stringify outputs false finished handled) :
    Written reads stringify (outputs ++ [.frame .heartbeat]) false finished handled where
  terminal frame hmem hterminal := by
    rw [List.filterMap_append, List.mem_append] at hmem
    rcases hmem with hmem | hmem
    · exact h.terminal frame hmem hterminal
    · obtain rfl : frame = .heartbeat := List.mem_singleton.mp hmem
      cases hterminal
  faithful := by
    rw [List.filterMap_append, List.filter_append, h.faithful]
    exact List.append_nil _
  ordered := by
    rw [List.filterMap_append, List.pairwise_append]
    refine ⟨h.ordered, List.pairwise_singleton _ _, fun older hmem newer _ hterminal => ?_⟩
    exact absurd (h.terminal older hmem hterminal) Bool.false_ne_true
  shown := h.shown
  ended hmem := by
    have hmem : .closed ∈ outputs := by simpa using hmem
    exact h.ended hmem

theorem frameOfRead_ne_heartbeat (h : frameOfRead stringify read = some frame) :
    frame ≠ .heartbeat := by
  rintro rfl
  unfold frameOfRead at h
  split at h
  · rw [Option.map_eq_some_iff] at h
    obtain ⟨json, -, h⟩ := h
    cases h
  all_goals cases h

theorem range_succ_frames (handled : Nat) :
    ((List.range (handled + 1)).filterMap fun i => frameOfRead stringify (reads i)) =
      ((List.range handled).filterMap fun i => frameOfRead stringify (reads i)) ++
        (frameOfRead stringify (reads handled)).toList := by
  rw [List.range_succ, List.filterMap_append]
  cases hframe : frameOfRead stringify (reads handled) <;> simp [hframe]

/-- A public event is written. -/
theorem Written.event (h : Written reads stringify outputs terminalFrameSent false handled)
    (hframe : frameOfRead stringify (reads handled) = some frame) :
    Written reads stringify (outputs ++ [.frame frame]) (terminalFrameSent || frame.isTerminal)
      false (handled + 1) where
  terminal other hmem hterminal := by
    rw [List.filterMap_append, List.mem_append] at hmem
    rcases hmem with hmem | hmem
    · rw [h.terminal other hmem hterminal, Bool.true_or]
    · obtain rfl : other = frame := List.mem_singleton.mp hmem
      rw [hterminal, Bool.or_true]
  faithful := by
    have hpublic : ([SseOutput.frame frame].filterMap SseOutput.frame?).filter (· ≠ .heartbeat) =
        [frame] := by
      simp [SseOutput.frame?, frameOfRead_ne_heartbeat hframe]
    rw [List.filterMap_append, List.filter_append, h.faithful, range_succ_frames, hframe, hpublic]
    rfl
  ordered := by
    rw [List.filterMap_append, List.pairwise_append]
    refine ⟨h.ordered, List.pairwise_singleton _ _, fun older _ newer hmem _ => ?_⟩
    obtain rfl : newer = frame := List.mem_singleton.mp hmem
    exact frameOfRead_ne_heartbeat hframe
  shown i hi := by
    rcases Nat.lt_succ_iff_lt_or_eq.mp hi with hlt | rfl
    · exact .inl (shown_of_lt h i hlt)
    · left
      unfold Shown
      split
      · trivial
      · rw [hframe]
        rfl
  ended hmem := by
    have hmem : .closed ∈ outputs := by simpa using hmem
    exact absurd hmem (not_closed h)

theorem Written.hidden {usage : Billing.InvocationUsageUnits}
    (h : Written reads stringify outputs terminalFrameSent false handled)
    (hread : reads handled = .event (.usage usage)) :
    Written reads stringify outputs terminalFrameSent false (handled + 1) where
  terminal := h.terminal
  faithful := by
    rw [range_succ_frames, hread, h.faithful]
    exact (List.append_nil _).symm
  ordered := h.ordered
  shown i hi := by
    rcases Nat.lt_succ_iff_lt_or_eq.mp hi with hlt | rfl
    · exact .inl (shown_of_lt h i hlt)
    · rw [hread]
      exact .inl trivial
  ended hmem := absurd hmem (not_closed h)

/-- The last read, which has no frame. -/
theorem Written.last {output : SseOutput}
    (h : Written reads stringify outputs terminalFrameSent false handled)
    (hframe : frameOfRead stringify (reads handled) = none) (houtput : output.frame? = none)
    (hclosed : output = .closed → reads handled = .finished) :
    Written reads stringify (outputs ++ [output]) terminalFrameSent true (handled + 1) := by
  have hframes : (outputs ++ [output]).filterMap SseOutput.frame? =
      outputs.filterMap SseOutput.frame? := by
    rw [List.filterMap_append, List.filterMap_cons_none houtput, List.filterMap_nil,
      List.append_nil]
  refine ⟨?_, ?_, ?_, ?_, ?_⟩
  · rw [hframes]
    exact h.terminal
  · rw [hframes, range_succ_frames, hframe, h.faithful]
    exact (List.append_nil _).symm
  · rw [hframes]
    exact h.ordered
  · intro i hi
    rcases Nat.lt_succ_iff_lt_or_eq.mp hi with hlt | rfl
    · exact .inl (shown_of_lt h i hlt)
    · exact .inr ⟨rfl, rfl⟩
  · intro hmem
    rcases List.mem_append.mp hmem with hmem | hmem
    · exact absurd hmem (not_closed h)
    · exact ⟨rfl, handled, rfl, hclosed (List.mem_singleton.mp hmem).symm⟩

theorem Written.errored {error : StreamThrown}
    (h : Written reads stringify outputs terminalFrameSent finished handled) :
    Written reads stringify (outputs ++ [.errored error]) terminalFrameSent true handled := by
  have hframes : (outputs ++ [SseOutput.errored error]).filterMap SseOutput.frame? =
      outputs.filterMap SseOutput.frame? := by
    rw [List.filterMap_append]
    exact List.append_nil _
  refine ⟨?_, ?_, ?_, h.finish.shown, ?_⟩
  · rw [hframes]
    exact h.terminal
  · rw [hframes]
    exact h.faithful
  · rw [hframes]
    exact h.ordered
  · intro hmem
    have hmem : .closed ∈ outputs := by simpa using hmem
    exact h.finish.ended hmem

/-! ### Where a pull stands -/

/-- The pending read is the first one that is not handled. -/
def PendingNext.Fits (reads : Nat → StreamRead δ) (handled position : Nat) : PendingNext δ → Prop
  | .settled read => position = handled + 1 ∧ reads handled = read
  | .absent | .waiting => position = handled

/-- No heartbeat can come of this pull. -/
def SsePull.Quiet : SsePull δ → Prop
  | .idle | .racing none | .decided none (.event _) | .decided none .cancelled => True
  | _ => False

/-- The output has handled this many reads. -/
structure Awaits (reads : Nat → StreamRead δ) (s : SseState δ) (handled : Nat) : Prop where
  pending : s.pendingNext.Fits reads handled s.position
  racing : ∀ deadline, s.pull = .racing deadline → s.pendingNext ≠ .absent
  decided : ∀ deadline read, s.pull = .decided deadline (.event read) →
    s.pendingNext = .settled read
  quiet : s.terminalFrameSent = true → s.pull.Quiet
  initial : s.initialHeartbeatPending = true → s.terminalFrameSent = false ∧ s.pull = .idle

/-- The invariant of a run: so many reads are handled. -/
def Kept (reads : Nat → StreamRead δ) (stringify : δ → Except StreamThrown String)
    (outputs : List SseOutput) (s : SseState δ) : Prop :=
  ∃ handled, Awaits reads s handled ∧
    Written reads stringify outputs s.terminalFrameSent s.finished handled

variable {s : SseState δ} {deadline : Option Int} {now : Int}

theorem Awaits.idle (h : Awaits reads s handled) :
    Awaits reads { s with pull := .idle } handled where
  pending := h.pending
  racing deadline hpull := by cases hpull
  decided deadline read hpull := by cases hpull
  quiet _ := trivial
  initial hinitial := ⟨(h.initial hinitial).1, rfl⟩

/-- A pull without a frame. -/
theorem kept_silent (h : Awaits reads s handled)
    (hw : Written reads stringify outputs s.terminalFrameSent s.finished handled) :
    Kept reads stringify (outputs ++ (none : Option SseOutput).toList)
      { s with pull := .idle } := by
  refine ⟨handled, h.idle, ?_⟩
  rw [Option.toList_none, List.append_nil]
  exact hw

theorem kept_heartbeat (h : Awaits reads s handled) (hterminal : s.terminalFrameSent = false)
    (hw : Written reads stringify outputs s.terminalFrameSent s.finished handled) :
    Kept reads stringify (outputs ++ (some (SseOutput.frame .heartbeat)).toList)
      { s with pull := .idle } := by
  rw [hterminal] at hw
  have hwritten := hw.heartbeat
  rw [← hterminal] at hwritten
  exact ⟨handled, h.idle, hwritten⟩

theorem kept_attend (h : Awaits reads s handled) (hinitial : s.initialHeartbeatPending = false)
    (hdeadline : s.terminalFrameSent = true → deadline = none)
    (hw : Written reads stringify outputs s.terminalFrameSent s.finished handled) :
    Kept reads stringify (outputs ++ (attend deadline now s).1.toList)
      (attend deadline now s).2 := by
  unfold attend
  split
  · exact kept_silent h hw
  · split
    · next hlate =>
      refine kept_heartbeat h (Bool.eq_false_iff.mpr fun hterminal => ?_) hw
      rw [hdeadline hterminal] at hlate
      cases hlate
    · refine ⟨handled, ⟨?_, ?_, ?_, ?_, ?_⟩, ?_⟩
      · have hpending := h.pending
        show PendingNext.Fits reads handled s.position _
        cases hnext : s.pendingNext with
        | absent => rwa [hnext] at hpending
        | waiting => rwa [hnext] at hpending
        | settled read => rwa [hnext] at hpending
      · intro deadline' _
        dsimp only
        split
        · intro habsent
          cases habsent
        · next hne => exact hne
      · intro deadline' read hpull
        cases hpull
      · intro hterminal
        rw [hdeadline hterminal]
        trivial
      · intro htrue
        exact absurd htrue (by rw [hinitial]; exact Bool.false_ne_true)
      · rw [Option.toList_none, List.append_nil]
        exact hw

theorem kept_failPull {error : StreamThrown} (h : Awaits reads s handled)
    (hw : Written reads stringify outputs s.terminalFrameSent s.finished handled) :
    Kept reads stringify (outputs ++ (failPull error s).1.toList) (failPull error s).2 := by
  have hidle := h.idle
  refine ⟨handled, ⟨hidle.pending, hidle.racing, hidle.decided, hidle.quiet, hidle.initial⟩, ?_⟩
  unfold failPull
  split
  · rw [Option.toList_none, List.append_nil]
    exact hw.finish
  · exact hw.errored

/-! ### Steps -/

variable {event : ProviderStreamEvent δ}

/-- An event that has arrived is handled. -/
theorem Awaits.handle (h : Awaits reads s handled) (hnext : s.pendingNext = .settled read) :
    Awaits reads { s with pull := .idle, pendingNext := .absent } (handled + 1) where
  pending := by
    have hpending := h.pending
    rw [hnext] at hpending
    exact hpending.1
  racing deadline hpull := by cases hpull
  decided deadline read hpull := by cases hpull
  quiet _ := trivial
  initial hinitial := ⟨(h.initial hinitial).1, rfl⟩

theorem read_of_settled (h : Awaits reads s handled) (hnext : s.pendingNext = .settled read) :
    reads handled = read := by
  have hpending := h.pending
  rw [hnext] at hpending
  exact hpending.2

/-- The frame of an event that has arrived. -/
theorem kept_frame (h : Awaits reads s handled) (hnext : s.pendingNext = .settled read)
    (hinitial : s.initialHeartbeatPending = false) (hfinished : s.finished = false)
    (hw : Written reads stringify outputs s.terminalFrameSent s.finished handled)
    (hframe : frameOfRead stringify read = some frame) :
    Kept reads stringify (outputs ++ [.frame frame])
      { s with
        pull := .idle, pendingNext := .absent
        terminalFrameSent := s.terminalFrameSent || frame.isTerminal } := by
  have hhandled := h.handle hnext
  rw [← read_of_settled h hnext] at hframe
  rw [hfinished] at hw
  refine ⟨handled + 1, ⟨hhandled.pending, hhandled.racing, hhandled.decided, fun _ => trivial,
    ?_⟩, ?_⟩
  · intro htrue
    exact absurd (hinitial.symm.trans htrue) Bool.false_ne_true
  · show Written reads stringify _ _ s.finished (handled + 1)
    rw [hfinished]
    exact hw.event hframe

theorem attend_idle : attend deadline now s = attend deadline now { s with pull := .idle } := rfl

theorem kept_writeEvent (h : Awaits reads s handled)
    (hnext : s.pendingNext = .settled (.event event)) (hinitial : s.initialHeartbeatPending = false)
    (hdeadline : s.terminalFrameSent = true → deadline = none) (hfinished : s.finished = false)
    (hw : Written reads stringify outputs s.terminalFrameSent s.finished handled) :
    Kept reads stringify
      (outputs ++
        (writeEvent stringify deadline now { s with pendingNext := .absent } event).1.toList)
      (writeEvent stringify deadline now { s with pendingNext := .absent } event).2 := by
  have hread := read_of_settled h hnext
  cases event with
  | chunk data terminal =>
    cases hjson : stringify data with
    | ok json =>
      have hframe : frameOfRead stringify (.event (.chunk data terminal)) =
          some (.data json) := by
        show (stringify data).toOption.map SseFrame.data = _
        rw [hjson]
        rfl
      have hkept := kept_frame h hnext hinitial hfinished hw hframe
      rw [show (SseFrame.data json).isTerminal = false from rfl, Bool.or_false] at hkept
      rw [writeEvent, hjson]
      exact hkept
    -- the value has no JSON text: the output is errored, and nothing is written
    | error error =>
      have hframe : frameOfRead stringify (reads handled) = none := by
        rw [hread]
        show (stringify data).toOption.map SseFrame.data = _
        rw [hjson]
        rfl
      have hhandled := h.handle hnext
      have hclosed : SseOutput.errored error = .closed → reads handled = .finished := by
        intro h
        cases h
      rw [hfinished] at hw
      rw [writeEvent, hjson]
      simp only [failPull, hfinished]
      exact ⟨handled + 1, ⟨hhandled.pending, hhandled.racing, hhandled.decided, hhandled.quiet,
        hhandled.initial⟩,
        hw.last hframe rfl hclosed⟩
  -- usage is never sent: the next read is attended to in the same pull
  | usage usage =>
    rw [hfinished] at hw
    have hwritten := hw.hidden hread
    rw [← hfinished] at hwritten
    rw [writeEvent, attend_idle]
    exact kept_attend (h.handle hnext) hinitial hdeadline hwritten
  | error code message retryable diagnostic failure =>
    have hkept := kept_frame h hnext hinitial hfinished hw rfl
    rw [show (SseFrame.error _).isTerminal = true from rfl, Bool.or_true] at hkept
    exact hkept
  | done usage serviceTier evidence =>
    have hkept := kept_frame h hnext hinitial hfinished hw rfl
    rw [show SseFrame.done.isTerminal = true from rfl, Bool.or_true] at hkept
    exact hkept

theorem kept_resumePull {outcome : PullOutcome δ} (h : Awaits reads s handled)
    (hpull : s.pull = .decided deadline outcome)
    (hw : Written reads stringify outputs s.terminalFrameSent s.finished handled) :
    Kept reads stringify (outputs ++ (resumePull stringify deadline now s outcome).1.toList)
      (resumePull stringify deadline now s outcome).2 := by
  have hquiet := h.quiet
  rw [hpull] at hquiet
  cases outcome with
  | cancelled => exact kept_silent h hw
  | heartbeat =>
    rw [resumePull]
    split
    · exact kept_silent h hw
    · refine kept_heartbeat h (Bool.eq_false_iff.mpr fun hterminal => ?_) hw
      have := hquiet hterminal
      cases deadline <;> exact this
  | event read =>
    have hnext := h.decided deadline read hpull
    cases read with
    | thrown error => exact kept_failPull h hw
    | finished =>
      rw [resumePull]
      split
      · exact kept_silent h hw
      · next hfinished =>
        have hhandled := h.handle hnext
        have hread := read_of_settled h hnext
        rw [Bool.eq_false_iff.mpr hfinished] at hw
        exact ⟨handled + 1, ⟨hhandled.pending, hhandled.racing, hhandled.decided, hhandled.quiet,
          hhandled.initial⟩,
          hw.last (by rw [hread]; rfl) rfl fun _ => hread⟩
    | event event =>
      rw [resumePull]
      split
      · exact kept_silent h hw
      · next hfinished =>
        refine kept_writeEvent h hnext (Bool.eq_false_iff.mpr fun hinitial => ?_) ?_
          (Bool.eq_false_iff.mpr hfinished) hw
        · have hidle := (h.initial hinitial).2
          rw [hpull] at hidle
          cases hidle
        · intro hterminal
          have := hquiet hterminal
          cases deadline with
          | none => rfl
          | some deadline => exact absurd this id

variable {options : StreamToSseOptions}

theorem kept_sseStep (i : SseInput) (h : Kept reads stringify outputs s) :
    Kept reads stringify (outputs ++ (sseStep reads stringify options i s).1.toList)
      (sseStep reads stringify options i s).2 := by
  obtain ⟨handled, h, hw⟩ := h
  have hsame : Kept reads stringify (outputs ++ (none : Option SseOutput).toList) s := by
    rw [Option.toList_none, List.append_nil]
    exact ⟨handled, h, hw⟩
  unfold sseStep
  split
  -- the reader asks for a frame, and the first one may be a heartbeat
  case h_1 start now =>
    split
    · next hpull =>
      split
      · exact hsame
      · split
        · next hinitial =>
          have hterminal := (h.initial hinitial).1
          have hkept := kept_heartbeat h hterminal hw
          obtain ⟨handled', h', hw'⟩ := hkept
          refine ⟨handled', ⟨h'.pending, h.racing, ?_, ?_, ?_⟩, hw'⟩
          · intro deadline read hdecided
            exact absurd (hpull.symm.trans hdecided) nofun
          · intro _
            show s.pull.Quiet
            rw [hpull]
            trivial
          · intro htrue
            cases htrue
        · next hinitial =>
          refine kept_attend h (Bool.eq_false_iff.mpr hinitial) (fun hterminal => ?_) hw
          rw [if_pos hterminal]
    · exact hsame
  -- the pending `next()` is answered
  case h_2 =>
    split
    · next hnext =>
      refine ⟨handled, ⟨?_, ?_, ?_, h.quiet, h.initial⟩, by simpa using hw⟩
      · have hpending := h.pending
        rw [hnext] at hpending
        have hposition : s.position = handled := hpending
        exact ⟨congrArg (· + 1) hposition, by rw [hposition]⟩
      · intro deadline _ habsent
        cases habsent
      · intro deadline read hpull
        have := h.decided deadline read hpull
        rw [hnext] at this
        cases this
    · exact hsame
  -- the answer decides the race of the pull
  case h_3 =>
    split
    · next deadline read hpull hnext =>
      refine ⟨handled, ⟨h.pending, nofun, ?_, ?_, ?_⟩, by simpa using hw⟩
      · intro deadline' read' hdecided
        cases hdecided
        exact hnext
      · intro hterminal
        have := h.quiet hterminal
        rw [hpull] at this
        cases deadline with
        | none => trivial
        | some deadline => exact this
      · intro hinitial
        have hidle := (h.initial hinitial).2
        rw [hpull] at hidle
        cases hidle
    · exact hsame
  -- the timer decides it
  case h_4 =>
    split
    · next deadline hpull =>
      refine ⟨handled, ⟨h.pending, nofun, ?_, ?_, ?_⟩, by simpa using hw⟩
      · intro deadline' read' hdecided
        cases hdecided
      · intro hterminal
        have := h.quiet hterminal
        rw [hpull] at this
        exact this
      · intro hinitial
        have hidle := (h.initial hinitial).2
        rw [hpull] at hidle
        cases hidle
    · exact hsame
  case h_5 now =>
    split
    · next deadline outcome hpull => exact kept_resumePull h hpull hw
    · exact hsame
  -- the reader cancels, and the race of the pull is decided by that
  case h_6 =>
    split
    · exact hsame
    · refine ⟨handled, ⟨h.pending, ?_, ?_, ?_, ?_⟩, by simpa using hw.finish⟩
      · intro deadline hracing
        dsimp only at hracing
        split at hracing
        · cases hracing
        · exact h.racing deadline hracing
      · intro deadline read hdecided
        dsimp only at hdecided
        split at hdecided
        · cases hdecided
        · exact h.decided deadline read hdecided
      · intro hterminal
        have hquiet := h.quiet hterminal
        dsimp only
        split
        · next hpull =>
          rw [hpull] at hquiet
          exact hquiet
        · exact hquiet
      · intro hinitial
        refine ⟨(h.initial hinitial).1, ?_⟩
        have hidle := (h.initial hinitial).2
        dsimp only
        rw [hidle]

/-! ### Runs -/

/-- What the reader gets in a run, in order. -/
def sseOutputs (steps : List (Machine.Step SseInput (Option SseOutput) (SseState δ))) :
    List SseOutput :=
  steps.filterMap (·.output)

theorem foldl_sseOutputs (steps : List (Machine.Step SseInput (Option SseOutput) (SseState δ)))
    (outputs : List SseOutput) :
    steps.foldl (fun outputs step => outputs ++ step.output.toList) outputs =
      outputs ++ sseOutputs steps := by
  induction steps generalizing outputs with
  | nil => exact (List.append_nil outputs).symm
  | cons step steps ih =>
    rw [List.foldl_cons, ih, sseOutputs, sseOutputs, List.append_assoc]
    cases houtput : step.output with
    | none => rw [List.filterMap_cons_none houtput, Option.toList_none, List.nil_append]
    | some output =>
      rw [List.filterMap_cons_some houtput, Option.toList_some, List.singleton_append]

theorem kept_run {s : SseState δ} (hs : streamToSse options = .ok s) (inputs : List SseInput) :
    Kept reads stringify (sseOutputs (Machine.trace (sseStep reads stringify options) s inputs))
      (Machine.final (sseStep reads stringify options) s inputs) := by
  have hstart : Kept reads stringify [] s := by
    unfold streamToSse at hs
    split at hs
    · cases hs
    · cases hs
      refine ⟨0, ⟨rfl, ?_, ?_, fun _ => trivial, fun _ => ⟨rfl, rfl⟩⟩, written_nil⟩
      · intro deadline hpull
        cases hpull
      · intro deadline read hpull
        cases hpull
  have hrun := @Machine.recorded _ _ _ (sseStep reads stringify options) _
    (fun outputs step => outputs ++ step.output.toList) (Kept reads stringify)
    (fun _ i _ h => kept_sseStep i h) _ _ hstart inputs
  rwa [foldl_sseOutputs] at hrun

theorem pairwise_range {P : Nat → Nat → Prop} (n : Nat) :
    (List.range n).Pairwise P ↔ ∀ i j, i < j → j < n → P i j := by
  rw [List.pairwise_iff_getElem]
  constructor
  · intro h i j hij hj
    have := h i j (by simpa using Nat.lt_trans hij hj) (by simpa using hj) hij
    simpa using this
  · intro h i j _ hj hij
    rw [List.getElem_range, List.getElem_range]
    exact h i j hij (by simpa using hj)

/-- Nothing comes after a terminal frame exactly when no public event comes after its event. -/
theorem pairwise_frames
    (h : Written reads stringify outputs terminalFrameSent finished handled) :
    ((outputs.filterMap SseOutput.frame?).Pairwise fun older _ => older.isTerminal = false) ↔
      ∀ i j, i < j → j < handled →
        ((frameOfRead stringify (reads i)).any SseFrame.isTerminal = true) →
          frameOfRead stringify (reads j) = none := by
  have hpublic : ((outputs.filterMap SseOutput.frame?).Pairwise
        fun older _ => older.isTerminal = false) ↔
      ((outputs.filterMap SseOutput.frame?).filter (· ≠ .heartbeat)).Pairwise
        fun older _ => older.isTerminal = false := by
    rw [List.pairwise_filter]
    constructor
    · intro hall
      exact hall.imp fun hold _ _ => hold
    · intro hall
      refine (h.ordered.and hall).imp fun {older newer} ⟨hheartbeat, hold⟩ => ?_
      by_contra hterminal
      rw [Bool.not_eq_false] at hterminal
      have hnewer := hheartbeat hterminal
      have holder : older ≠ .heartbeat := by
        rintro rfl
        cases hterminal
      rw [hold (decide_eq_true holder) (decide_eq_true hnewer)] at hterminal
      cases hterminal
  rw [hpublic, h.faithful, List.pairwise_filterMap, pairwise_range]
  refine forall₂_congr fun i j => forall₂_congr fun _ _ => ?_
  cases frameOfRead stringify (reads i) with
  | none => simp
  | some older =>
    cases frameOfRead stringify (reads j) with
    | none => simp
    | some newer => simp

theorem writeEvent_frame (hframe : frameOfRead stringify (.event event) = some frame) :
    (writeEvent stringify deadline now s event).1 = some (.frame frame) := by
  cases event with
  | chunk data terminal =>
    rw [frameOfRead, Option.map_eq_some_iff] at hframe
    obtain ⟨json, hjson, rfl⟩ := hframe
    cases hdata : stringify data with
    | ok json' =>
      rw [hdata] at hjson
      cases hjson
      rw [writeEvent, hdata]
    | error error =>
      rw [hdata] at hjson
      cases hjson
  | usage usage => cases hframe
  | error code message retryable diagnostic failure =>
    cases hframe
    rfl
  | done usage serviceTier evidence =>
    cases hframe
    rfl

/-- A pull that waits gets the next event, whatever happened before. -/
theorem outputs_of_racing (h : Awaits reads s handled) (hpull : s.pull = .racing deadline)
    (hfinished : s.finished = false) (hframe : frameOfRead stringify (reads handled) = some frame)
    (now : Int) :
    sseOutputs (Machine.trace (sseStep reads stringify options) s
      [.answer, .deliver, .resume now]) = [.frame frame] := by
  have hsettled : ∃ position, (sseStep reads stringify options .answer s) =
      (none, { s with pendingNext := .settled (reads handled), position := position }) := by
    have hpending := h.pending
    cases hnext : s.pendingNext with
    | absent => exact absurd hnext (h.racing deadline hpull)
    | waiting =>
      rw [hnext] at hpending
      have hposition : s.position = handled := hpending
      refine ⟨s.position + 1, ?_⟩
      simp only [sseStep, hnext, hposition]
    | settled read =>
      rw [hnext] at hpending
      have hread : reads handled = read := hpending.2
      refine ⟨s.position, ?_⟩
      simp only [sseStep, hnext, hread]
      rw [← hnext]
  obtain ⟨position, hanswer⟩ := hsettled
  obtain ⟨event, hevent⟩ : ∃ event, reads handled = .event event := by
    cases hread : reads handled with
    | event event => exact ⟨event, rfl⟩
    | finished =>
      rw [hread] at hframe
      cases hframe
    | thrown error =>
      rw [hread] at hframe
      cases hframe
  rw [hevent] at hframe
  have hwritten : ∀ s : SseState δ, (writeEvent stringify deadline now s event).1 =
      some (.frame frame) := fun s => writeEvent_frame hframe
  simp only [Machine.trace, Machine.stepOf, hanswer, sseOutputs, hevent]
  simp [sseStep, hpull, resumePull, hfinished, hwritten]

/-- **The SSE output is faithful**: so many reads of the provider stream are handled. -/
theorem streamToSse_faithful (reads : Nat → StreamRead δ)
    (stringify : δ → Except StreamThrown String) (options : StreamToSseOptions) {s : SseState δ}
    (hs : streamToSse options = .ok s) (inputs : List SseInput) :
    let outputs := sseOutputs (Machine.trace (sseStep reads stringify options) s inputs)
    let frames := outputs.filterMap SseOutput.frame?
    let last := Machine.final (sseStep reads stringify options) s inputs
    ∃ handled, (last.position = handled ∨ last.position = handled + 1) ∧
      frames.filter (· ≠ .heartbeat) =
        ((List.range handled).filterMap fun i => frameOfRead stringify (reads i)) ∧
      (∀ i < handled,
        Shown stringify (reads i) ∨ i + 1 = handled ∧ last.finished = true) ∧
      (.closed ∈ outputs → ∃ i, i + 1 = handled ∧ reads i = .finished) ∧
      (∀ deadline frame now, last.pull = .racing deadline → last.finished = false →
        frameOfRead stringify (reads handled) = some frame →
        sseOutputs (Machine.trace (sseStep reads stringify options) last
          [.answer, .deliver, .resume now]) = [.frame frame]) ∧
      (frames.Pairwise fun older newer => older.isTerminal = true → newer ≠ .heartbeat) ∧
      ((frames.Pairwise fun older _ => older.isTerminal = false) ↔
        ∀ i j, i < j → j < handled →
          ((frameOfRead stringify (reads i)).any SseFrame.isTerminal = true) →
            frameOfRead stringify (reads j) = none) := by
  obtain ⟨handled, h, hw⟩ := @kept_run _ reads stringify options _ hs inputs
  refine ⟨handled, ?_, hw.faithful, hw.shown, fun hclosed => (hw.ended hclosed).2,
    fun deadline frame now hpull hfinished hframe =>
      outputs_of_racing h hpull hfinished hframe now, hw.ordered, pairwise_frames hw⟩
  have hpending := h.pending
  unfold PendingNext.Fits at hpending
  split at hpending
  · exact .inr hpending.1
  · exact .inl hpending
  · exact .inl hpending

end Written

/-! ### Two runs -/

/-- A pull whose event arrives in time. -/
def served : List SseInput := [.pull 0 0, .answer, .deliver, .resume 0]

theorem servedStream_faithful :
    ((sseOutputs (Machine.trace
      (sseStep servedStream.reads (fun _ => .ok "null") { heartbeatIntervalMs := some 15000 })
      { initialHeartbeatPending := false } (served ++ [.pull 1 1, .timer, .resume 15001] ++
        served))).filterMap SseOutput.frame?).Pairwise
      fun older newer => older.isTerminal = true → newer ≠ .heartbeat := by
  obtain ⟨_, _, _, _, _, _, hordered, _⟩ := streamToSse_faithful servedStream.reads
    (fun _ => .ok "null") { heartbeatIntervalMs := some 15000 } rfl
    (served ++ [.pull 1 1, .timer, .resume 15001] ++ served)
  exact hordered

/-- The stream yields its done event behind the error. -/
theorem failedStream_two_terminal_frames : ¬∀ (reads : Nat → StreamRead Unit)
    (options : StreamToSseOptions) (s : SseState Unit), streamToSse options = .ok s →
    ∀ inputs, ((sseOutputs (Machine.trace (sseStep reads (fun _ => .ok "null") options) s
      inputs)).filterMap SseOutput.frame?).Pairwise fun older _ => older.isTerminal = false := by
  intro h
  have hframes := h failedStream.reads {} { initialHeartbeatPending := false } rfl
    (served ++ served)
  revert hframes
  decide

end Frely.Gateway
