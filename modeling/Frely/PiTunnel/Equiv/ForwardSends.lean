import Frely.PiTunnel.ForwardSends
import Mathlib.Data.List.Basic

/-!
# What a forward queue delivers

`InOrder` is the invariant: while the target is open, the frames accepted so far are those sent
followed by those queued.  Every event keeps it (`inOrder_forwardStep`), a drain provided that none
of its sends throws: the frame of such a send has left the queue already.  The bounds of
acceptance, and the silence after the target has closed, need no condition.
-/

namespace Frely.PiTunnel

open ForwardState

variable {limits : ForwardLimits}

/-- What was sent is the first part of what was accepted; the rest is queued, while the target is
open. -/
structure InOrder (state : ForwardState) : Prop where
  sent : state.sent <+: state.accepted
  queued : state.target.isOpen = true → state.accepted = state.sent ++ state.queue.queue

/-- None of the sends of a drain throws. -/
def ForwardEvent.DrainsWithoutThrow : ForwardEvent → Prop
  | .timeout answers => ∀ answer ∈ answers, answer.throws = false
  | _ => True

/-! ### The queue -/

variable {frame : Frame}

theorem queue_shift {queue : OpaqueForwardQueue} {frames : List Frame}
    (h : queue.queue = frame :: frames) : queue.shift.queue = frames := by
  unfold OpaqueForwardQueue.shift
  split
  · next hnil =>
    rw [hnil] at h
    cases h
  · next frame' frames' hcons =>
    rw [hcons] at h
    exact (List.cons.inj h).2

theorem drainTimer_scheduleDrain {queue : OpaqueForwardQueue}
    (h : queue.scheduleDrain.queue ≠ []) : queue.scheduleDrain.drainTimer = true := by
  have hne : queue.queue.isEmpty = false := by
    rw [Bool.eq_false_iff, ne_eq, List.isEmpty_iff]
    exact h
  simp [OpaqueForwardQueue.scheduleDrain, hne]

theorem queue_send (state : ForwardState) (answer : SendAnswer) (frame : Frame) :
    (state.send answer frame).2.queue.queue = state.queue.queue := by
  unfold ForwardState.send
  dsimp only
  split_ifs <;> rfl

/-! ### Order -/

variable {state : ForwardState} {answers : List SendAnswer} {event : ForwardEvent}

theorem inOrder_start (socket : Socket) (target : ForwardTarget) : InOrder (start socket target) :=
  ⟨List.nil_prefix, fun _ => rfl⟩

/-- A frame that is taken from the queue and sent, or not sent since the target has closed. -/
theorem inOrder_send {answer : SendAnswer} (hsent : state.sent <+: state.accepted)
    (hqueued : state.target.isOpen = true → state.accepted = state.sent ++ frame ::
      state.queue.queue)
    (hthrows : answer.throws = false) : InOrder (state.send answer frame).2 := by
  unfold ForwardState.send
  rw [hthrows]
  cases hopen : state.target.isOpen with
  | false => exact ⟨hsent, fun h => absurd (hopen.symm.trans h) (by decide)⟩
  | true =>
    have haccepted := hqueued hopen
    have hqueue : (if answer.callsBack then state.queue.scheduleDrain else state.queue).queue =
        state.queue.queue := by
      split_ifs <;> rfl
    simp only [Bool.not_true, Bool.false_eq_true, if_false]
    constructor
    · rw [haccepted]
      exact ⟨state.queue.queue, by simp⟩
    · intro _
      rw [haccepted, hqueue]
      simp

theorem inOrder_sendQueued {answers : List SendAnswer} {state : ForwardState} {frames : List Frame}
    (hthrows : ∀ answer ∈ answers, answer.throws = false) (hframes : state.queue.queue = frames)
    (h : InOrder state) : InOrder (sendQueued limits frames answers state) := by
  induction frames generalizing answers state with
  | nil => exact h
  | cons frame frames ih =>
    rw [sendQueued]
    split_ifs with hhigh
    · exact h
    · have hshift := queue_shift hframes
      have hanswer : (answers.headD (defaultAnswer state.target)).throws = false := by
        cases answers with
        | nil => rfl
        | cons answer answers => exact hthrows answer List.mem_cons_self
      have hqueued : state.target.isOpen = true →
          state.accepted = state.sent ++ frame :: state.queue.shift.queue := by
        intro hopen
        rw [hshift, ← hframes]
        exact h.queued hopen
      have hnext : InOrder (ForwardState.send (answers.headD (defaultAnswer state.target)) frame
          { state with queue := state.queue.shift }).2 := inOrder_send h.sent hqueued hanswer
      dsimp only
      split_ifs
      · refine ih (fun answer hmem => hthrows answer (List.mem_of_mem_tail hmem)) ?_ hnext
        rw [queue_send]
        exact hshift
      · exact hnext

theorem inOrder_timeout (hthrows : ∀ answer ∈ answers, answer.throws = false) (h : InOrder state) :
    InOrder (state.timeout limits answers) := by
  unfold ForwardState.timeout ForwardState.drain
  split_ifs with htimer hclosed
  · refine ⟨h.sent, fun hopen => ?_⟩
    rw [Bool.not_eq_true'] at hclosed
    exact absurd (hclosed.symm.trans hopen) (by decide)
  · have hdisarmed : InOrder { state with queue := { state.queue with drainTimer := false } } :=
      ⟨h.sent, h.queued⟩
    have hdrained := @inOrder_sendQueued limits _ _ _ hthrows rfl hdisarmed
    exact ⟨hdrained.sent, hdrained.queued⟩
  · exact h

/-- A frame that is sent at once. -/
theorem inOrder_sendNow {answer : SendAnswer} {frame : Frame} {state : ForwardState}
    (hopen : state.target.isOpen = true) (hempty : state.queue.queue = []) (h : InOrder state) :
    if (state.send answer frame).1 then InOrder ((state.send answer frame).2.accept frame)
    else InOrder (state.send answer frame).2 := by
  have haccepted : state.accepted = state.sent := by
    rw [h.queued hopen, hempty, List.append_nil]
  cases hthrows : answer.throws with
  | true =>
    simp only [ForwardState.send, hopen, hthrows, Bool.not_true, Bool.false_eq_true, if_false,
      if_true]
    exact ⟨h.sent, fun _ => h.queued hopen⟩
  | false =>
    have hqueue : (state.send answer frame).2.queue.queue = [] := by rw [queue_send, hempty]
    simp only [ForwardState.send, hopen, hthrows, Bool.not_true, Bool.false_eq_true, if_false,
      if_true] at hqueue ⊢
    constructor
    · dsimp only [ForwardState.accept]
      exact haccepted ▸ List.prefix_refl _
    · intro _
      dsimp only [ForwardState.accept]
      rw [hqueue, haccepted, List.append_nil]

theorem inOrder_forward {answer : SendAnswer} (h : InOrder state) :
    InOrder (state.forward limits answer frame).2 := by
  unfold ForwardState.forward
  dsimp only
  split_ifs with hclosed hfull hwait hsent
  · exact h
  · exact h
  · rw [Bool.not_eq_true', Bool.not_eq_false] at hclosed
    refine ⟨h.sent.trans (List.prefix_append _ _), fun _ => ?_⟩
    change state.accepted ++ [frame] = state.sent ++ (state.queue.queue ++ [frame])
    rw [h.queued hclosed, List.append_assoc]
  all_goals
    rw [Bool.not_eq_true', Bool.not_eq_false] at hclosed
    have hempty : state.queue.queue = [] := not_not.mp fun hne => hwait (.inl hne)
    have hnow := @inOrder_sendNow answer frame state hclosed hempty h
  · rwa [if_pos hsent] at hnow
  · rwa [if_neg hsent] at hnow

/-- **Every event keeps the order**, a drain when none of its sends throws. -/
theorem inOrder_forwardStep (hevent : event.DrainsWithoutThrow) (h : InOrder state) :
    InOrder (forwardStep limits event state).2 := by
  cases event with
  | forward frame answer => exact inOrder_forward h
  | timeout answers => exact inOrder_timeout hevent h
  | callback => exact ⟨h.sent, h.queued⟩
  | buffered bufferedAmount => exact ⟨h.sent, h.queued⟩
  | close => exact ⟨h.sent, nofun⟩

/-! ### Acceptance -/

/-- A frame is accepted within the limits, and nothing else is. -/
theorem forward_accepted {answer : SendAnswer} {frame : Frame} {state : ForwardState} :
    match (state.forward limits answer frame).1 with
    | .accepted => state.queue.queue.length < limits.maxQueuedFrames ∧
        state.target.bufferedAmount + state.queue.queuedAccountedBytes +
          accountedFrameBytes frame ≤ limits.absoluteBytes ∧
        (state.forward limits answer frame).2.accepted = state.accepted ++ [frame]
    | _ => (state.forward limits answer frame).2.accepted = state.accepted := by
  have hsend : (state.send answer frame).2.accepted = state.accepted := by
    unfold ForwardState.send
    dsimp only
    split_ifs <;> rfl
  unfold ForwardState.forward
  dsimp only
  split_ifs with hclosed hfull hwait hsent
  · rfl
  · rfl
  · rw [not_or, Nat.not_le, Nat.not_lt] at hfull
    exact ⟨hfull.1, hfull.2, rfl⟩
  · rw [not_or, Nat.not_le, Nat.not_lt] at hfull
    exact ⟨hfull.1, hfull.2, congrArg (· ++ [frame]) hsend⟩
  · exact hsend

/-! ### After the target has closed -/

/-- The queue is empty and no timer will fire. -/
def IsQuiet (state : ForwardState) : Prop :=
  state.target.isOpen = false ∧ state.queue.queue = [] ∧ state.queue.drainTimer = false

/-- A closed target is sent nothing. -/
theorem closed_forwardStep (hclosed : state.target.isOpen = false) :
    (forwardStep limits event state).2.target.isOpen = false ∧
      (forwardStep limits event state).2.sent = state.sent := by
  cases event with
  | forward frame answer => simp [forwardStep, ForwardState.forward, hclosed]
  | timeout answers =>
    cases htimer : state.queue.drainTimer with
    | true => simp [forwardStep, ForwardState.timeout, ForwardState.drain, hclosed, htimer]
    | false => simp [forwardStep, ForwardState.timeout, hclosed, htimer]
  | callback => exact ⟨hclosed, rfl⟩
  | buffered bufferedAmount => exact ⟨hclosed, rfl⟩
  | close => exact ⟨rfl, rfl⟩

theorem quiet_forwardStep (h : IsQuiet state) : IsQuiet (forwardStep limits event state).2 := by
  obtain ⟨hclosed, hempty, htimer⟩ := h
  refine ⟨(closed_forwardStep hclosed).1, ?_⟩
  cases event with
  | forward frame answer => simp [forwardStep, ForwardState.forward, hclosed, hempty, htimer]
  | timeout answers => simp [forwardStep, ForwardState.timeout, hempty, htimer]
  | callback => simp [forwardStep, OpaqueForwardQueue.scheduleDrain, hempty, htimer]
  | buffered bufferedAmount => exact ⟨hempty, htimer⟩
  | close => exact ⟨hempty, htimer⟩

/-- A queue that is not empty waits for its timer. -/
def IsArmed (state : ForwardState) : Prop :=
  state.queue.queue ≠ [] → state.queue.drainTimer = true

theorem armed_forwardStep (h : IsArmed state) : IsArmed (forwardStep limits event state).2 := by
  cases event with
  | forward frame answer =>
    simp only [forwardStep, ForwardState.forward]
    split_ifs with hclosed hfull hwait hsent
    · exact h
    · exact h
    · exact drainTimer_scheduleDrain
    all_goals
      have hempty : state.queue.queue = [] := not_not.mp fun hne => hwait (.inl hne)
      intro hne
      exact absurd ((queue_send state answer frame).trans hempty) hne
  | timeout answers =>
    simp only [forwardStep, ForwardState.timeout, ForwardState.drain]
    split_ifs
    · exact fun hne => absurd rfl hne
    · exact drainTimer_scheduleDrain
    · exact h
  | callback => exact drainTimer_scheduleDrain
  | buffered bufferedAmount => exact h
  | close => exact h

/-- A timer that fires for a closed target is the last one. -/
theorem quiet_timeout (harmed : IsArmed state) (hclosed : state.target.isOpen = false) :
    IsQuiet (forwardStep limits (.timeout answers) state).2 := by
  refine ⟨(closed_forwardStep hclosed).1, ?_⟩
  cases htimer : state.queue.drainTimer with
  | true =>
    simp [forwardStep, ForwardState.timeout, ForwardState.drain, hclosed, htimer,
      OpaqueForwardQueue.clear, OpaqueForwardQueue.new]
  | false =>
    have hempty : state.queue.queue = [] := by
      by_contra hne
      exact absurd ((harmed hne).symm.trans htimer) (by decide)
    simp [forwardStep, ForwardState.timeout, hempty, htimer]

/-! ### Runs -/

section Runs

variable {start : ForwardState} {events later : List ForwardEvent}

/-- What a forward queue promises of a run. -/
structure DeliversInOrder (limits : ForwardLimits) (start : ForwardState)
    (events : List ForwardEvent) : Prop where
  inOrder : (forwardRun limits start events).sent <+: (forwardRun limits start events).accepted
  accounted : (forwardRun limits start events).queue.queuedAccountedBytes =
    ((forwardRun limits start events).queue.queue.map fun frame => frame.length + 64).sum
  bounded : ∀ t ∈ Machine.trace (forwardStep limits) start events,
    (∃ frame answer, t.input = .forward frame answer ∧ t.output = some .accepted ∧
      t.before.queue.queue.length < limits.maxQueuedFrames ∧
      t.before.target.bufferedAmount + t.before.queue.queuedAccountedBytes +
        (frame.length + 64) ≤ limits.absoluteBytes ∧
      t.after.accepted = t.before.accepted ++ [frame]) ∨
    t.output ≠ some .accepted ∧ t.after.accepted = t.before.accepted
  silent : (forwardRun limits start events).target.isOpen = false → ∀ later,
    (forwardRun limits start (events ++ later)).sent = (forwardRun limits start events).sent
  disarmed : (forwardRun limits start events).target.isOpen = false → ∀ answers later,
    (forwardRun limits start (events ++ .timeout answers :: later)).queue.drainTimer = false

theorem accepted_sendQueued {frames : List Frame} :
    (sendQueued limits frames answers state).accepted = state.accepted := by
  induction frames generalizing answers state with
  | nil => rfl
  | cons frame frames ih =>
    have hsend : ∀ answer, (ForwardState.send answer frame
        { state with queue := state.queue.shift }).2.accepted = state.accepted := by
      intro answer
      unfold ForwardState.send
      dsimp only
      split_ifs <;> rfl
    rw [sendQueued]
    dsimp only
    split_ifs
    · rfl
    · rw [ih]
      exact hsend _
    · exact hsend _

theorem accepted_timeout : (state.timeout limits answers).accepted = state.accepted := by
  unfold ForwardState.timeout ForwardState.drain
  dsimp only
  split_ifs
  · rfl
  · exact accepted_sendQueued
  · rfl

theorem bounded_forwardStep (event : ForwardEvent) (state : ForwardState) :
    (∃ frame answer, event = .forward frame answer ∧
      (forwardStep limits event state).1 = some .accepted ∧
      state.queue.queue.length < limits.maxQueuedFrames ∧
      state.target.bufferedAmount + state.queue.queuedAccountedBytes + (frame.length + 64) ≤
        limits.absoluteBytes ∧
      (forwardStep limits event state).2.accepted = state.accepted ++ [frame]) ∨
    (forwardStep limits event state).1 ≠ some .accepted ∧
      (forwardStep limits event state).2.accepted = state.accepted := by
  cases event with
  | forward frame answer =>
    have haccepted := @forward_accepted limits answer frame state
    cases hresult : (state.forward limits answer frame).1 with
    | accepted =>
      rw [hresult] at haccepted
      obtain ⟨hcount, hbytes, hframes⟩ := haccepted
      exact .inl ⟨frame, answer, rfl, congrArg some hresult, hcount, hbytes, hframes⟩
    | overflow =>
      rw [hresult] at haccepted
      exact .inr ⟨by simp [forwardStep, hresult], haccepted⟩
    | refused =>
      rw [hresult] at haccepted
      exact .inr ⟨by simp [forwardStep, hresult], haccepted⟩
  | timeout answers => exact .inr ⟨nofun, accepted_timeout⟩
  | callback => exact .inr ⟨nofun, rfl⟩
  | buffered bufferedAmount => exact .inr ⟨nofun, rfl⟩
  | close => exact .inr ⟨nofun, rfl⟩

theorem silent_forwardRun (hclosed : start.target.isOpen = false) :
    (forwardRun limits start later).sent = start.sent := by
  have hrun := @Machine.invariant_final _ _ _ (forwardStep limits)
    (fun state => state.target.isOpen = false ∧ state.sent = start.sent)
    (fun event state h => ⟨(closed_forwardStep h.1).1, (closed_forwardStep h.1).2.trans h.2⟩)
    start ⟨hclosed, rfl⟩ later
  exact hrun.2

theorem disarmed_forwardRun (harmed : IsArmed start) (hclosed : start.target.isOpen = false) :
    (forwardRun limits start (.timeout answers :: later)).queue.drainTimer = false := by
  have hquiet : IsQuiet (forwardStep limits (.timeout answers) start).2 :=
    quiet_timeout harmed hclosed
  have hrun := @Machine.invariant_final _ _ _ (forwardStep limits) IsQuiet
    (fun _ _ h => quiet_forwardStep h) _ hquiet later
  exact hrun.2.2

theorem forwardRun_append : forwardRun limits start (events ++ later) =
    forwardRun limits (forwardRun limits start events) later :=
  Machine.final_append ..

/-- **The queue delivers a gap-free first part of what it accepted**, in every run in which no
send of a drain throws. -/
theorem deliversInOrder_of_drainsWithoutThrow (limits : ForwardLimits) (socket : Socket)
    (target : ForwardTarget) (events : List ForwardEvent)
    (hevents : ∀ event ∈ events, event.DrainsWithoutThrow) :
    DeliversInOrder limits (.start socket target) events where
  inOrder := by
    have hrun : ∀ {state}, InOrder state → InOrder (forwardRun limits state events) := by
      intro state h
      induction events generalizing state with
      | nil => exact h
      | cons event events ih =>
        exact ih (fun other hother => hevents other (List.mem_cons_of_mem _ hother))
          (inOrder_forwardStep (hevents event List.mem_cons_self) h)
    exact (hrun (inOrder_start socket target)).sent
  accounted := (forwardRun limits _ events).queue.accounted
  bounded t ht := by
    rw [Machine.eq_stepOf_of_mem ht]
    exact bounded_forwardStep t.input t.before
  silent hclosed later := by
    rw [forwardRun_append]
    exact silent_forwardRun hclosed
  disarmed hclosed answers later := by
    have harmed : IsArmed (forwardRun limits (.start socket target) events) :=
      Machine.invariant_final (fun _ _ h => armed_forwardStep h) (fun hne => absurd rfl hne) events
    rw [forwardRun_append]
    exact disarmed_forwardRun harmed hclosed

end Runs

/-! ### A send that throws -/

/-- The target buffers much, two frames are queued, the target has room again; the send of the
first frame throws and the one of the second, at the next drain, does not. -/
def throwingRun : List ForwardEvent :=
  let answer : SendAnswer := ⟨false, false, ⟨true, 0⟩⟩
  [.forward [1] answer, .forward [2] answer, .buffered 0, .timeout [{ answer with throws := true }],
    .timeout [answer]]

def throwingLimits : ForwardLimits := ⟨64, 400, 16⟩

theorem throwingRun_skips_a_frame :
    ¬DeliversInOrder throwingLimits (.start 0 ⟨true, 100⟩) throwingRun := by
  intro h
  have hsent : (forwardRun throwingLimits (.start 0 ⟨true, 100⟩) throwingRun).sent = [[2]] := rfl
  have haccepted :
      (forwardRun throwingLimits (.start 0 ⟨true, 100⟩) throwingRun).accepted = [[1], [2]] := rfl
  have hinOrder := h.inOrder
  rw [hsent, haccepted] at hinOrder
  exact absurd hinOrder (by decide)

/-- The same run without the exception. -/
theorem deliversInOrder_of_drainsWithoutThrow_sample :
    DeliversInOrder throwingLimits (.start 0 ⟨true, 100⟩) [.forward [1] ⟨false, false, ⟨true, 0⟩⟩,
      .buffered 0, .timeout [⟨false, true, ⟨true, 8⟩⟩]] :=
  deliversInOrder_of_drainsWithoutThrow throwingLimits 0 ⟨true, 100⟩ _ (by
    intro event hevent
    simp only [List.mem_cons, List.not_mem_nil, or_false] at hevent
    rcases hevent with rfl | rfl | rfl
    · trivial
    · trivial
    · intro answer hanswer
      rw [List.mem_singleton.mp hanswer])

end Frely.PiTunnel
