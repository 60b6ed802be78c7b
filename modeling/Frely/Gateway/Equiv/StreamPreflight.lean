import Frely.Gateway.StreamPreflight
import Mathlib.Tactic.Common

/-!
# What a preflight replays

`preflightProviderStream_replays`: the stream of an accepted preflight answers every read as the
provider stream would have.  The stream of a rejected one gives out the events that were read, and
then an error event unless the last of them is the error itself; the provider stream is closed then,
so that nothing follows.

`Reached` carries the proof: the events in the buffer are the answers to the first reads, and the
iterator is where these reads leave it.
-/

namespace Frely.Gateway

/-! ### Reads -/

section Reads

variable {σ α : Type} {next : σ → α × σ}

theorem answers_succ (n : Nat) (s : σ) :
    answers next (n + 1) s = answers next n s ++ [(next (afterReads next n s)).1] := by
  induction n generalizing s with
  | zero => rfl
  | succ n ih =>
    rw [answers, ih]
    rfl

theorem afterReads_succ (n : Nat) (s : σ) :
    afterReads next (n + 1) s = (next (afterReads next n s)).2 := by
  induction n generalizing s with
  | zero => rfl
  | succ n ih => exact ih (next s).2

@[simp] theorem length_answers (n : Nat) (s : σ) : (answers next n s).length = n := by
  induction n generalizing s with
  | zero => rfl
  | succ n ih => rw [answers, List.length_cons, ih]

/-- One read more than is taken. -/
theorem take_append_answers_succ (l : List α) (n : Nat) (s : σ) :
    (l ++ answers next (n + 1) s).take n = (l ++ answers next n s).take n := by
  rw [answers_succ n, ← List.append_assoc, List.take_append_of_le_length (by simp)]

/-- Reading on after some reads. -/
theorem answers_eq_take (k n : Nat) (s : σ) :
    answers next n s = (answers next k s ++ answers next n (afterReads next k s)).take n := by
  induction k generalizing s n with
  | zero => rw [answers, List.nil_append, afterReads, List.take_of_length_le (by simp)]
  | succ k ih =>
    cases n with
    | zero => rfl
    | succ n =>
      rw [answers, answers, List.cons_append, List.take_succ_cons, afterReads,
        take_append_answers_succ, ← ih n]

end Reads

section Streams

variable {δ : Type} {source : ProviderSource δ} {it it' : ProviderIterator}
  {events : List (ProviderStreamEvent δ)} {event : ProviderStreamEvent δ}

theorem next_completed (h : it.completed = true) : it.next source = (.finished, it) := if_pos h

theorem completed_of_next {read : StreamRead δ} (h : it.next source = (read, it'))
    (hread : ∀ event, read ≠ .event event) : it'.completed = true := by
  unfold ProviderIterator.next at h
  split at h
  · next hcompleted =>
    cases h
    exact hcompleted
  · split at h
    · cases h
      exact absurd rfl (hread _)
    · cases h
      rfl

theorem completed_of_finished (h : it.next source = (.finished, it')) : it'.completed = true :=
  completed_of_next h fun event (hevent : StreamRead.finished = .event event) => by cases hevent

theorem completed_of_thrown {error : StreamThrown} (h : it.next source = (.thrown error, it')) :
    it'.completed = true :=
  completed_of_next h fun event (hevent : StreamRead.thrown error = .event event) => by cases hevent

theorem answers_completed (h : it.completed = true) (n : Nat) :
    answers (ProviderIterator.next source) n it = List.replicate n .finished := by
  induction n with
  | zero => rfl
  | succ n ih => rw [answers, next_completed h, ih, List.replicate_succ]

theorem answers_finished (h : it.next source = (.finished, it')) (n : Nat) :
    answers (ProviderIterator.next source) n it = List.replicate n .finished := by
  cases n with
  | zero => rfl
  | succ n =>
    rw [answers, h, answers_completed (completed_of_finished h), List.replicate_succ]

theorem completed_close : (it.close source).2.completed = true := by
  unfold ProviderIterator.close
  split
  · next h => exact h
  · rfl

/-- The events are the answers to the first reads, which leave the iterator here. -/
def Reached (source : ProviderSource δ) (events : List (ProviderStreamEvent δ))
    (it : ProviderIterator) : Prop :=
  answers (ProviderIterator.next source) events.length {} = events.map StreamRead.event ∧
    afterReads (ProviderIterator.next source) events.length {} = it ∧ it.position = events.length

theorem reached_nil : Reached source [] {} := ⟨rfl, rfl, rfl⟩

theorem position_of_next (h : it.next source = (.event event, it')) :
    it'.position = it.position + 1 := by
  unfold ProviderIterator.next at h
  split at h
  · cases h
  · split at h
    · cases h
      rfl
    · next hne =>
      obtain ⟨hread, -⟩ := Prod.mk.inj h
      exact absurd hread (hne event)

theorem Reached.snoc (h : Reached source events it) (hnext : it.next source = (.event event, it')) :
    Reached source (events ++ [event]) it' := by
  unfold Reached
  obtain ⟨hanswers, hafter, hposition⟩ := h
  rw [List.length_append, List.length_singleton, answers_succ, afterReads_succ, hanswers, hafter,
    hnext, List.map_append, position_of_next hnext, hposition]
  exact ⟨rfl, rfl, rfl⟩

/-! ### Replay -/

theorem answers_replay_completed {s : Replay δ} (h : s.completed = true) (n : Nat) :
    answers (Replay.next source) n s = List.replicate n .finished := by
  induction n with
  | zero => rfl
  | succ n ih =>
    have hnext : Replay.next source s = (.finished, s) := if_pos h
    rw [answers, hnext, ih, List.replicate_succ]

/-- A replay gives out the buffer, and then what the iterator answers. -/
theorem answers_replay (s : Replay δ) (hcompleted : s.completed = false) (n : Nat) :
    answers (Replay.next source) n s =
      (s.buffered.map StreamRead.event ++
        answers (ProviderIterator.next source) n s.iterator).take n := by
  induction n generalizing s with
  | zero => rfl
  | succ n ih =>
    obtain ⟨buffered, it, started, completed⟩ := s
    obtain rfl : completed = false := hcompleted
    cases buffered with
    | cons event rest =>
      have hnext : Replay.next source ⟨event :: rest, it, started, false⟩ =
          (.event event, ⟨rest, it, true, false⟩) := rfl
      rw [answers, hnext, ih _ rfl, List.map_cons, List.cons_append, List.take_succ_cons,
        take_append_answers_succ]
    | nil =>
      have hall : ∀ m (it : ProviderIterator),
        (answers (ProviderIterator.next source) m it).take m =
          answers (ProviderIterator.next source) m it :=
        fun m it => List.take_of_length_le (by simp)
      rw [List.map_nil, List.nil_append, hall, answers, answers]
      simp only [Replay.next, Bool.false_eq_true, if_false]
      cases hread : it.next source with
      | mk read it' =>
        cases read with
        | event event =>
          dsimp only
          rw [ih _ rfl, List.map_nil, List.nil_append, hall]
        | finished =>
          dsimp only
          rw [answers_replay_completed rfl, answers_completed (completed_of_finished hread)]
        | thrown error =>
          dsimp only
          rw [answers_replay_completed rfl, answers_completed (completed_of_thrown hread)]

theorem answers_replay_of_completed (s : Replay δ) (hcompleted : s.completed = false)
    (h : s.iterator.completed = true) (n : Nat) : answers (Replay.next source) n s =
      (s.buffered.map StreamRead.event ++ List.replicate n StreamRead.finished).take n := by
  rw [answers_replay s hcompleted, answers_completed h]

/-! ### Preflight -/

/-- How a stream is rejected: what preflight returns then. -/
inductive Rejection (source : ProviderSource δ) : PreflightResult δ → Prop where
  /-- At its first error event, which is given out. -/
  | atError {events : List (ProviderStreamEvent δ)} {code message : String} {retryable : Bool}
      {diagnostic : Option ProviderFetchDiagnostic} {failure : Option ProviderAttemptFailure}
      {it it' : ProviderIterator}
      (hreached : Reached source (events ++ [.error code message retryable diagnostic failure]) it)
      (hclose : it.close source = (none, it')) :
      Rejection source ⟨some (eventFailure code diagnostic failure),
        events ++ [.error code message retryable diagnostic failure], it'⟩
  /-- Where it throws: an error event takes the place of what is thrown. -/
  | atThrow {events : List (ProviderStreamEvent δ)} {error : StreamThrown}
      {it it' : ProviderIterator} (hreached : Reached source events it)
      (hthrown : it.next source = (.thrown error, it')) :
      Rejection source ⟨some error.failure, events ++ [thrownEvent error], it'⟩
  /-- At a further event after as many as preflight may hold: an error event takes its place. -/
  | atLimit {events : List (ProviderStreamEvent δ)} {event : ProviderStreamEvent δ}
      {it it' it'' : ProviderIterator} (hreached : Reached source events it)
      (hlength : events.length = maxPreflightEvents)
      (hnext : it.next source = (.event event, it')) (hclose : it'.close source = (none, it'')) :
      Rejection source ⟨some (unresolvedProviderFailure .nonRetryable), events ++ [limitEvent],
        it''⟩
  /-- As before, but closing the stream throws: this is what the last event reports. -/
  | atClose {events : List (ProviderStreamEvent δ)} {error : StreamThrown}
      {it it' it'' : ProviderIterator} (hreached : Reached source events it)
      (hfirst : it' = it ∨ events.length = maxPreflightEvents ∧
        ∃ event, it.next source = (.event event, it'))
      (hclose : it'.close source = (some error, it'')) :
      Rejection source ⟨some error.failure, events ++ [thrownEvent error], it''⟩

/-- What preflight returns. -/
inductive Outcome (source : ProviderSource δ) : PreflightResult δ → Prop where
  | accepted {events : List (ProviderStreamEvent δ)} {it : ProviderIterator}
      (hreached : Reached source events it) : Outcome source ⟨none, events, it⟩
  | ended {events : List (ProviderStreamEvent δ)} {it it' : ProviderIterator}
      (hreached : Reached source events it) (hfinished : it.next source = (.finished, it')) :
      Outcome source ⟨none, events, it'⟩
  | rejected {result : PreflightResult δ} (h : Rejection source result) : Outcome source result

variable {signal : Option AbortSignal} {result : PreflightResult δ}

theorem result_of_caught {error : StreamThrown}
    (h : caught signal events it error = .returned result) :
    result = ⟨some error.failure, events ++ [thrownEvent error], it⟩ := by
  unfold caught at h
  split at h
  · cases h
  · exact (Preflight.returned.inj h).symm

theorem outcome_of_preflightRead
    {onEvent : ProviderStreamEvent δ → ProviderIterator → Preflight δ}
    (hreached : Reached source events it)
    (honEvent : ∀ event it', it.next source = (.event event, it') →
      onEvent event it' = .returned result → Outcome source result)
    (h : preflightRead source signal events it onEvent = .returned result) :
    Outcome source result := by
  unfold preflightRead at h
  split at h
  · cases h
  · split at h
    · next it' hnext =>
      obtain rfl := Preflight.returned.inj h
      exact .ended hreached hnext
    · next error it' hnext =>
      rw [result_of_caught h]
      exact .rejected (.atThrow hreached hnext)
    · next event it' hnext => exact honEvent event it' hnext h

theorem outcome_of_limit (hreached : Reached source events it)
    (hlength : events.length = maxPreflightEvents) (hnext : it.next source = (.event event, it'))
    (h : rejected source signal (unresolvedProviderFailure .nonRetryable) events
      (events ++ [limitEvent]) it' = .returned result) : Outcome source result := by
  unfold rejected at h
  split at h
  · next it'' hclose =>
    obtain rfl := Preflight.returned.inj h
    exact .rejected (.atLimit hreached hlength hnext hclose)
  · next error it'' hclose =>
    rw [result_of_caught h]
    exact .rejected (.atClose hreached (.inr ⟨hlength, event, hnext⟩) hclose)

/-- What the loop returns; the induction is on the room that is left. -/
theorem outcome_of_preflightFrom {room : Nat} (hreached : Reached source events it)
    (hroom : events.length + room = maxPreflightEvents)
    (h : preflightFrom source signal room events it = .returned result) :
    Outcome source result := by
  induction room generalizing events it with
  | zero =>
    refine outcome_of_preflightRead hreached (fun event it' hnext h => ?_) h
    cases event with
    | chunk data terminal =>
      obtain rfl := Preflight.returned.inj h
      exact .accepted (hreached.snoc hnext)
    | done usage serviceTier evidence =>
      obtain rfl := Preflight.returned.inj h
      exact .accepted (hreached.snoc hnext)
    | usage usage => exact outcome_of_limit hreached hroom hnext h
    | error code message retryable diagnostic failure =>
      exact outcome_of_limit hreached hroom hnext h
  | succ room ih =>
    refine outcome_of_preflightRead hreached (fun event it' hnext h => ?_) h
    have hsnoc := hreached.snoc hnext
    cases event with
    | chunk data terminal =>
      obtain rfl := Preflight.returned.inj h
      exact .accepted hsnoc
    | done usage serviceTier evidence =>
      obtain rfl := Preflight.returned.inj h
      exact .accepted hsnoc
    | usage usage =>
      refine ih hsnoc ?_ h
      rw [List.length_append, List.length_singleton]
      omega
    | error code message retryable diagnostic failure =>
      dsimp only at h
      unfold rejected at h
      split at h
      · next it'' hclose =>
        obtain rfl := Preflight.returned.inj h
        exact .rejected (.atError hsnoc hclose)
      · next error it'' hclose =>
        rw [result_of_caught h]
        exact .rejected (.atClose hsnoc (.inl rfl) hclose)

theorem Rejection.failure (h : Rejection source result) : result.failure.isSome = true := by
  cases h <;> rfl

theorem completed_of_close {error : Option StreamThrown} (h : it.close source = (error, it')) :
    it'.completed = true := by
  have hclosed : (it.close source).2.completed = true := completed_close
  rwa [h] at hclosed

theorem Rejection.completed (h : Rejection source result) : result.iterator.completed = true := by
  cases h with
  | atError _ hclose => exact completed_of_close hclose
  | atThrow _ hthrown => exact completed_of_thrown hthrown
  | atLimit _ _ _ hclose => exact completed_of_close hclose
  | atClose _ _ hclose => exact completed_of_close hclose

/-! ### Stopping -/

theorem position_next_le : (it.next source).2.position ≤ it.position + 1 := by
  unfold ProviderIterator.next
  split
  · exact Nat.le_succ _
  · split <;> exact Nat.le_refl _

/-- Only what the consumer asks for beyond the buffer is read from the source. -/
theorem position_afterReads (n : Nat) (s : Replay δ) :
    (afterReads (Replay.next source) n s).iterator.position ≤
      s.iterator.position + (n - s.buffered.length) := by
  induction n generalizing s with
  | zero => exact Nat.le_add_right _ _
  | succ n ih =>
    rw [afterReads]
    refine (ih _).trans ?_
    obtain ⟨buffered, it, started, completed⟩ := s
    cases completed with
    | true =>
      show it.position + (n - buffered.length) ≤ it.position + (n + 1 - buffered.length)
      omega
    | false =>
      cases buffered with
      | cons event rest =>
        show it.position + (n - rest.length) ≤ it.position + (n + 1 - (rest.length + 1))
        omega
      | nil =>
        have hstep : (it.next source).2.position ≤ it.position + 1 := position_next_le
        have hnext : (Replay.next source ⟨[], it, started, false⟩).2.iterator =
            (it.next source).2 ∧ (Replay.next source ⟨[], it, started, false⟩).2.buffered = [] := by
          unfold Replay.next
          rw [if_neg Bool.false_ne_true]
          dsimp only
          split <;> next h => exact ⟨by rw [h], rfl⟩
        rw [hnext.1, hnext.2]
        show (it.next source).2.position + (n - 0) ≤ it.position + (n + 1 - 0)
        omega

/-- A replay has ended only when its source has. -/
def Replay.Ended (s : Replay δ) : Prop := s.completed = true → s.iterator.completed = true

theorem ended_next {s : Replay δ} (h : s.Ended) : (s.next source).2.Ended ∧
    ((s.next source).2.completed = true ∨ (s.next source).2.started = true) := by
  unfold Replay.next
  split
  · next hcompleted => exact ⟨h, .inl hcompleted⟩
  · next hcompleted =>
    split
    · exact ⟨fun hdone => absurd hdone hcompleted, .inr rfl⟩
    · split
      · exact ⟨fun hdone => absurd hdone hcompleted, .inr rfl⟩
      · next hne hread => exact ⟨fun _ => completed_of_next hread fun event => hne event, .inr rfl⟩

theorem ended_afterReads {s : Replay δ} (h : s.Ended) (n : Nat) :
    (afterReads (Replay.next source) n s).Ended := by
  induction n generalizing s with
  | zero => exact h
  | succ n ih => exact ih (ended_next h).1

/-- A consumer that stops after a read closes the source. -/
theorem completed_stop {s : Replay δ} (h : s.Ended) {n : Nat} (hn : 0 < n) :
    ((afterReads (Replay.next source) n s).stop source).iterator.completed = true := by
  obtain ⟨n, rfl⟩ := Nat.exists_eq_succ_of_ne_zero (Nat.ne_of_gt hn)
  rw [Nat.succ_eq_add_one, afterReads_succ]
  obtain ⟨hended, hread⟩ := @ended_next _ source _ (ended_afterReads h n)
  generalize (Replay.next source _).2 = after at hended hread ⊢
  unfold Replay.stop
  split
  · next hstopped =>
    rcases hread with hcompleted | hstarted
    · exact hended hcompleted
    · rw [hstarted] at hstopped
      exact hended (by simpa using hstopped)
  · exact completed_close

/-- **A preflight loses nothing** but what is behind the event that it rejects a stream for. -/
theorem preflightProviderStream_replays (source : ProviderSource δ) (signal : Option AbortSignal)
    {result : PreflightResult δ} (h : preflightProviderStream source signal = .returned result) :
    (result.failure = none → ∀ n,
      answers (Replay.next source) n result.replay =
        answers (ProviderIterator.next source) n {}) ∧
    (result.failure ≠ none → Rejection source result ∧ ∀ n,
      answers (Replay.next source) n result.replay =
        (result.buffered.map StreamRead.event ++ List.replicate n StreamRead.finished).take n) ∧
    ∀ n, (afterReads (Replay.next source) n result.replay).iterator.position ≤
        result.iterator.position + (n - result.buffered.length) ∧
      (0 < n → ((afterReads (Replay.next source) n result.replay).stop
        source).iterator.completed = true) := by
  have houtcome := outcome_of_preflightFrom reached_nil rfl h
  have hended : result.replay.Ended := fun hcompleted => absurd hcompleted Bool.false_ne_true
  refine ⟨?_, ?_, fun n => ⟨position_afterReads n _, completed_stop hended⟩⟩
  · intro hnone n
    have hsplit : ∀ k n, answers (ProviderIterator.next source) n {} =
        (answers (ProviderIterator.next source) k {} ++ answers (ProviderIterator.next source) n
          (afterReads (ProviderIterator.next source) k {})).take n :=
      fun k n => answers_eq_take k n _
    cases houtcome with
    | @accepted events it hreached =>
      obtain ⟨hanswers, hafter, -⟩ := hreached
      rw [answers_replay _ rfl, hsplit events.length n, hanswers, hafter]
      rfl
    | @ended events it it' hreached hfinished =>
      obtain ⟨hanswers, hafter, -⟩ := hreached
      rw [answers_replay_of_completed _ rfl (completed_of_finished hfinished),
        hsplit events.length n, hanswers, hafter, answers_finished hfinished]
      rfl
    | rejected hrejection => exact absurd hnone (Option.isSome_iff_ne_none.mp hrejection.failure)
  · intro hfailure
    cases houtcome with
    | accepted _ => exact absurd rfl hfailure
    | ended _ _ => exact absurd rfl hfailure
    | rejected hrejection =>
      exact ⟨hrejection, answers_replay_of_completed _ rfl hrejection.completed⟩

end Streams

/-! ### Two streams -/

/-- A generator that yields these events. -/
def ProviderSource.ofList {δ : Type} (events : List (ProviderStreamEvent δ)) :
    ProviderSource δ where
  reads position := (events[position]?).elim .finished .event
  cleanup := none

def sampleUsage : Billing.InvocationUsageUnits :=
  { inputTokens := 3, cachedInputTokens := 0, cacheWriteTokens := 0, outputTokens := 5,
    totalTokens := 8, source := .provider }

def servedStream : ProviderSource Unit :=
  .ofList [.usage sampleUsage, .chunk () none, .done none none none]

theorem servedStream_replays :
    answers (Replay.next servedStream) 3 (PreflightResult.replay
      ⟨none, [.usage sampleUsage, .chunk () none], { position := 2 }⟩) =
        answers (ProviderIterator.next servedStream) 3 {} :=
  (preflightProviderStream_replays servedStream none rfl).1 rfl 3

/-- The last event of this stream is behind the error that it is rejected for. -/
def failedStream : ProviderSource Unit :=
  .ofList [.error "provider_error" "Provider error" false none none, .done none none none]

theorem failedStream_cut : ¬∀ (source : ProviderSource Unit) (result : PreflightResult Unit),
    preflightProviderStream source none = .returned result → ∀ n,
      answers (Replay.next source) n result.replay =
        answers (ProviderIterator.next source) n {} := by
  intro h
  have hreplayed := h failedStream ⟨some (unresolvedProviderFailure .nonRetryable),
    [.error "provider_error" "Provider error" false none none], ⟨1, true⟩⟩ (by rfl) 2
  revert hreplayed
  decide

end Frely.Gateway
