import Frely.Gateway.StreamBilling
import Frely.RequestExecution.Equiv.Server

/-!
# Closing a billed stream

The calls that settle the provider attempt are those of a completion or of a failure settlement,
`SettledOnce`; those that end the capture of the request are `captureCalls`.  `ClosesOnce` says that
a stream delivered a first part of its events, was settled by one settlement that ran to its end,
and was captured once.

The generator is in one of four stages: `Open`, before any settlement; `Interrupted`, when the
callback of a completion may have thrown; `Pending`, settled and to be captured later; and `Closed`.
The loop keeps `Open` or `Pending`, whatever is thrown leaves one of the last three, and the
`finally` block leads from each of them to `Closed`.  A generator that was never read stays open.
-/

namespace Frely.Gateway

open Frely.RequestExecution Frely.Application Frely.Billing Effects

/-! ### Failures -/

variable {failure : ProviderAttemptFailure}

/-- A failure whose parts say the same. -/
def ProviderAttemptFailure.Consistent (failure : ProviderAttemptFailure) : Prop :=
  (∀ usage, failure.trustedUsage = some usage → isTrustedProviderUsage usage) ∧
    (failure.finalUsageEvidence = .final ↔ failure.trustedUsage.isSome) ∧
    (failure.costExposure = .notStarted → failure.finalUsageEvidence = .absent) ∧
    (failure.costExposure = .stopped → failure.finalUsageEvidence ≠ .absent)

theorem unresolvedProviderFailure_consistent (failureClass : ProviderFailureClass) :
    (unresolvedProviderFailure failureClass).Consistent := by
  unfold unresolvedProviderFailure ProviderAttemptFailure.Consistent
  simp

theorem parseProviderAttemptFailure_consistent {raw : Option ProviderAttemptFailure}
    (h : parseProviderAttemptFailure raw = some failure) : failure.Consistent := by
  cases raw with
  | none => cases h
  | some raw =>
    unfold parseProviderAttemptFailure at h
    dsimp only at h
    split at h
    · obtain rfl := Option.some.inj h
      exact unresolvedProviderFailure_consistent _
    · rename_i hparts
      obtain rfl := Option.some.inj h
      simp only [not_or, not_and, Classical.not_not] at hparts
      obtain ⟨husage, hfinal, hnotStarted, hstopped⟩ := hparts
      refine ⟨?_, ?_, ?_, hstopped⟩
      · intro usage hsome
        simpa [hsome] using husage
      · simpa using hfinal
      · intro hcost
        exact (hnotStarted hcost).1

/-! ### Settlements and captures -/

section Calls

variable {δ : Type}

/-- A call and what it threw. -/
abbrev Called (δ : Type) := Call δ × Option Thrown

/-- Every call but those to the capture. -/
def Call.settles : Call δ → Bool
  | .captureStreamEvent _ | .captureStreamDone _ => false
  | _ => true

/-- The call that ends the capture. -/
def Call.finishesCapture : Call δ → Bool
  | .captureStreamDone _ => true
  | _ => false

/-- The calls that have settled. -/
def StreamBilling.settlementCalls (s : StreamBilling δ) : List (Called δ) :=
  s.calls.filter (·.1.settles)

/-- The calls that have ended the capture. -/
def StreamBilling.captureCalls (s : StreamBilling δ) : List (Called δ) :=
  s.calls.filter (·.1.finishesCapture)

/-- What a failure settlement does about the usage: it commits usage that the gateway bills itself,
and if that succeeds, it finalizes the failure. -/
inductive UsageCalls (code : String) (failure : ProviderAttemptFailure) : List (Called δ) → Prop
  | finalized {outputCommitted thrown} : UsageCalls code failure
      [(.finalizeFailure failure
        (if code = "cliproxy_request_aborted" then .aborted else .failed) outputCommitted code,
          thrown)]
  | committed {usage outputCommitted thrown} : finalUsage failure = some usage →
      UsageCalls code failure [(.commitBilling usage, none),
        (.finalizeFailure failure
          (if code = "cliproxy_request_aborted" then .aborted else .failed) outputCommitted code,
            thrown)]
  | uncommitted {usage thrown} : finalUsage failure = some usage →
      UsageCalls code failure [(.commitBilling usage, some thrown)]

/-- The calls of a failure settlement, which runs to its end whatever they throw. -/
inductive FailureCalls : List (Called δ) → Prop
  | intro {code failure diagnostic usage closed failed} : failure.Consistent →
      UsageCalls code failure usage →
      FailureCalls (usage ++ [(.closeRiskUnknown, closed),
        (.failRequest code diagnostic failure.failureReason, failed)])

/-- A completion that threw, if there was one. -/
inductive FailedCompletion : List (Called δ) → Prop
  | none : FailedCompletion []
  | thrown {evidence thrown} : FailedCompletion [(.completeRequest evidence, some thrown)]

/-- One completion settlement or one failure settlement ran to its end. -/
inductive SettledOnce : List (Called δ) → Prop
  | completed {evidence} : SettledOnce [(.completeRequest evidence, none)]
  | failed {completion failure} : FailedCompletion completion → FailureCalls failure →
      SettledOnce (completion ++ failure)

/-- The stream delivered its events in order up to some point, and was settled and captured once. -/
structure ClosesOnce (input : StreamBillingInput δ) (s : StreamBilling δ) : Prop where
  delivered : s.delivered <+: input.events
  settled : SettledOnce s.settlementCalls
  captured : ∃ code thrown, s.captureCalls = [(.captureStreamDone code, thrown)]

/-! ### Calls -/

variable {R : Thrown → StreamBilling δ → Prop} {Q : Unit → StreamBilling δ → Prop} {code : String}

variable {input : StreamBillingInput δ} {s : StreamBilling δ}

/-- A call is recorded, whether it returns or throws. -/
theorem wp_invoke {call : Call δ} (hreturn : Q () (s.record call none))
    (hthrow : ∀ thrown, R thrown (s.record call (some thrown))) : wp (invoke input call) Q R s := by
  unfold invoke
  simp only [wp_bind, wp_inspect, wp_change]
  cases input.outcomes s.calls.length with
  | none => exact hreturn
  | some thrown => exact hthrow thrown

theorem wp_attempt_invoke {call : Call δ} {Q : Option Thrown → StreamBilling δ → Prop}
    (h : ∀ thrown, Q thrown (s.record call thrown)) : wp (attempt (invoke input call)) Q R s :=
  wp_attempt.mpr (wp_invoke (h none) fun thrown => h (some thrown))

theorem wp_throwIf {failure : Option Thrown} (hreturn : Q () s) (hthrow : ∀ thrown, R thrown s) :
    wp (throwIf failure) Q R s := by
  cases failure with
  | none => exact hreturn
  | some thrown => exact hthrow thrown

/-- The first step of a failure settlement makes the calls about the usage. -/
theorem wp_finalizeFailedUsage {code : String} {failure : ProviderAttemptFailure}
    {Q : Option Thrown → StreamBilling δ → Prop} {R : Thrown → StreamBilling δ → Prop}
    (h : ∀ thrown usage, UsageCalls code failure usage →
      Q thrown { s with calls := s.calls ++ usage }) :
    wp (attempt (finalizeFailedUsage input code failure)) Q R s := by
  have hskipped : ∀ {x : StreamEffect δ Unit}, x = pure () →
      wp (attempt (do
        x
        let publicChunkObserved ← inspect (·.publicChunkObserved)
        invoke input (.finalizeFailure failure
          (if code = "cliproxy_request_aborted" then .aborted else .failed) publicChunkObserved
            code))) Q R s := by
    rintro x rfl
    simp only [wp_attempt, wp_bind, wp_pure, wp_inspect]
    exact wp_invoke (h _ _ .finalized) fun thrown => h _ _ .finalized
  unfold finalizeFailedUsage
  cases husage : finalUsage failure with
  | none => exact hskipped (by simp [commitFailedUsage, husage])
  | some usage =>
    by_cases hmanaged : input.providerInvocationManaged = true
    · exact hskipped (by simp [commitFailedUsage, husage, hmanaged])
    · have hcommit : commitFailedUsage input failure = invoke input (.commitBilling usage) := by
        simp [commitFailedUsage, husage, hmanaged]
      rw [hcommit]
      simp only [wp_attempt, wp_bind, wp_inspect]
      refine wp_invoke ?_ fun thrown => h _ _ (.uncommitted husage)
      have hcalls : ∀ thrown, ((s.record (.commitBilling usage) none).record
          (.finalizeFailure failure (if code =
            "cliproxy_request_aborted" then .aborted else .failed)
            s.publicChunkObserved code) thrown) =
          { s with calls := s.calls ++ [(.commitBilling usage, none), (.finalizeFailure failure
            (if code = "cliproxy_request_aborted" then .aborted else .failed)
              s.publicChunkObserved code, thrown)] } := by
        intro thrown
        simp [StreamBilling.record]
      refine wp_invoke ?_ fun thrown => ?_
      · exact (hcalls none) ▸ h _ _ (.committed husage)
      · exact (hcalls (some thrown)) ▸ h _ _ (.committed husage)

theorem UsageCalls.filter_settles {usage : List (Called δ)} (h : UsageCalls code failure usage) :
    usage.filter (·.1.settles) = usage ∧ usage.filter (·.1.finishesCapture) = [] := by
  cases h with
  | finalized => exact ⟨rfl, rfl⟩
  | committed _ => exact ⟨rfl, rfl⟩
  | uncommitted _ => exact ⟨rfl, rfl⟩

/-! ### Stages -/

/-- Not settled yet, after the given calls. -/
structure Unsettled (completion : List (Called δ)) (s : StreamBilling δ) : Prop where
  settled : s.settled = false
  captured : s.captured = false
  calls : s.settlementCalls = completion
  captures : s.captureCalls = []

/-- Settled, with the capture still to be ended. -/
structure Pending (s : StreamBilling δ) : Prop where
  settled : s.settled = true
  captured : s.captured = false
  capturePending : s.capturePending = true
  calls : SettledOnce s.settlementCalls
  captures : s.captureCalls = []

/-- Settled once, and the capture ended once. -/
structure Closed (s : StreamBilling δ) : Prop where
  settled : s.settled = true
  captured : s.captured = true
  calls : SettledOnce s.settlementCalls
  captures : ∃ code thrown, s.captureCalls = [(.captureStreamDone code, thrown)]

/-- The stages between two events. -/
inductive Reading (s : StreamBilling δ) : Prop
  | unsettled : Unsettled [] s → Reading s
  | pending : Pending s → Reading s

/-- The stages in which the generator may be left. -/
inductive Left (s : StreamBilling δ) : Prop
  | unsettled {completion} : FailedCompletion completion → Unsettled completion s → Left s
  | pending : Pending s → Left s
  | closed : Closed s → Left s

theorem Reading.left (h : Reading s) : Left s := by
  cases h with
  | unsettled h => exact .unsettled .none h
  | pending h => exact .pending h

/-! ### Settling -/

/-- What a step makes true whether it returns or throws, while nothing is delivered. -/
def Ensures (P : StreamBilling δ → Prop) (x : StreamEffect δ Unit) (s : StreamBilling δ) : Prop :=
  wp x (fun _ s' => s'.delivered = s.delivered ∧ P s')
    (fun _ s' => s'.delivered = s.delivered ∧ P s') s

/-- A capture closes a settled stream. -/
theorem captureDone_closes {errorCode : Option String} (hsettled : s.settled = true)
    (hcaptured : s.captured = false) (hcalls : SettledOnce s.settlementCalls)
    (hcaptures : s.captureCalls = []) : Ensures Closed (captureDone input errorCode) s := by
  have hclosed : ∀ thrown, Closed
      (({ s with captured := true } : StreamBilling δ).record (.captureStreamDone errorCode)
        thrown) := by
    intro thrown
    refine ⟨hsettled, rfl, ?_, errorCode, thrown, ?_⟩
    · have hsame : (({ s with captured := true } : StreamBilling δ).record
          (.captureStreamDone errorCode) thrown).settlementCalls = s.settlementCalls := by
        simp [StreamBilling.record, StreamBilling.settlementCalls, Call.settles]
      rw [hsame]
      exact hcalls
    · have hcapture : (({ s with captured := true } : StreamBilling δ).record
          (.captureStreamDone errorCode) thrown).captureCalls =
            s.captureCalls ++ [(.captureStreamDone errorCode, thrown)] := by
        simp [StreamBilling.record, StreamBilling.captureCalls, Call.finishesCapture]
      rw [hcapture, hcaptures]
      rfl
  unfold Ensures captureDone
  simp only [wp_bind, wp_inspect, hcaptured, Bool.false_eq_true, if_false, wp_change]
  exact wp_invoke ⟨rfl, hclosed none⟩ fun thrown => ⟨rfl, hclosed (some thrown)⟩

theorem capturePendingDone_closes (h : Pending s) : Ensures Closed (capturePendingDone input) s :=
  captureDone_closes h.settled h.captured h.calls h.captures

/-- A failure settlement settles, and closes the stream if it is to end the capture. -/
theorem settleFailure_settles {completion : List (Called δ)}
    (hcompletion : FailedCompletion completion)
    (h : Unsettled completion s) (code : String) (diagnostic : Option ProviderFetchDiagnostic)
    (rawFailure : Option ProviderAttemptFailure) (finalizeCapture : Bool) :
    Ensures (fun s' => if finalizeCapture then Closed s' else Pending s')
      (settleFailure input code diagnostic rawFailure finalizeCapture) s := by
  unfold Ensures settleFailure
  simp only [wp_bind, wp_inspect, h.settled, Bool.false_eq_true, if_false, wp_change]
  set failure := (parseProviderAttemptFailure rawFailure).getD
    (unresolvedProviderFailure (failureClassFromProviderError code diagnostic)) with hfailure
  have hconsistent : failure.Consistent := by
    cases hparse : parseProviderAttemptFailure rawFailure with
    | none =>
      rw [hfailure, hparse]
      exact unresolvedProviderFailure_consistent _
    | some parsed =>
      rw [hfailure, hparse]
      exact parseProviderAttemptFailure_consistent hparse
  refine wp_finalizeFailedUsage fun finalizeError usage husage => ?_
  refine wp_attempt_invoke fun closeError => wp_attempt_invoke fun failError => ?_
  -- the calls made so far are those of the whole settlement
  set s₁ : StreamBilling δ := ({ s with settled := true, calls := s.calls ++ usage }.record
    .closeRiskUnknown closeError).record (.failRequest code diagnostic failure.failureReason)
      failError with hs₁
  have hs₁calls : s₁ = { s with
      settled := true
      calls := s.calls ++ (usage ++ [(.closeRiskUnknown, closeError),
        (.failRequest code diagnostic failure.failureReason, failError)]) } := by
    rw [hs₁]
    simp [StreamBilling.record]
  obtain ⟨hsettles, hfinishes⟩ := husage.filter_settles
  have hcalls : SettledOnce s₁.settlementCalls := by
    have hsame : s₁.settlementCalls = completion ++ (usage ++ [(.closeRiskUnknown, closeError),
        (.failRequest code diagnostic failure.failureReason, failError)]) := by
      rw [← h.calls, hs₁calls]
      unfold StreamBilling.settlementCalls
      rw [List.filter_append, List.filter_append, hsettles]
      rfl
    rw [hsame]
    exact .failed hcompletion (.intro hconsistent husage)
  have hcaptures : s₁.captureCalls = [] := by
    rw [← h.captures, hs₁calls]
    unfold StreamBilling.captureCalls
    rw [List.filter_append, List.filter_append, hfinishes]
    exact List.append_nil _
  have hdelivered : s₁.delivered = s.delivered := rfl
  have hcaptured : s₁.captured = false := h.captured
  have hsettled : s₁.settled = true := rfl
  rw [wp_attempt]
  unfold captureFailure
  cases finalizeCapture with
  | true =>
    refine wp_mono (captureDone_closes hsettled hcaptured hcalls hcaptures) ?_ ?_
    · rintro _ s₂ ⟨hsame, hclosed⟩
      exact wp_throwIf ⟨hsame.trans hdelivered, hclosed⟩ fun _ => ⟨hsame.trans hdelivered, hclosed⟩
    · rintro _ s₂ ⟨hsame, hclosed⟩
      exact wp_throwIf ⟨hsame.trans hdelivered, hclosed⟩ fun _ => ⟨hsame.trans hdelivered, hclosed⟩
  | false =>
    have hpending : Pending { s₁ with capturePending := true, pendingCaptureCode := some code } :=
      ⟨hsettled, hcaptured, rfl, hcalls, hcaptures⟩
    exact wp_throwIf ⟨hdelivered, hpending⟩ fun _ => ⟨hdelivered, hpending⟩

/-- A failure settlement of a stream that may have been settled already. -/
theorem settleUnsettled_closes (h : Left s) :
    Ensures (fun s' => Pending s' ∨ Closed s') (settleUnsettled input code) s := by
  unfold Ensures settleUnsettled
  simp only [wp_bind, wp_inspect]
  cases h with
  | unsettled hcompletion h =>
    rw [h.settled, if_neg Bool.false_ne_true]
    refine wp_mono (settleFailure_settles hcompletion h code none none true) ?_ ?_
    · rintro _ s' ⟨hsame, hclosed⟩
      exact ⟨hsame, Or.inr hclosed⟩
    · rintro _ s' ⟨hsame, hclosed⟩
      exact ⟨hsame, Or.inr hclosed⟩
  | pending h =>
    rw [h.settled, if_pos rfl]
    exact ⟨rfl, Or.inl h⟩
  | closed h =>
    rw [h.settled, if_pos rfl]
    exact ⟨rfl, Or.inr h⟩

/-- The `finally` block closes the stream. -/
theorem closeStream_closes (h : Left s) : Ensures Closed (closeStream input) s := by
  unfold Ensures closeStream
  simp only [wp_bind, wp_inspect]
  cases h with
  | unsettled hcompletion h =>
    rw [h.settled, if_neg Bool.false_ne_true]
    exact settleFailure_settles hcompletion h "cliproxy_request_aborted" none none true
  | pending h =>
    rw [h.settled, if_pos rfl]
    simp only [wp_bind, wp_inspect, h.capturePending, h.captured, Bool.not_false, Bool.and_self,
      if_true]
    exact capturePendingDone_closes h
  | closed h =>
    rw [h.settled, if_pos rfl]
    simp only [wp_bind, wp_inspect, h.captured, Bool.not_true, Bool.and_false, Bool.false_eq_true,
      if_false]
    exact ⟨rfl, h⟩

/-! ### Events -/

variable {evidence : Option ProviderExecutionEvidence}

/-- A completion settles the stream, or is one that threw. -/
theorem wp_completeRequest (h : Unsettled [] s)
    (hreturn : ∀ s' : StreamBilling δ, s' = s.record (.completeRequest evidence) none →
      SettledOnce s'.settlementCalls → s'.captureCalls = [] → Q () s')
    (hthrow : ∀ thrown s', s'.delivered = s.delivered → Left s' → R thrown s') :
    wp (invoke input (.completeRequest evidence)) Q R s := by
  have hcalls : ∀ thrown, (s.record (.completeRequest evidence) thrown).settlementCalls =
      [(.completeRequest evidence, thrown)] := by
    intro thrown
    have hsame : (s.record (.completeRequest evidence) thrown).settlementCalls =
        s.settlementCalls ++ [(.completeRequest evidence, thrown)] := by
      simp [StreamBilling.record, StreamBilling.settlementCalls, Call.settles]
    rw [hsame, h.calls]
    rfl
  have hcaptures : ∀ thrown, (s.record (.completeRequest evidence) thrown).captureCalls = [] := by
    intro thrown
    rw [← h.captures]
    simp [StreamBilling.record, StreamBilling.captureCalls, Call.finishesCapture]
  refine wp_invoke ?_ fun thrown => ?_
  · refine hreturn _ rfl ?_ (hcaptures none)
    rw [hcalls]
    exact .completed
  · refine hthrow thrown _ rfl (.unsettled .thrown ⟨h.settled, h.captured, hcalls _, hcaptures _⟩)

/-- A terminal chunk settles the stream and leaves its capture pending. -/
theorem settleTerminal_reads {terminal : Option ProviderStreamTerminal} (h : Reading s) :
    wp (settleTerminal input terminal) (fun _ s' => s'.delivered = s.delivered ∧ Reading s')
      (fun _ s' => s'.delivered = s.delivered ∧ Left s') s := by
  unfold settleTerminal
  simp only [wp_bind, wp_inspect]
  cases h with
  | pending h =>
    rw [h.settled, if_pos rfl]
    exact ⟨rfl, .pending h⟩
  | unsettled h =>
    rw [h.settled, if_neg Bool.false_ne_true]
    cases terminal with
    | none => exact ⟨rfl, .unsettled h⟩
    | some terminal =>
      cases terminal with
      | succeeded evidence =>
        simp only [wp_bind]
        refine wp_completeRequest h ?_ fun thrown s' hsame hleft => ⟨hsame, hleft⟩
        rintro s' rfl hcalls hcaptures
        exact ⟨rfl, .pending ⟨rfl, h.captured, rfl, hcalls, hcaptures⟩⟩
      | failed code diagnostic failure =>
        refine wp_mono (settleFailure_settles .none h code diagnostic (some failure) false) ?_ ?_
        · rintro _ s' ⟨hsame, hpending⟩
          exact ⟨hsame, .pending hpending⟩
        · rintro _ s' ⟨hsame, hpending⟩
          exact ⟨hsame, .pending hpending⟩

theorem settleError_closes {diagnostic : Option ProviderFetchDiagnostic}
    {failure : Option ProviderAttemptFailure} (h : Reading s) :
    Ensures Closed (settleError input code diagnostic failure) s := by
  unfold Ensures settleError
  simp only [wp_bind, wp_inspect]
  cases h with
  | pending h =>
    rw [h.settled, if_pos rfl]
    simp only [wp_bind, wp_inspect, h.capturePending, if_true]
    exact capturePendingDone_closes h
  | unsettled h =>
    rw [h.settled, if_neg Bool.false_ne_true]
    exact settleFailure_settles .none h code diagnostic failure true

theorem settleDone_closes (h : Reading s) :
    wp (settleDone input evidence) (fun _ s' => s'.delivered = s.delivered ∧ Closed s')
      (fun _ s' => s'.delivered = s.delivered ∧ Left s') s := by
  unfold settleDone completeDone
  simp only [wp_bind, wp_inspect]
  have hcapture : ∀ {s' : StreamBilling δ} {errorCode : Option String},
      s'.delivered = s.delivered → s'.settled = true → s'.captured = false →
      SettledOnce s'.settlementCalls → s'.captureCalls = [] →
      wp (captureDone input errorCode) (fun _ s' => s'.delivered = s.delivered ∧ Closed s')
        (fun _ s' => s'.delivered = s.delivered ∧ Left s') s' := by
    intro s' errorCode hdelivered hsettled hcaptured hcalls hcaptures
    refine wp_mono (captureDone_closes hsettled hcaptured hcalls hcaptures) ?_ ?_
    · rintro _ s'' ⟨hsame, hclosed⟩
      exact ⟨hsame.trans hdelivered, hclosed⟩
    · rintro _ s'' ⟨hsame, hclosed⟩
      exact ⟨hsame.trans hdelivered, .closed hclosed⟩
  cases h with
  | pending h =>
    rw [h.settled, if_pos rfl]
    exact hcapture rfl h.settled h.captured h.calls h.captures
  | unsettled h =>
    rw [h.settled, if_neg Bool.false_ne_true]
    simp only [wp_bind]
    refine wp_completeRequest h ?_ fun thrown s' hsame hleft => ⟨hsame, hleft⟩
    rintro s' rfl hcalls hcaptures
    exact hcapture rfl rfl h.captured hcalls hcaptures

/-- An event that is not the last keeps the stage, the last one closes the stream. -/
theorem handleEvent_keeps {event : ProviderStreamEvent δ} (h : Reading s) :
    wp (handleEvent input event)
      (fun last s' => s'.delivered = s.delivered ∧ if last then Closed s' else Reading s')
      (fun _ s' => s'.delivered = s.delivered ∧ Left s') s := by
  have hrecorded : ∀ thrown, Reading (s.record (.captureStreamEvent (capturedEvent event))
    thrown) := by
    intro thrown
    have hcalls : (s.record (.captureStreamEvent (capturedEvent event)) thrown).settlementCalls =
        s.settlementCalls := by
      simp [StreamBilling.record, StreamBilling.settlementCalls, Call.settles]
    have hcaptures : (s.record (.captureStreamEvent (capturedEvent event)) thrown).captureCalls =
        s.captureCalls := by
      simp [StreamBilling.record, StreamBilling.captureCalls, Call.finishesCapture]
    cases h with
    | unsettled h =>
      exact .unsettled ⟨h.settled, h.captured, hcalls.trans h.calls, hcaptures.trans h.captures⟩
    | pending h =>
      exact .pending ⟨h.settled, h.captured, h.capturePending, hcalls ▸ h.calls,
        hcaptures.trans h.captures⟩
  unfold handleEvent
  rw [wp_bind]
  refine wp_invoke ?_ fun thrown => ⟨rfl, (hrecorded _).left⟩
  have hreading := hrecorded none
  cases event with
  | chunk data terminal =>
    simp only [wp_bind, wp_change, wp_pure, Bool.false_eq_true, if_false]
    exact settleTerminal_reads (by cases hreading with
      | unsettled h => exact .unsettled ⟨h.settled, h.captured, h.calls, h.captures⟩
      | pending h => exact .pending ⟨h.settled, h.captured, h.capturePending, h.calls, h.captures⟩)
  | usage usage => exact ⟨rfl, hreading⟩
  | error code message retryable diagnostic failure =>
    simp only [wp_bind, wp_pure, if_true]
    refine wp_mono (settleError_closes hreading) (fun _ _ h => h) ?_
    rintro _ s' ⟨hsame, hclosed⟩
    exact ⟨hsame, .closed hclosed⟩
  | done usage serviceTier evidence =>
    simp only [wp_bind, wp_pure, if_true]
    exact settleDone_closes hreading

/-! ### The stream -/

/-- Delivering an event changes no stage. -/
theorem Closed.deliver (h : Closed s) (event : ProviderStreamEvent δ) (readsLeft : Nat) :
    Closed { s with delivered := s.delivered ++ [event], readsLeft := readsLeft } :=
  ⟨h.settled, h.captured, h.calls, h.captures⟩

theorem Reading.deliver (h : Reading s) (event : ProviderStreamEvent δ) (readsLeft : Nat) :
    Reading { s with delivered := s.delivered ++ [event], readsLeft := readsLeft } := by
  cases h with
  | unsettled h => exact .unsettled ⟨h.settled, h.captured, h.calls, h.captures⟩
  | pending h => exact .pending ⟨h.settled, h.captured, h.capturePending, h.calls, h.captures⟩

/-- The loop delivers a first part of the events. -/
theorem forEvents_delivers (events : List (ProviderStreamEvent δ)) (h : Reading s) :
    wp (forEvents input events)
      (fun _ s' => s'.delivered <+: s.delivered ++ events ∧ Left s')
      (fun _ s' => s'.delivered <+: s.delivered ++ events ∧ Left s') s := by
  induction events generalizing s with
  | nil =>
    unfold forEvents
    have hleft : s.delivered <+: s.delivered ++ [] ∧ Left s := ⟨⟨[], rfl⟩, h.left⟩
    rw [wp_bind]
    exact wp_throwIf hleft fun _ => hleft
  | cons event rest ih =>
    unfold forEvents
    rw [wp_bind]
    refine wp_mono (handleEvent_keeps h) ?_ ?_
    · rintro last s₁ ⟨hsame, hstage⟩
      have hpart : s₁.delivered ++ [event] <+: s.delivered ++ event :: rest :=
        ⟨rest, by simp [hsame]⟩
      unfold yieldEvent
      simp only [wp_bind, wp_inspect, wp_change, wp_pure]
      split
      · have hleft : Left { s₁ with
            delivered := s₁.delivered ++ [event]
            readsLeft := s₁.readsLeft - 1 } := by
          cases last with
          | true => exact .closed (Closed.deliver hstage event _)
          | false => exact (Reading.deliver hstage event _).left
        rw [wp_bind]
        exact wp_throwIf ⟨hpart, hleft⟩ fun _ => ⟨hpart, hleft⟩
      · rename_i hgoes
        have hlast : last = false := by
          cases last with
          | true => exact absurd rfl hgoes
          | false => rfl
        subst hlast
        have hdelivered : s₁.delivered ++ [event] ++ rest = s.delivered ++ event :: rest := by
          simp [hsame]
        rw [← hdelivered]
        exact ih (Reading.deliver hstage event _)
    · rintro thrown s₁ ⟨hsame, hleft⟩
      exact ⟨hsame ▸ List.prefix_append _ _, hleft⟩

/-- However the stream ends, it is closed. -/
theorem runStream_closes (h : Reading s) :
    wp (runStream input) (fun _ s' => s'.delivered <+: s.delivered ++ input.events ∧ Closed s')
      (fun _ s' => s'.delivered <+: s.delivered ++ input.events ∧ Closed s') s := by
  have hclose : ∀ {s₁ : StreamBilling δ}, s₁.delivered <+: s.delivered ++ input.events → Left s₁ →
      wp (closeStream input) (fun _ s' => s'.delivered <+: s.delivered ++ input.events ∧ Closed s')
        (fun _ s' => s'.delivered <+: s.delivered ++ input.events ∧ Closed s') s₁ := by
    intro s₁ hpart hleft
    refine wp_mono (closeStream_closes hleft) ?_ ?_
    · rintro _ s₂ ⟨hsame, hclosed⟩
      exact ⟨hsame ▸ hpart, hclosed⟩
    · rintro _ s₂ ⟨hsame, hclosed⟩
      exact ⟨hsame ▸ hpart, hclosed⟩
  have hsettle : ∀ {s₁ : StreamBilling δ} (code : String),
      s₁.delivered <+: s.delivered ++ input.events → Left s₁ →
      wp (settleUnsettled input code)
        (fun _ s' => s'.delivered <+: s.delivered ++ input.events ∧ Left s')
        (fun _ s' => s'.delivered <+: s.delivered ++ input.events ∧ Left s') s₁ := by
    intro s₁ code hpart hleft
    refine wp_mono (settleUnsettled_closes hleft) ?_ ?_
    · rintro _ s₂ ⟨hsame, hstage⟩
      exact ⟨hsame ▸ hpart, hstage.elim .pending .closed⟩
    · rintro _ s₂ ⟨hsame, hstage⟩
      exact ⟨hsame ▸ hpart, hstage.elim .pending .closed⟩
  have hbody : wp (streamBody input)
      (fun _ s' => s'.delivered <+: s.delivered ++ input.events ∧ Left s')
      (fun _ s' => s'.delivered <+: s.delivered ++ input.events ∧ Left s') s := by
    unfold streamBody
    rw [wp_bind]
    refine wp_mono (forEvents_delivers input.events h) ?_ fun _ _ hleft => hleft
    rintro exhausted s₁ ⟨hpart, hleft⟩
    split
    · exact hsettle _ hpart hleft
    · exact ⟨hpart, hleft⟩
  unfold runStream
  rw [wp_ensure, wp_tryCatch]
  refine wp_mono hbody (fun _ s₁ hbody => hclose hbody.1 hbody.2) ?_
  rintro thrown s₁ ⟨hpart, hleft⟩
  unfold handleThrown
  rw [wp_bind]
  exact wp_mono (hsettle _ hpart hleft) (fun _ s₂ h => hclose h.1 h.2)
    fun _ s₂ h => hclose h.1 h.2

/-- **Billed streams.** A stream is settled and captured exactly once, whatever the consumer reads
of it and whatever the callbacks throw, if and only if the consumer reads at all; a generator that
is closed before its first read runs no step of its own. -/
theorem wrapStreamForBilling_closesOnce_iff (input : StreamBillingInput δ) (reads : Nat) :
    ClosesOnce input (wrapStreamForBilling input reads) ↔ 0 < reads := by
  cases reads with
  | zero =>
    refine iff_of_false ?_ (lt_irrefl 0)
    rintro ⟨-, -, code, thrown, hcaptured⟩
    cases hcaptured
  | succ reads =>
    refine iff_of_true ?_ (Nat.succ_pos reads)
    have hreading : Reading ({ readsLeft := reads } : StreamBilling δ) :=
      .unsettled ⟨rfl, rfl, rfl, rfl⟩
    obtain ⟨hdelivered, hclosed⟩ := of_wp (@runStream_closes _ input _ hreading)
    exact ⟨hdelivered, hclosed.calls, hclosed.captures⟩

/-- A stream of one chunk and its end, whose consumer leaves before the first read. -/
def unreadStream : StreamBillingInput String where
  events := [.chunk "data: [DONE]" none, .done none none none]
  failure := none
  closeFailure := none
  providerInvocationManaged := true
  outcomes _ := none

theorem unreadStream_unsettled : ¬ClosesOnce unreadStream
    (wrapStreamForBilling unreadStream 0) := by
  rintro ⟨-, -, code, thrown, hcaptured⟩
  cases hcaptured

end Calls

end Frely.Gateway
