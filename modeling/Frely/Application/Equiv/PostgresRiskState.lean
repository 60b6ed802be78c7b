import Frely.Application.PostgresRiskState
import Frely.Core.Equiv.RiskReservation

/-!
# The limits of the risk state in PostgreSQL

The store forgets the starts when the window of the budget changes, so that it bounds the starts of
every sliding window among those of one budget window.
-/

namespace Frely.Application

open Checked SlidingWindow PostgresShadowRiskStateStore

variable {profile : PostgresShadowRiskProfile} {state next : PostgresRiskState}
  {answer : RiskAnswer} {nowMs : Int}

/-- The starts of the budget window that the row is in. -/
def PostgresShadowRiskProfile.startsIn (profile : PostgresShadowRiskProfile) (window : Int)
    (starts : List Int) : List Int :=
  starts.filter fun startedAt => windowStart startedAt profile.riskBudgetWindowMs = window

theorem windowStart_mono (profile : PostgresShadowRiskProfile) {earlier later : Int}
    (h : earlier ≤ later) :
    windowStart earlier profile.riskBudgetWindowMs ≤
      windowStart later profile.riskBudgetWindowMs := by
  have hpos := profile.riskBudgetWindowMs_pos
  exact Int.mul_le_mul_of_nonneg_right (Int.ediv_le_ediv hpos h) (by omega)

theorem assertCreditUnits_eq_ok {value : Int} {label : String} {u : Unit}
    (h : assertCreditUnits value label = .ok u) : 0 ≤ value := by
  have hnot := rejectIf_eq_ok.mp h
  omega

theorem normalizeNow_eq_ok {value now : Int} (h : normalizeNow value = .ok now) : now = value := by
  obtain ⟨_, -, h⟩ := bind_eq_ok.mp h
  obtain ⟨_, -, h⟩ := bind_eq_ok.mp h
  cases h
  rfl

theorem safeInteger_eq_ok {value units : Int} {code : String}
    (h : safeInteger value code = .ok units) : units = value := by
  obtain ⟨_, -, h⟩ := bind_eq_ok.mp h
  cases h
  rfl

theorem remainingReservations_sublist (state rolled : PostgresRiskState) :
    (remainingReservations state rolled).Sublist state.reservations := by
  unfold remainingReservations
  split
  · exact List.Sublist.refl _
  · exact List.filter_sublist

/-- The starts that the row keeps when it is rolled to another window. -/
def PostgresRiskState.startsAt (state : PostgresRiskState) (window : Int) : List Int :=
  if state.windowStartedAtMs = window then state.requestStarts else []

/-- The row is in the window of the time, with the starts of that window. -/
theorem rollState_eq_ok (h : rollState profile state nowMs = .ok next) :
    state.windowStartedAtMs ≤ windowStart nowMs profile.riskBudgetWindowMs ∧
      next.windowStartedAtMs = windowStart nowMs profile.riskBudgetWindowMs ∧
      next.requestStarts = state.startsAt (windowStart nowMs profile.riskBudgetWindowMs) := by
  unfold rollState at h
  unfold PostgresRiskState.startsAt
  dsimp only at h
  split at h
  · cases h
  · rename_i hforward
    split at h
    · rename_i hsame
      cases h
      rw [if_pos hsame]
      exact ⟨by omega, hsame, rfl⟩
    · rename_i hother
      cases h
      rw [if_neg hother]
      exact ⟨by omega, rfl, rfl⟩

/-- What an operation of the store does. -/
inductive StoreChange (profile : PostgresShadowRiskProfile) (input : RiskInput)
    (state : PostgresRiskState) : Except RiskError RiskAnswer × PostgresRiskState → Prop
  | acquired {units window : Int} {starts : List Int} {answer : RiskAnswer}
      {next : PostgresRiskState} :
      input.command = .acquire units →
      window = windowStart input.nowMs profile.riskBudgetWindowMs →
      state.windowStartedAtMs ≤ window →
      starts = recent profile.requestStartsWindowMs input.nowMs (state.startsAt window) →
      starts.length < profile.requestStartsLimit →
      next.windowStartedAtMs = window → next.requestStarts = starts ++ [input.nowMs] →
      RiskChange profile.maxInFlight profile.maxReservedCreditUnits state.reservations
        next.reservations →
      currentExposure next.reservations ≤ profile.maxReservedCreditUnits →
      StoreChange profile input state (.ok answer, next)
  | closed {answer : RiskAnswer} {next : PostgresRiskState} :
      (∀ units, input.command ≠ .acquire units) →
      next.windowStartedAtMs = state.windowStartedAtMs →
      next.requestStarts = state.requestStarts →
      RiskChange profile.maxInFlight profile.maxReservedCreditUnits state.reservations
        next.reservations →
      StoreChange profile input state (.ok answer, next)
  | failed {error : RiskError} : StoreChange profile input state (.error error, state)

variable {input : RiskInput}

theorem acquire_change {units : Int} (hcommand : input.command = .acquire units)
    (h : acquire profile units input.nowMs input.freshId state = .ok (answer, next)) :
    StoreChange profile input state (.ok answer, next) := by
  unfold acquire at h
  obtain ⟨_, hunits, h⟩ := bind_eq_ok.mp h
  obtain ⟨now, hnow, h⟩ := bind_eq_ok.mp h
  rw [normalizeNow_eq_ok hnow] at h
  obtain ⟨rolled, hrolled, h⟩ := bind_eq_ok.mp h
  obtain ⟨_, hstarts, h⟩ := bind_eq_ok.mp h
  obtain ⟨_, hinFlight, h⟩ := bind_eq_ok.mp h
  obtain ⟨exposure, hexposure, h⟩ := bind_eq_ok.mp h
  obtain ⟨_, hbudget, h⟩ := bind_eq_ok.mp h
  obtain ⟨_, -, h⟩ := bind_eq_ok.mp h
  cases h
  obtain ⟨hforward, hwindow, hkeptStarts⟩ := rollState_eq_ok hrolled
  have hkept := remainingReservations_sublist state rolled
  have hroom := rejectIf_eq_ok.mp hstarts
  have hfree := rejectIf_eq_ok.mp hinFlight
  have hfits := rejectIf_eq_ok.mp hbudget
  have hpositive := assertCreditUnits_eq_ok hunits
  rw [safeInteger_eq_ok hexposure] at hfits
  rw [hkeptStarts] at hroom
  refine .acquired hcommand rfl hforward rfl (by omega) hwindow (by rw [hkeptStarts]) ?_ ?_
  · exact .opens hkept rfl ⟨hpositive, le_refl 0⟩ (by omega) (by dsimp only; omega)
  · rw [currentExposure_append]
    show currentExposure (remainingReservations state rolled) + units ≤ _
    omega

variable {id : String}

theorem finishReservation_change {status : RiskReservationStatus} {units : Option Int}
    (hstatus : status ≠ .active) (hunits : 0 ≤ units.getD 0)
    (hcommand : ∀ units, input.command ≠ .acquire units)
    (h : finishReservation id status units nowMs state = .ok (answer, next)) :
    StoreChange profile input state (.ok answer, next) := by
  unfold finishReservation at h
  obtain ⟨_, -, h⟩ := bind_eq_ok.mp h
  cases h
  exact .closed hcommand rfl rfl
    (.closes (List.Sublist.refl _) fun reservation _ => ⟨hstatus, rfl, hunits⟩)

theorem settle_change {units : Int} (hcommand : ∀ units, input.command ≠ .acquire units)
    (h : settle id units nowMs state = .ok (answer, next)) :
    StoreChange profile input state (.ok answer, next) := by
  unfold settle at h
  obtain ⟨_, hunits, h⟩ := bind_eq_ok.mp h
  obtain ⟨now, hnow, h⟩ := bind_eq_ok.mp h
  have hpositive : 0 ≤ (some units).getD 0 := assertCreditUnits_eq_ok hunits
  exact finishReservation_change (by decide) hpositive hcommand h

theorem closeUnknown_change (hcommand : ∀ units, input.command ≠ .acquire units)
    (h : closeUnknown id nowMs state = .ok (answer, next)) :
    StoreChange profile input state (.ok answer, next) := by
  unfold closeUnknown at h
  obtain ⟨now, hnow, h⟩ := bind_eq_ok.mp h
  exact finishReservation_change (by decide) (le_refl 0) hcommand h

theorem recoverExpiredLease_change {digest : String}
    (hcommand : ∀ units, input.command ≠ .acquire units)
    (h : recoverExpiredLease id digest nowMs state = .ok (answer, next)) :
    StoreChange profile input state (.ok answer, next) := by
  unfold recoverExpiredLease at h
  obtain ⟨_, -, h⟩ := bind_eq_ok.mp h
  obtain ⟨_, -, h⟩ := bind_eq_ok.mp h
  obtain ⟨now, hnow, h⟩ := bind_eq_ok.mp h
  split at h
  · cases h
  · obtain ⟨_, -, h⟩ := bind_eq_ok.mp h
    obtain ⟨_, -, h⟩ := bind_eq_ok.mp h
    cases h
    exact .closed hcommand rfl rfl (.closes (List.Sublist.refl _) fun reservation hreservation =>
      ⟨nofun, rfl, hreservation.2⟩)

theorem riskStep_change (input : RiskInput) (state : PostgresRiskState) :
    StoreChange profile input state (riskStep profile input state) := by
  unfold riskStep
  cases hrun : runRiskOperation profile input state with
  | error error => exact .failed
  | ok result =>
    obtain ⟨answer, next⟩ := result
    unfold runRiskOperation at hrun
    cases hcommand : input.command with
    | acquire units =>
      rw [hcommand] at hrun
      exact acquire_change hcommand hrun
    | settle id units =>
      rw [hcommand] at hrun
      exact settle_change (by simp [hcommand]) hrun
    | closeUnknown id =>
      rw [hcommand] at hrun
      exact closeUnknown_change (by simp [hcommand]) hrun
    | recoverExpiredLease id digest =>
      rw [hcommand] at hrun
      exact recoverExpiredLease_change (by simp [hcommand]) hrun

/-! ### Runs -/

theorem riskStep_reservations (input : RiskInput) (state : PostgresRiskState) :
    RiskChange profile.maxInFlight profile.maxReservedCreditUnits state.reservations
      (riskStep profile input state).2.reservations := by
  have hchange : StoreChange profile input state (riskStep profile input state) :=
    riskStep_change input state
  cases hstep : riskStep profile input state with
  | mk output after =>
    rw [hstep] at hchange
    cases hchange with
    | acquired _ _ _ _ _ _ _ hreservations _ => exact hreservations
    | closed _ _ _ hreservations => exact hreservations
    | failed => exact .nothing

/-- The row keeps the starts of its window that are recent. -/
structure StoreInv (profile : PostgresShadowRiskProfile) (now : Int) (starts : List Int)
    (state : PostgresRiskState) : Prop where
  window : state.windowStartedAtMs ≤ windowStart now profile.riskBudgetWindowMs
  past : ∀ startedAt ∈ starts, startedAt ≤ now
  windows : ∀ startedAt ∈ starts,
    windowStart startedAt profile.riskBudgetWindowMs ≤ state.windowStartedAtMs
  tracks : Tracks profile.requestStartsWindowMs now state.requestStarts
    (profile.startsIn state.windowStartedAtMs starts)
  limit : ∀ window, WithinLimit profile.requestStartsLimit profile.requestStartsWindowMs
    (profile.startsIn window starts)

variable {starts : List Int}

theorem startsIn_append (window : Int) (starts more : List Int) :
    profile.startsIn window (starts ++ more) =
      profile.startsIn window starts ++ profile.startsIn window more :=
  List.filter_append starts more

theorem StoreInv.mono (h : StoreInv profile nowMs starts state) {later : Int}
    (hle : nowMs ≤ later) :
    StoreInv profile later starts state where
  window := h.window.trans (windowStart_mono profile hle)
  past startedAt hmem := (h.past startedAt hmem).trans hle
  windows := h.windows
  tracks := h.tracks.mono hle
  limit := h.limit

/-- No start is in a later window than the row's. -/
theorem StoreInv.tracks_startsAt (h : StoreInv profile nowMs starts state) {window : Int}
    (hforward : state.windowStartedAtMs ≤ window) :
    Tracks profile.requestStartsWindowMs nowMs (state.startsAt window)
      (profile.startsIn window starts) := by
  unfold PostgresRiskState.startsAt
  split
  · rename_i hsame
    rw [← hsame]
    exact h.tracks
  · rename_i hother
    have hnone : profile.startsIn window starts = [] := by
      apply List.filter_eq_nil_iff.mpr
      intro startedAt hmem hin
      have hle := h.windows startedAt hmem
      have hwindow := of_decide_eq_true hin
      omega
    rw [hnone]
    exact tracks_refl

/-- A start in the window of its time. -/
theorem StoreInv.acquired (h : StoreInv profile nowMs starts state) {window : Int}
    {kept : List Int} (hwindow : window = windowStart nowMs profile.riskBudgetWindowMs)
    (hforward : state.windowStartedAtMs ≤ window)
    (hkept : kept = recent profile.requestStartsWindowMs nowMs (state.startsAt window))
    (hroom : kept.length < profile.requestStartsLimit)
    (hnextWindow : next.windowStartedAtMs = window) (hnext : next.requestStarts = kept ++ [nowMs]) :
    StoreInv profile nowMs (starts ++ [nowMs]) next := by
  have htracks := h.tracks_startsAt hforward
  have hone : ∀ other, profile.startsIn other [nowMs] = if window = other then [nowMs] else [] := by
    intro other
    unfold PostgresShadowRiskProfile.startsIn
    rw [List.filter_singleton, ← hwindow]
    by_cases hother : window = other
    · simp [hother]
    · simp [hother]
  refine ⟨by omega, ?_, ?_, ?_, ?_⟩
  · intro startedAt hmem
    rcases List.mem_append.mp hmem with hmem | hmem
    · exact h.past startedAt hmem
    · rw [List.mem_singleton.mp hmem]
  · intro startedAt hmem
    rcases List.mem_append.mp hmem with hmem | hmem
    · have hle := h.windows startedAt hmem
      omega
    · rw [List.mem_singleton.mp hmem]
      omega
  · rw [hnextWindow, hnext, hkept, startsIn_append, hone, if_pos rfl]
    exact htracks.recent.concat nowMs
  · intro other
    rw [startsIn_append, hone]
    split
    · rename_i hsame
      rw [← hsame]
      have hfew : (recent profile.requestStartsWindowMs nowMs
          (profile.startsIn window starts)).length < profile.requestStartsLimit := by
        rw [← htracks nowMs (le_refl nowMs), ← hkept]
        exact hroom
      apply (h.limit window).concat _ hfew
      intro startedAt hmem
      exact h.past startedAt (List.mem_of_mem_filter hmem)
    · rw [List.append_nil]
      exact h.limit other

theorem StoreInv.step {now : Int} (input : RiskInput) (starts : List Int)
    (state : PostgresRiskState) (h : StoreInv profile now starts state) (hnow : now ≤ input.nowMs) :
    StoreInv profile input.nowMs
      (starts ++ startOf (Machine.stepOf (riskStep profile) state input))
      (riskStep profile input state).2 := by
  have hlater := h.mono hnow
  have hchange : StoreChange profile input state (riskStep profile input state) :=
    riskStep_change input state
  unfold Machine.stepOf
  cases hstep : riskStep profile input state with
  | mk output after =>
    rw [hstep] at hchange
    cases hchange with
    | acquired hcommand hwindow hforward hkept hroom hnextWindow hnext _ _ =>
      rw [startOf_acquired _ _ hcommand]
      exact hlater.acquired hwindow hforward hkept hroom hnextWindow hnext
    | closed hcommand hwindow hstarts _ =>
      rw [startOf_closed _ _ hcommand, List.append_nil]
      exact ⟨hwindow ▸ hlater.window, hlater.past, hwindow ▸ hlater.windows,
        hwindow ▸ hstarts ▸ hlater.tracks, hlater.limit⟩
    | failed =>
      rw [startOf_failed, List.append_nil]
      exact hlater

theorem storeInv_initial (profile : PostgresShadowRiskProfile) (now : Int) :
    StoreInv profile now [] (PostgresRiskState.initial profile now) where
  window := le_refl _
  past _ h := absurd h List.not_mem_nil
  windows _ h := absurd h List.not_mem_nil
  tracks := tracks_refl
  limit _ := withinLimit_nil (Int.le_of_lt profile.requestStartsLimit_pos)

/-- The starts of one budget window, in any sliding window. -/
theorem riskStep_withinLimit (profile : PostgresShadowRiskProfile) {now : Int}
    {inputs : List RiskInput} (htimed : Machine.Timed RiskInput.nowMs now inputs) (window : Int) :
    WithinLimit profile.requestStartsLimit profile.requestStartsWindowMs (profile.startsIn window
      (startsOf (Machine.trace (riskStep profile) (PostgresRiskState.initial profile now)
        inputs))) := by
  have hrun := @Machine.timed _ _ _ (riskStep profile) _ RiskInput.nowMs
    (fun starts step => starts ++ startOf step) (StoreInv profile) (fun _ => True)
    (fun now input starts state h hnow _ => h.step input starts state hnow)
    now [] _ (storeInv_initial profile now) inputs htimed fun _ _ => trivial
  rw [foldl_startOf] at hrun
  exact hrun.limit window

theorem riskStep_limitsKept (profile : PostgresShadowRiskProfile) (now : Int)
    (inputs : List RiskInput) :
    LimitsKept PostgresRiskState.reservations profile.maxInFlight profile.maxReservedCreditUnits
      (Machine.trace (riskStep profile) (PostgresRiskState.initial profile now) inputs)
      (Machine.final (riskStep profile) (PostgresRiskState.initial profile now) inputs) := by
  apply limitsKept
  · exact riskStep_reservations
  · intro input state hstarts
    have hchange : StoreChange profile input state (riskStep profile input state) :=
      riskStep_change input state
    unfold Machine.stepOf at hstarts
    cases hstep : riskStep profile input state with
    | mk output after =>
      rw [hstep] at hchange hstarts
      cases hchange with
      | acquired _ _ _ _ _ _ _ _ hexposure => exact hexposure
      | closed hcommand _ _ _ => exact absurd (startOf_closed _ _ hcommand) hstarts
      | failed => exact absurd (startOf_failed _ _) hstarts
  · exact bounded_nil (Int.le_of_lt profile.maxInFlight_pos)
      (Int.le_of_lt profile.maxReservedCreditUnits_pos)

end Frely.Application
