import Frely.Application.Equiv.PostgresRiskState
import Frely.Gateway.ProductionShadowRiskGuard

/-!
# The limits of the file-backed guard

The guard keeps the start times that are recent, also when the day changes, so that it bounds the
starts of every sliding window.
-/

namespace Frely.Gateway

open Checked SlidingWindow ProductionShadowRiskProfile

/-! ### The file -/

variable {profile : ProductionShadowRiskProfile} {state next : ProductionShadowRiskState}
  {answer : RiskAnswer} {nowMs : Int}

theorem failClosed_eq_ok {α : Type} {operation : Except RiskError α} {value : α} :
    failClosed operation = .ok value ↔ operation = .ok value := by
  cases operation with
  | ok other => rfl
  | error error => cases error <;> exact iff_of_false nofun nofun

theorem assertCreditUnits_eq_ok {value : Int} {name : String} {u : Unit}
    (h : assertCreditUnits value name = .ok u) : 0 ≤ value := by
  have hnot := rejectIf_eq_ok.mp h
  omega

theorem normalizeNow_eq_ok {value now : Int} (h : normalizeNow value = .ok now) : now = value := by
  obtain ⟨_, -, h⟩ := bind_eq_ok.mp h
  obtain ⟨_, -, h⟩ := bind_eq_ok.mp h
  cases h
  rfl

theorem readState_eq_ok (h : readState state = .ok next) : next = state := by
  obtain ⟨_, -, h⟩ := bind_eq_ok.mp h
  cases h
  rfl

theorem writeState_eq_ok (h : writeState state = .ok next) : next = state := by
  obtain ⟨_, -, h⟩ := bind_eq_ok.mp h
  cases h
  rfl

/-- A new day keeps the recent starts and the active reservations. -/
theorem rollWindow_eq_ok (h : rollWindow state nowMs = .ok next) :
    (next.requestStartsMs = state.requestStartsMs ∨
      next.requestStartsMs = recent requestStartsWindowMs nowMs state.requestStartsMs) ∧
      next.reservations.Sublist state.reservations := by
  unfold rollWindow at h
  dsimp only at h
  split at h
  · cases h
    exact ⟨Or.inl rfl, List.Sublist.refl _⟩
  · split at h
    · cases h
    · cases h
      exact ⟨Or.inr rfl, List.filter_sublist⟩

/-- What an operation of the guard does. -/
inductive GuardChange (profile : ProductionShadowRiskProfile) (input : RiskInput)
    (state : ProductionShadowRiskState) :
    Except RiskError RiskAnswer × ProductionShadowRiskState → Prop
  | acquired {units : Int} {answer : RiskAnswer} {next : ProductionShadowRiskState} :
      input.command = .acquire units →
      (recent requestStartsWindowMs input.nowMs state.requestStartsMs).length < requestStartsLimit →
      next.requestStartsMs =
        recent requestStartsWindowMs input.nowMs state.requestStartsMs ++ [input.nowMs] →
      RiskChange maxInFlight profile.maxReservedCreditUnits state.reservations next.reservations →
      currentExposure next.reservations ≤ profile.maxReservedCreditUnits →
      GuardChange profile input state (.ok answer, next)
  | closed {answer : RiskAnswer} {next : ProductionShadowRiskState} :
      (∀ units, input.command ≠ .acquire units) →
      (next.requestStartsMs = state.requestStartsMs ∨
        next.requestStartsMs = recent requestStartsWindowMs input.nowMs state.requestStartsMs) →
      RiskChange maxInFlight profile.maxReservedCreditUnits state.reservations next.reservations →
      GuardChange profile input state (.ok answer, next)
  | failed {error : RiskError} : GuardChange profile input state (.error error, state)

theorem acquire_eq_ok {units : Int} {freshId : String}
    (h : acquire profile units nowMs freshId state = .ok (answer, next)) :
    (recent requestStartsWindowMs nowMs state.requestStartsMs).length < requestStartsLimit ∧
      next.requestStartsMs =
        recent requestStartsWindowMs nowMs state.requestStartsMs ++ [nowMs] ∧
      RiskChange maxInFlight profile.maxReservedCreditUnits state.reservations next.reservations ∧
      currentExposure next.reservations ≤ profile.maxReservedCreditUnits := by
  unfold acquire at h
  obtain ⟨_, hunits, h⟩ := bind_eq_ok.mp h
  obtain ⟨now, hnow, h⟩ := bind_eq_ok.mp h
  rw [normalizeNow_eq_ok hnow, failClosed_eq_ok] at h
  obtain ⟨read, hread, h⟩ := bind_eq_ok.mp h
  rw [readState_eq_ok hread] at h
  obtain ⟨rolled, hrolled, h⟩ := bind_eq_ok.mp h
  obtain ⟨_, hstarts, h⟩ := bind_eq_ok.mp h
  obtain ⟨_, hinFlight, h⟩ := bind_eq_ok.mp h
  obtain ⟨_, hbudget, h⟩ := bind_eq_ok.mp h
  obtain ⟨written, hwritten, h⟩ := bind_eq_ok.mp h
  rw [writeState_eq_ok hwritten] at h
  cases h
  obtain ⟨hrolledStarts, hkept⟩ := rollWindow_eq_ok hrolled
  -- what is recent after the roll was recent before
  have hsame : recent requestStartsWindowMs nowMs rolled.requestStartsMs =
      recent requestStartsWindowMs nowMs state.requestStartsMs := by
    rcases hrolledStarts with hequal | hrecent
    · rw [hequal]
    · rw [hrecent, recent_recent]
  have hroom := rejectIf_eq_ok.mp hstarts
  have hfree := rejectIf_eq_ok.mp hinFlight
  have hfits := rejectIf_eq_ok.mp hbudget
  have hpositive := assertCreditUnits_eq_ok hunits
  rw [hsame] at hroom
  refine ⟨by omega, by rw [hsame], ?_, ?_⟩
  · exact .opens hkept rfl ⟨hpositive, le_refl 0⟩ (by omega) (by dsimp only; omega)
  · rw [currentExposure_append]
    show currentExposure rolled.reservations + units ≤ _
    omega

theorem finishReservation_eq_ok {id : String} {status : RiskReservationStatus} {units : Option Int}
    (hstatus : status ≠ .active) (hunits : 0 ≤ units.getD 0)
    (h : finishReservation id status units nowMs state = .ok (answer, next)) :
    (next.requestStartsMs = state.requestStartsMs ∨
      next.requestStartsMs = recent requestStartsWindowMs nowMs state.requestStartsMs) ∧
      RiskChange maxInFlight profile.maxReservedCreditUnits state.reservations
        next.reservations := by
  unfold finishReservation at h
  rw [failClosed_eq_ok] at h
  obtain ⟨stored, hread, h⟩ := bind_eq_ok.mp h
  rw [readState_eq_ok hread] at h
  obtain ⟨rolled, hrolled, h⟩ := bind_eq_ok.mp h
  obtain ⟨hstarts, hkept⟩ := rollWindow_eq_ok hrolled
  split at h
  · cases h
  · split at h
    · cases h
      exact ⟨Or.inl rfl, .nothing⟩
    · obtain ⟨written, hwritten, h⟩ := bind_eq_ok.mp h
      rw [writeState_eq_ok hwritten] at h
      cases h
      exact ⟨hstarts, .closes hkept fun reservation _ => ⟨hstatus, rfl, hunits⟩⟩

theorem recoverExpiredLease_eq_ok {id digest : String}
    (h : recoverExpiredLease id digest nowMs state = .ok (answer, next)) :
    (next.requestStartsMs = state.requestStartsMs ∨
      next.requestStartsMs = recent requestStartsWindowMs nowMs state.requestStartsMs) ∧
      RiskChange maxInFlight profile.maxReservedCreditUnits state.reservations
        next.reservations := by
  unfold recoverExpiredLease at h
  obtain ⟨_, -, h⟩ := bind_eq_ok.mp h
  obtain ⟨_, -, h⟩ := bind_eq_ok.mp h
  obtain ⟨now, hnow, h⟩ := bind_eq_ok.mp h
  rw [normalizeNow_eq_ok hnow, failClosed_eq_ok] at h
  obtain ⟨read, hread, h⟩ := bind_eq_ok.mp h
  rw [readState_eq_ok hread] at h
  obtain ⟨rolled, hrolled, h⟩ := bind_eq_ok.mp h
  obtain ⟨hstarts, hkept⟩ := rollWindow_eq_ok hrolled
  split at h
  · cases h
  · obtain ⟨_, -, h⟩ := bind_eq_ok.mp h
    obtain ⟨_, -, h⟩ := bind_eq_ok.mp h
    obtain ⟨written, hwritten, h⟩ := bind_eq_ok.mp h
    rw [writeState_eq_ok hwritten] at h
    cases h
    exact ⟨hstarts, .closes hkept fun reservation hreservation => ⟨nofun, rfl, hreservation.2⟩⟩

theorem settle_eq_ok {id : String} {units : Int}
    (h : settle id units nowMs state = .ok (answer, next)) :
    (next.requestStartsMs = state.requestStartsMs ∨
      next.requestStartsMs = recent requestStartsWindowMs nowMs state.requestStartsMs) ∧
      RiskChange maxInFlight profile.maxReservedCreditUnits state.reservations
        next.reservations := by
  unfold settle at h
  obtain ⟨_, hunits, h⟩ := bind_eq_ok.mp h
  obtain ⟨now, hnow, h⟩ := bind_eq_ok.mp h
  rw [normalizeNow_eq_ok hnow] at h
  have hpositive : 0 ≤ (some units).getD 0 := assertCreditUnits_eq_ok hunits
  exact finishReservation_eq_ok (by decide) hpositive h

theorem closeUnknown_eq_ok {id : String}
    (h : closeUnknown id nowMs state = .ok (answer, next)) :
    (next.requestStartsMs = state.requestStartsMs ∨
      next.requestStartsMs = recent requestStartsWindowMs nowMs state.requestStartsMs) ∧
      RiskChange maxInFlight profile.maxReservedCreditUnits state.reservations
        next.reservations := by
  unfold closeUnknown at h
  obtain ⟨now, hnow, h⟩ := bind_eq_ok.mp h
  rw [normalizeNow_eq_ok hnow] at h
  exact finishReservation_eq_ok (by decide) (le_refl 0) h

theorem guardStep_change (input : RiskInput) (state : ProductionShadowRiskState) :
    GuardChange profile input state (guardStep profile input state) := by
  unfold guardStep
  cases hrun : runOperation profile input state with
  | error error => exact .failed
  | ok result =>
    obtain ⟨answer, next⟩ := result
    unfold runOperation at hrun
    cases hcommand : input.command with
    | acquire units =>
      rw [hcommand] at hrun
      obtain ⟨hroom, hstarts, hchange, hexposure⟩ := acquire_eq_ok hrun
      exact .acquired hcommand hroom hstarts hchange hexposure
    | settle id units =>
      rw [hcommand] at hrun
      obtain ⟨hstarts, hchange⟩ := settle_eq_ok hrun
      exact .closed (by simp [hcommand]) hstarts hchange
    | closeUnknown id =>
      rw [hcommand] at hrun
      obtain ⟨hstarts, hchange⟩ := closeUnknown_eq_ok hrun
      exact .closed (by simp [hcommand]) hstarts hchange
    | recoverExpiredLease id digest =>
      rw [hcommand] at hrun
      obtain ⟨hstarts, hchange⟩ := recoverExpiredLease_eq_ok hrun
      exact .closed (by simp [hcommand]) hstarts hchange

/-! ### Runs -/

theorem guardStep_reservations (input : RiskInput) (state : ProductionShadowRiskState) :
    RiskChange maxInFlight profile.maxReservedCreditUnits state.reservations
      (guardStep profile input state).2.reservations := by
  have hchange : GuardChange profile input state (guardStep profile input state) :=
    guardStep_change input state
  cases hstep : guardStep profile input state with
  | mk output after =>
    rw [hstep] at hchange
    cases hchange with
    | acquired _ _ _ hreservations _ => exact hreservations
    | closed _ _ hreservations => exact hreservations
    | failed => exact .nothing

/-- The file keeps the starts that are recent. -/
structure GuardInv (now : Int) (starts : List Int) (state : ProductionShadowRiskState) : Prop where
  past : ∀ startedAt ∈ starts, startedAt ≤ now
  tracks : Tracks requestStartsWindowMs now state.requestStartsMs starts
  limit : WithinLimit requestStartsLimit requestStartsWindowMs starts

theorem GuardInv.step {now : Int} (input : RiskInput) (starts : List Int)
    (state : ProductionShadowRiskState) (h : GuardInv now starts state)
    (hnow : now ≤ input.nowMs) :
    GuardInv input.nowMs (starts ++ startOf (Machine.stepOf (guardStep profile) state input))
      (guardStep profile input state).2 := by
  have hpast : ∀ startedAt ∈ starts, startedAt ≤ input.nowMs := by
    intro startedAt hmem
    exact (h.past startedAt hmem).trans hnow
  have htracks : Tracks requestStartsWindowMs input.nowMs state.requestStartsMs starts :=
    h.tracks.mono hnow
  have hchange : GuardChange profile input state (guardStep profile input state) :=
    guardStep_change input state
  unfold Machine.stepOf
  cases hstep : guardStep profile input state with
  | mk output after =>
    rw [hstep] at hchange
    cases hchange with
    | acquired hcommand hroom hstarts _ _ =>
      rw [startOf_acquired _ _ hcommand]
      refine ⟨?_, ?_, ?_⟩
      · intro startedAt hmem
        rcases List.mem_append.mp hmem with hmem | hmem
        · exact hpast startedAt hmem
        · rw [List.mem_singleton.mp hmem]
      · rw [hstarts]
        exact htracks.recent.concat input.nowMs
      · apply h.limit.concat hpast
        rw [← htracks input.nowMs (le_refl input.nowMs)]
        exact hroom
    | closed hcommand hstarts _ =>
      rw [startOf_closed _ _ hcommand, List.append_nil]
      refine ⟨hpast, ?_, h.limit⟩
      rcases hstarts with hstarts | hstarts
      · rw [hstarts]
        exact htracks
      · rw [hstarts]
        exact htracks.recent
    | failed =>
      rw [startOf_failed, List.append_nil]
      exact ⟨hpast, htracks, h.limit⟩

theorem guardInv_initial (now : Int) : GuardInv now [] (initialState now) where
  past _ h := absurd h List.not_mem_nil
  tracks := tracks_refl
  limit := withinLimit_nil (by decide)

theorem guardStep_withinLimit (profile : ProductionShadowRiskProfile) {now : Int}
    {inputs : List RiskInput} (htimed : Machine.Timed RiskInput.nowMs now inputs) :
    WithinLimit requestStartsLimit requestStartsWindowMs
      (startsOf (Machine.trace (guardStep profile) (initialState now) inputs)) := by
  have hrun := @Machine.timed _ _ _ (guardStep profile) _ RiskInput.nowMs
    (fun starts step => starts ++ startOf step) GuardInv (fun _ => True)
    (fun now input starts state h hnow _ => h.step input starts state hnow)
    now [] _ (guardInv_initial now) inputs htimed fun _ _ => trivial
  rw [foldl_startOf] at hrun
  exact hrun.limit

theorem guardStep_limitsKept (profile : ProductionShadowRiskProfile) (now : Int)
    (inputs : List RiskInput) :
    LimitsKept ProductionShadowRiskState.reservations maxInFlight profile.maxReservedCreditUnits
      (Machine.trace (guardStep profile) (initialState now) inputs)
      (Machine.final (guardStep profile) (initialState now) inputs) := by
  apply limitsKept
  · exact guardStep_reservations
  · intro input state hstarts
    have hchange : GuardChange profile input state (guardStep profile input state) :=
      guardStep_change input state
    unfold Machine.stepOf at hstarts
    cases hstep : guardStep profile input state with
    | mk output after =>
      rw [hstep] at hchange hstarts
      cases hchange with
      | acquired _ _ _ _ hexposure => exact hexposure
      | closed hcommand _ _ => exact absurd (startOf_closed _ _ hcommand) hstarts
      | failed => exact absurd (startOf_failed _ _) hstarts
  · exact bounded_nil (by decide) (Int.le_of_lt profile.valid.2)

end Frely.Gateway

namespace Frely

open SlidingWindow Gateway Application ProductionShadowRiskProfile

/-! ### Both states -/

/-- **Limits of the risk states.** A run at times that never go back, from the first state. -/
theorem riskStates_limited (profile : ProductionShadowRiskProfile)
    (stored : PostgresShadowRiskProfile) (now : Int) (inputs : List RiskInput)
    (htimed : Machine.Timed RiskInput.nowMs now inputs) :
    (WithinLimit requestStartsLimit requestStartsWindowMs
        (startsOf (Machine.trace (guardStep profile) (initialState now) inputs)) ∧
      LimitsKept ProductionShadowRiskState.reservations maxInFlight profile.maxReservedCreditUnits
        (Machine.trace (guardStep profile) (initialState now) inputs)
        (Machine.final (guardStep profile) (initialState now) inputs)) ∧
    (∀ window, WithinLimit stored.requestStartsLimit stored.requestStartsWindowMs
        (stored.startsIn window (startsOf
          (Machine.trace (riskStep stored) (PostgresRiskState.initial stored now) inputs)))) ∧
      LimitsKept PostgresRiskState.reservations stored.maxInFlight stored.maxReservedCreditUnits
        (Machine.trace (riskStep stored) (PostgresRiskState.initial stored now) inputs)
        (Machine.final (riskStep stored) (PostgresRiskState.initial stored now) inputs) :=
  ⟨⟨guardStep_withinLimit profile htimed, guardStep_limitsKept profile now inputs⟩,
    fun window => riskStep_withinLimit stored htimed window, riskStep_limitsKept stored now inputs⟩

/-- A start before midnight that is settled for more than was reserved, and one after midnight. -/
def overMidnight : List RiskInput :=
  [⟨.acquire 1, 86390000, "rsv_00000000000000000000000000000001"⟩,
    ⟨.settle "rsv_00000000000000000000000000000001" 20, 86391000, ""⟩,
    ⟨.acquire 1, 86400000, "rsv_00000000000000000000000000000002"⟩]

def smallProfile : ProductionShadowRiskProfile where
  maxReservedCreditUnits := 10
  valid := by decide

def smallStoredProfile : PostgresShadowRiskProfile where
  requestStartsLimit := 1
  requestStartsWindowMs := 60000
  maxInFlight := 2
  riskBudgetWindowMs := 86400000
  leaseTtlMs := 1800000
  maxReservedCreditUnits := 10
  requestStartsLimit_pos := by decide
  requestStartsWindowMs_pos := by decide
  maxInFlight_pos := by decide
  riskBudgetWindowMs_pos := by decide
  leaseTtlMs_pos := by decide
  maxReservedCreditUnits_pos := by decide

theorem overMidnight_timed : Machine.Timed RiskInput.nowMs 86390000 overMidnight := by decide

theorem riskStates_limited_overMidnight :
    WithinLimit requestStartsLimit requestStartsWindowMs (startsOf
      (Machine.trace (guardStep smallProfile) (initialState 86390000) overMidnight)) ∧
      startsOf (Machine.trace (guardStep smallProfile) (initialState 86390000) overMidnight) =
        [86390000, 86400000] :=
  ⟨(riskStates_limited smallProfile smallStoredProfile 86390000 overMidnight
    overMidnight_timed).1.1, by decide⟩

/-- The settlement exceeds the budget in both states, and the store forgets the first start. -/
theorem overMidnight_exceeds :
    Machine.Timed RiskInput.nowMs 86390000 overMidnight ∧
      smallProfile.maxReservedCreditUnits < currentExposure (Machine.final (guardStep smallProfile)
        (initialState 86390000) (overMidnight.take 2)).reservations ∧
      smallStoredProfile.maxReservedCreditUnits <
        currentExposure (Machine.final (riskStep smallStoredProfile)
          (PostgresRiskState.initial smallStoredProfile 86390000)
          (overMidnight.take 2)).reservations ∧
      ¬WithinLimit smallStoredProfile.requestStartsLimit smallStoredProfile.requestStartsWindowMs
        (startsOf (Machine.trace (riskStep smallStoredProfile)
          (PostgresRiskState.initial smallStoredProfile 86390000) overMidnight)) := by
  refine ⟨by decide, by decide, by decide, ?_⟩
  intro hlimit
  have hstarts : startsOf (Machine.trace (riskStep smallStoredProfile)
      (PostgresRiskState.initial smallStoredProfile 86390000) overMidnight) =
        [86390000, 86400000] := by
    decide
  rw [hstarts] at hlimit
  have htwo := hlimit 86400000
  revert htwo
  decide

end Frely
