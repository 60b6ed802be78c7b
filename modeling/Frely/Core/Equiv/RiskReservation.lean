import Frely.Core.RiskReservation
import Frely.Lib.Machine
import Frely.Lib.SlidingWindow
import Mathlib.Algebra.Order.BigOperators.Group.List
import Mathlib.Algebra.Order.Group.Int

/-!
# The limits of a risk state

What an operation may do to the reservations is `RiskChange`: open one that the limits have room
for, close one, or nothing.  It keeps them `Bounded`: so many in flight, and the budget not exceeded
by what they commit to, which counts a settlement up to its reservation.

`startsOf` are the starts of a run, whether the state still keeps them or not.
-/

namespace Frely

open Checked SlidingWindow

/-! ### Reservations -/

/-- What a reservation counts, a settlement no more than was reserved. -/
def RiskReservationState.committed (reservation : RiskReservationState) : Int :=
  if reservation.status = .settled then
    min (reservation.settledCreditUnits.getD 0) reservation.reservedCreditUnits
  else reservation.reservedCreditUnits

/-- What all reservations commit to together. -/
def committed (reservations : List RiskReservationState) : Int :=
  (reservations.map RiskReservationState.committed).sum

/-- Units are not negative. -/
def RiskReservationState.HasUnits (reservation : RiskReservationState) : Prop :=
  0 ≤ reservation.reservedCreditUnits ∧ 0 ≤ reservation.settledCreditUnits.getD 0

/-- An end of an active reservation. -/
structure ClosedAs (before after : RiskReservationState) : Prop where
  status : after.status ≠ .active
  reserved : after.reservedCreditUnits = before.reservedCreditUnits
  settled : 0 ≤ after.settledCreditUnits.getD 0

/-- What an operation may do to the reservations; reservations may be dropped on the way. -/
inductive RiskChange (maxInFlight maxUnits : Int) (before : List RiskReservationState) :
    List RiskReservationState → Prop
  | opens {kept reservation} : kept.Sublist before → reservation.status = .active →
      reservation.HasUnits → inFlight kept < maxInFlight →
      currentExposure kept + reservation.reservedCreditUnits ≤ maxUnits →
      RiskChange maxInFlight maxUnits before (kept ++ [reservation])
  | closes {kept id update} : kept.Sublist before →
      (∀ reservation : RiskReservationState, reservation.HasUnits →
        ClosedAs reservation (update reservation)) →
      RiskChange maxInFlight maxUnits before (updateReservation kept id update)
  | nothing : RiskChange maxInFlight maxUnits before before

/-- The limits hold. -/
structure Bounded (maxInFlight maxUnits : Int) (reservations : List RiskReservationState) :
    Prop where
  units : ∀ reservation ∈ reservations, reservation.HasUnits
  inFlight : inFlight reservations ≤ maxInFlight
  committed : committed reservations ≤ maxUnits

variable {maxInFlight maxUnits : Int} {before after : List RiskReservationState}

theorem RiskReservationState.HasUnits.committed_nonneg {reservation : RiskReservationState}
    (h : reservation.HasUnits) : 0 ≤ reservation.committed := by
  unfold RiskReservationState.committed
  obtain ⟨hreserved, hsettled⟩ := h
  split <;> omega

theorem RiskReservationState.committed_le_exposure (reservation : RiskReservationState) :
    reservation.committed ≤ reservation.exposure := by
  unfold RiskReservationState.committed RiskReservationState.exposure
  split <;> omega

theorem committed_le_currentExposure (reservations : List RiskReservationState) :
    committed reservations ≤ currentExposure reservations := by
  unfold committed currentExposure
  exact List.sum_le_sum fun reservation _ => reservation.committed_le_exposure

theorem currentExposure_append (reservations : List RiskReservationState)
    (reservation : RiskReservationState) :
    currentExposure (reservations ++ [reservation]) =
      currentExposure reservations + reservation.exposure := by
  simp [currentExposure]

/-- Settlements within their reservations commit to what they cost. -/
theorem currentExposure_le_committed {reservations : List RiskReservationState}
    (h : ∀ reservation ∈ reservations, reservation.status = .settled →
      reservation.settledCreditUnits.getD 0 ≤ reservation.reservedCreditUnits) :
    currentExposure reservations ≤ committed reservations := by
  unfold committed currentExposure
  apply List.sum_le_sum
  intro reservation hmem
  unfold RiskReservationState.committed RiskReservationState.exposure
  split
  · rename_i hsettled
    have hle := h reservation hmem hsettled
    omega
  · rfl

theorem Bounded.sublist {kept : List RiskReservationState} (h : Bounded maxInFlight maxUnits before)
    (hkept : kept.Sublist before) : Bounded maxInFlight maxUnits kept where
  units reservation hmem := h.units reservation (hkept.subset hmem)
  inFlight := by
    have hle : Frely.inFlight kept ≤ Frely.inFlight before := (hkept.filter _).length_le
    have hbefore := h.inFlight
    omega
  committed := by
    have hle : Frely.committed kept ≤ Frely.committed before := by
      unfold Frely.committed
      apply (hkept.map _).sum_le_sum
      intro units hmem
      obtain ⟨reservation, hreservation, rfl⟩ := List.mem_map.mp hmem
      exact (h.units reservation hreservation).committed_nonneg
    exact hle.trans h.committed

/-- A reservation that closes commits to no more than before. -/
theorem Bounded.closes (h : Bounded maxInFlight maxUnits before) (id : String)
    {update : RiskReservationState → RiskReservationState}
    (hupdate : ∀ reservation : RiskReservationState, reservation.HasUnits →
      ClosedAs reservation (update reservation)) :
    Bounded maxInFlight maxUnits (updateReservation before id update) where
  units reservation hmem := by
    obtain ⟨old, hold, rfl⟩ := List.mem_map.mp hmem
    have hunits := h.units old hold
    split
    · have hclosed := hupdate old hunits
      exact ⟨hclosed.reserved ▸ hunits.1, hclosed.settled⟩
    · exact hunits
  inFlight := by
    have hle : Frely.inFlight (updateReservation before id update) ≤ Frely.inFlight before := by
      unfold Frely.inFlight updateReservation
      rw [← List.countP_eq_length_filter, ← List.countP_eq_length_filter, List.countP_map]
      apply List.countP_mono_left
      intro reservation hmem hactive
      have hafter := of_decide_eq_true hactive
      dsimp only at hafter
      split at hafter
      · rename_i hmatch
        exact decide_eq_true hmatch.2
      · exact decide_eq_true hafter
    have hbefore := h.inFlight
    omega
  committed := by
    have hle : Frely.committed (updateReservation before id update) ≤ Frely.committed before := by
      unfold Frely.committed updateReservation
      rw [List.map_map]
      apply List.sum_le_sum
      intro reservation hmem
      rw [Function.comp_apply]
      split
      · rename_i hmatch
        have hclosed := hupdate reservation (h.units reservation hmem)
        have hreserved := hclosed.reserved
        -- it was in flight, so it counted with all it had reserved
        have hcommitted : reservation.committed = reservation.reservedCreditUnits := by
          unfold RiskReservationState.committed
          rw [if_neg (by rw [hmatch.2]; exact nofun)]
        rw [hcommitted]
        unfold RiskReservationState.committed
        split <;> omega
      · exact le_refl _
    exact hle.trans h.committed

/-- **Limits.** Every operation keeps the limits. -/
theorem RiskChange.keeps (h : RiskChange maxInFlight maxUnits before after)
    (hbefore : Bounded maxInFlight maxUnits before) : Bounded maxInFlight maxUnits after := by
  cases h with
  | @opens kept reservation hkept hactive hunits hroom hbudget =>
    have hbounded := hbefore.sublist hkept
    refine ⟨?_, ?_, ?_⟩
    · intro other hmem
      rcases List.mem_append.mp hmem with hmem | hmem
      · exact hbounded.units other hmem
      · rw [List.mem_singleton.mp hmem]
        exact hunits
    · have hone : inFlight (kept ++ [reservation]) = inFlight kept + 1 := by
        simp [inFlight, hactive]
      omega
    · have hsum : committed (kept ++ [reservation]) =
          committed kept + reservation.reservedCreditUnits := by
        simp [committed, RiskReservationState.committed, hactive]
      have hle := committed_le_currentExposure kept
      omega
  | @closes kept id update hkept hupdate => exact (hbefore.sublist hkept).closes id hupdate
  | nothing => exact hbefore

/-- The start that a step makes. -/
def startOf {σ : Type} (taken : Machine.Step RiskInput (Except RiskError RiskAnswer) σ) :
    List Int :=
  match taken.input.command, taken.output with
  | .acquire _, .ok _ => [taken.input.nowMs]
  | _, _ => []

/-- The starts that a run has let through. -/
def startsOf {σ : Type} (taken : List (Machine.Step RiskInput (Except RiskError RiskAnswer) σ)) :
    List Int :=
  taken.flatMap startOf

theorem foldl_startOf {σ : Type} (starts : List Int)
    (taken : List (Machine.Step RiskInput (Except RiskError RiskAnswer) σ)) :
    taken.foldl (fun starts step => starts ++ startOf step) starts = starts ++ startsOf taken := by
  induction taken generalizing starts with
  | nil => exact (List.append_nil starts).symm
  | cons step rest ih =>
    rw [List.foldl_cons, ih, List.append_assoc]
    rfl

section Start

variable {σ : Type} {input : RiskInput} {answer : RiskAnswer} (state next : σ)

theorem startOf_acquired {units : Int} (h : input.command = .acquire units) :
    startOf ⟨state, input, .ok answer, next⟩ = [input.nowMs] := by
  unfold startOf
  rw [h]

theorem startOf_closed (h : ∀ units, input.command ≠ .acquire units) :
    startOf ⟨state, input, .ok answer, next⟩ = [] := by
  unfold startOf
  split
  · rename_i hcommand _
    exact absurd hcommand (h _)
  · rfl

theorem startOf_failed {error : RiskError} : startOf ⟨state, input, .error error, next⟩ = [] := by
  unfold startOf
  split
  · rename_i hok
    cases hok
  · rfl

end Start

/-- The limits on the reservations, in the last state of a run and after every start. -/
structure LimitsKept {σ : Type} (reservations : σ → List RiskReservationState)
    (maxInFlight maxUnits : Int)
    (taken : List (Machine.Step RiskInput (Except RiskError RiskAnswer) σ)) (last : σ) : Prop where
  inFlight : inFlight (reservations last) ≤ maxInFlight
  committed : committed (reservations last) ≤ maxUnits
  exposure : (∀ reservation ∈ reservations last, reservation.status = .settled →
      reservation.settledCreditUnits.getD 0 ≤ reservation.reservedCreditUnits) →
    currentExposure (reservations last) ≤ maxUnits
  started : ∀ step ∈ taken, startOf step ≠ [] →
    currentExposure (reservations step.after) ≤ maxUnits

/-- **Limits of a run**, of a state whose steps change the reservations as they may. -/
theorem limitsKept {σ : Type} {step : RiskInput → σ → Except RiskError RiskAnswer × σ}
    {reservations : σ → List RiskReservationState}
    (hchange : ∀ input state, RiskChange maxInFlight maxUnits (reservations state)
      (reservations (step input state).2))
    (hstarted : ∀ input state, startOf (Machine.stepOf step state input) ≠ [] →
      currentExposure (reservations (step input state).2) ≤ maxUnits)
    {start : σ} (hstart : Bounded maxInFlight maxUnits (reservations start))
    (inputs : List RiskInput) :
    LimitsKept reservations maxInFlight maxUnits (Machine.trace step start inputs)
      (Machine.final step start inputs) := by
  have hbounded : Bounded maxInFlight maxUnits (reservations (Machine.final step start inputs)) :=
    @Machine.invariant_final _ _ _ step (fun state =>
      Bounded maxInFlight maxUnits (reservations state))
      (fun input state h => (hchange input state).keeps h) start hstart inputs
  refine ⟨hbounded.inFlight, hbounded.committed, ?_, ?_⟩
  · intro hwithin
    exact (currentExposure_le_committed hwithin).trans hbounded.committed
  · intro taken hmem hstarts
    rw [Machine.eq_stepOf_of_mem hmem] at hstarts ⊢
    exact hstarted taken.input taken.before hstarts

theorem bounded_nil (hinFlight : 0 ≤ maxInFlight) (hunits : 0 ≤ maxUnits) :
    Bounded maxInFlight maxUnits [] :=
  ⟨fun _ h => absurd h List.not_mem_nil, hinFlight, hunits⟩

end Frely
