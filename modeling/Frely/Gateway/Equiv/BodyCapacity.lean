import Frely.Gateway.BodyCapacity

/-!
# Units of body capacity

The used units are those of the leases that are still live, in whatever order leases are given and
released and however the total changes (`Balanced`, kept by `bodyStep_balanced`).  A lease is given
only where it fits (`bodyCapacity_never_overcommitted`).
-/

namespace Frely.Gateway

open Checked Machine

variable {state : BodyAdmission}

/-! ### Live leases -/

variable {leases : List BodyRequestLease}

/-- What a lease takes up while it is held. -/
def BodyRequestLease.liveUnits (lease : BodyRequestLease) : Int :=
  if lease.released then 0 else lease.units

/-- What all leases take up together. -/
def liveUnits (leases : List BodyRequestLease) : Int :=
  (leases.map BodyRequestLease.liveUnits).sum

theorem liveUnits_concat (leases : List BodyRequestLease) (lease : BodyRequestLease) :
    liveUnits (leases ++ [lease]) = liveUnits leases + lease.liveUnits := by
  simp [liveUnits]

/-- Releasing a lease takes its units off the live ones. -/
theorem liveUnits_set {index : Nat} {lease : BodyRequestLease} (h : leases[index]? = some lease)
    (other : BodyRequestLease) :
    liveUnits (leases.set index other) = liveUnits leases - lease.liveUnits + other.liveUnits := by
  induction leases generalizing index with
  | nil => simp at h
  | cons first rest ih =>
    cases index with
    | zero =>
      obtain rfl : first = lease := by simpa using h
      simp only [liveUnits, List.set_cons_zero, List.map_cons, List.sum_cons]
      omega
    | succ index =>
      have hrest := ih (by simpa using h)
      simp only [liveUnits, List.set_cons_succ, List.map_cons, List.sum_cons] at hrest ⊢
      omega

theorem liveUnits_nonneg (h : ∀ lease ∈ leases, 1 ≤ lease.units) : 0 ≤ liveUnits leases := by
  induction leases with
  | nil => exact Int.le_refl 0
  | cons lease rest ih =>
    have hlease := h lease List.mem_cons_self
    have hrest := ih fun other hother => h other (List.mem_cons_of_mem _ hother)
    have hlive : 0 ≤ lease.liveUnits := by
      unfold BodyRequestLease.liveUnits
      split <;> omega
    simp only [liveUnits, List.map_cons, List.sum_cons] at hrest ⊢
    omega

/-! ### Steps -/

variable {capacity after : WeightedBodyRequestCapacity}

/-- The used units are those of the live leases, and no lease is empty. -/
structure Balanced (state : BodyAdmission) : Prop where
  usedUnits_eq : state.capacity.usedUnits = liveUnits state.leases
  units_pos : ∀ lease ∈ state.leases, 1 ≤ lease.units

theorem requiredBodyUnits_pos {bodyBytes units : Int}
    (h : requiredBodyUnits bodyBytes = .ok units) : 1 ≤ units := by
  obtain ⟨-, -, h⟩ := bind_eq_ok.mp h
  rw [← Except.ok.inj h]
  exact Int.le_max_left _ _

theorem updateMemory_usedUnits {sample : EffectiveMemorySample}
    (h : capacity.updateMemory sample = .ok after) : after.usedUnits = capacity.usedUnits := by
  obtain ⟨-, -, h⟩ := bind_eq_ok.mp h
  rw [← Except.ok.inj h]
  cases sample.cgroupMemory <;> cases sample.cgroupEvents <;> rfl

/-- What `tryAcquire` answers and does. -/
theorem tryAcquire_eq_ok {bodyBytes : Int} {lease : Option BodyRequestLease}
    (h : capacity.tryAcquire bodyBytes = .ok (lease, after)) :
    ∃ units, requiredBodyUnits bodyBytes = .ok units ∧
      ((lease = none ∧ capacity.totalUnits < capacity.usedUnits + units ∧
          after = { capacity with outcomeCounts := { capacity.outcomeCounts with
            capacityExceeded := capacity.outcomeCounts.capacityExceeded + 1 } }) ∨
        (lease = some ⟨units, false⟩ ∧ capacity.usedUnits + units ≤ capacity.totalUnits ∧
          after = { capacity with usedUnits := capacity.usedUnits + units })) := by
  obtain ⟨units, hunits, h⟩ := bind_eq_ok.mp h
  refine ⟨units, hunits, ?_⟩
  by_cases hroom : capacity.totalUnits - capacity.usedUnits < units
  · rw [if_pos hroom] at h
    obtain ⟨rfl, rfl⟩ := Prod.mk.inj (Except.ok.inj h)
    exact .inl ⟨rfl, by omega, rfl⟩
  · rw [if_neg hroom] at h
    obtain ⟨rfl, rfl⟩ := Prod.mk.inj (Except.ok.inj h)
    exact .inr ⟨rfl, by omega, rfl⟩

theorem release_balanced (h : Balanced state) (index : Nat) : Balanced (state.release index) := by
  unfold BodyAdmission.release
  cases hlease : state.leases[index]? with
  | none => exact h
  | some lease =>
    dsimp only
    by_cases hreleased : lease.released = true
    · rw [if_pos hreleased]
      exact h
    · rw [if_neg hreleased]
      constructor
      · have hset := liveUnits_set hlease { lease with released := true }
        have hused := h.usedUnits_eq
        have hlive : lease.liveUnits = lease.units := if_neg hreleased
        have hgone : BodyRequestLease.liveUnits { lease with released := true } = 0 := if_pos rfl
        show state.capacity.usedUnits - lease.units =
          liveUnits (state.leases.set index { lease with released := true })
        rw [hset, hlive, hgone, hused]
        omega
      · intro other hother
        rcases List.mem_or_eq_of_mem_set hother with hold | rfl
        · exact h.units_pos other hold
        · exact h.units_pos lease (List.mem_of_getElem? hlease)

theorem bodyStep_balanced (call : BodyCall) (state : BodyAdmission) (h : Balanced state) :
    Balanced (bodyStep call state).2 := by
  cases call with
  | updateMemory sample =>
    simp only [bodyStep]
    cases hupdate : state.capacity.updateMemory sample with
    | error e => exact h
    | ok capacity => exact ⟨(updateMemory_usedUnits hupdate).trans h.usedUnits_eq, h.units_pos⟩
  | tryAcquire bodyBytes =>
    simp only [bodyStep]
    cases hacquire : state.capacity.tryAcquire bodyBytes with
    | error e => exact h
    | ok answer =>
      obtain ⟨lease, after⟩ := answer
      obtain ⟨units, hunits, ⟨rfl, -, rfl⟩ | ⟨rfl, -, rfl⟩⟩ := tryAcquire_eq_ok hacquire
      · exact ⟨h.usedUnits_eq, h.units_pos⟩
      · constructor
        · have hlive := liveUnits_concat state.leases ⟨units, false⟩
          have hused := h.usedUnits_eq
          simp only [BodyRequestLease.liveUnits, if_neg Bool.false_ne_true] at hlive
          simp only [hlive, hused]
        · intro lease hlease
          rcases List.mem_append.mp hlease with hold | hnew
          · exact h.units_pos lease hold
          · rw [List.mem_singleton.mp hnew]
            exact requiredBodyUnits_pos hunits
  | readBody maxBytes framing body =>
    simp only [bodyStep]
    cases readBoundedJsonBody maxBytes framing body <;> exact h
  | release index => exact release_balanced h index
  | recordContentLength present => exact ⟨h.usedUnits_eq, h.units_pos⟩
  | recordOutcome code => exact ⟨h.usedUnits_eq, h.units_pos⟩
  | takeRuntimeSnapshot => exact ⟨h.usedUnits_eq, h.units_pos⟩

theorem balanced_initial : Balanced {} := ⟨rfl, nofun⟩

/-! ### Runs -/

abbrev BodyStep := Step BodyCall BodyAnswer BodyAdmission

/-- A lease fits into the total in force when it is given. -/
def FitsWhenGranted (t : BodyStep) : Prop :=
  ∀ lease, t.output = .granted lease →
    t.after.capacity.totalUnits = t.before.capacity.totalUnits ∧
      t.after.capacity.usedUnits = t.before.capacity.usedUnits + lease.units ∧
      t.after.capacity.usedUnits ≤ t.before.capacity.totalUnits

/-- A rejected request is counted, and nothing else changes. -/
def CountsRejection (t : BodyStep) : Prop :=
  t.output = .rejected → t.after = { t.before with
    capacity := { t.before.capacity with outcomeCounts := { t.before.capacity.outcomeCounts with
      capacityExceeded := t.before.capacity.outcomeCounts.capacityExceeded + 1 } } }

theorem bodyStep_granted (call : BodyCall) (state : BodyAdmission) :
    FitsWhenGranted (stepOf bodyStep state call) := by
  intro lease houtput
  have houtput : (bodyStep call state).1 = .granted lease := houtput
  show (bodyStep call state).2.capacity.totalUnits = state.capacity.totalUnits ∧
    (bodyStep call state).2.capacity.usedUnits = state.capacity.usedUnits + lease.units ∧
    (bodyStep call state).2.capacity.usedUnits ≤ state.capacity.totalUnits
  cases call with
  | tryAcquire bodyBytes =>
    simp only [bodyStep] at houtput ⊢
    cases hacquire : state.capacity.tryAcquire bodyBytes with
    | error e =>
      rw [hacquire] at houtput
      cases houtput
    | ok answer =>
      obtain ⟨given, after⟩ := answer
      rw [hacquire] at houtput
      obtain ⟨units, -, ⟨rfl, -, rfl⟩ | ⟨rfl, hfits, rfl⟩⟩ := tryAcquire_eq_ok hacquire
      · cases houtput
      · cases houtput
        exact ⟨rfl, rfl, hfits⟩
  | updateMemory sample =>
    simp only [bodyStep] at houtput
    cases hupdate : state.capacity.updateMemory sample <;> rw [hupdate] at houtput <;> cases houtput
  | readBody maxBytes framing body =>
    simp only [bodyStep] at houtput
    cases hread : readBoundedJsonBody maxBytes framing body <;> rw [hread] at houtput <;>
      cases houtput
  | release index => cases houtput
  | recordContentLength present => cases houtput
  | recordOutcome code => cases houtput
  | takeRuntimeSnapshot => cases houtput

theorem bodyStep_rejected (call : BodyCall) (state : BodyAdmission) :
    CountsRejection (stepOf bodyStep state call) := by
  intro houtput
  have houtput : (bodyStep call state).1 = .rejected := houtput
  cases call with
  | tryAcquire bodyBytes =>
    show (bodyStep (.tryAcquire bodyBytes) state).2 = _
    simp only [bodyStep] at houtput ⊢
    cases hacquire : state.capacity.tryAcquire bodyBytes with
    | error e =>
      rw [hacquire] at houtput
      cases houtput
    | ok answer =>
      obtain ⟨given, after⟩ := answer
      rw [hacquire] at houtput
      obtain ⟨units, -, ⟨rfl, -, rfl⟩ | ⟨rfl, -, rfl⟩⟩ := tryAcquire_eq_ok hacquire
      · rfl
      · cases houtput
  | updateMemory sample =>
    simp only [bodyStep] at houtput
    cases hupdate : state.capacity.updateMemory sample <;> rw [hupdate] at houtput <;> cases houtput
  | readBody maxBytes framing body =>
    simp only [bodyStep] at houtput
    cases hread : readBoundedJsonBody maxBytes framing body <;> rw [hread] at houtput <;>
      cases houtput
  | release index => cases houtput
  | recordContentLength present => cases houtput
  | recordOutcome code => cases houtput
  | takeRuntimeSnapshot => cases houtput

/-- **Body capacity is never over-committed.** -/
theorem bodyCapacity_never_overcommitted (calls : List BodyCall) :
    (final bodyStep {} calls).capacity.usedUnits = liveUnits (final bodyStep {} calls).leases ∧
      0 ≤ (final bodyStep {} calls).capacity.usedUnits ∧
      ∀ t ∈ trace bodyStep {} calls, FitsWhenGranted t ∧ CountsRejection t := by
  have hbalanced : Balanced (final bodyStep {} calls) :=
    invariant_final bodyStep_balanced balanced_initial calls
  refine ⟨hbalanced.usedUnits_eq, ?_, ?_⟩
  · rw [hbalanced.usedUnits_eq]
    exact liveUnits_nonneg hbalanced.units_pos
  · intro t ht
    rw [eq_stepOf_of_mem ht]
    exact ⟨bodyStep_granted _ _, bodyStep_rejected _ _⟩

/-- A rejected request leaves a trace besides the memory sample. -/
theorem rejection_is_counted :
    ¬∀ (calls : List BodyCall), ∀ t ∈ trace bodyStep {} calls, t.output = .rejected →
      ∃ sample, t.after = { t.before with
        capacity := { t.before.capacity with memorySample := sample } } := by
  intro hall
  have hrejected : (stepOf bodyStep {} (.tryAcquire 0)).output = .rejected := by decide
  obtain ⟨sample, hafter⟩ := hall [.tryAcquire 0] (stepOf bodyStep {} (.tryAcquire 0))
    List.mem_cons_self hrejected
  have hcount : 1 = 0 :=
    congrArg (fun s : BodyAdmission => s.capacity.outcomeCounts.capacityExceeded) hafter
  cases hcount

end Frely.Gateway
