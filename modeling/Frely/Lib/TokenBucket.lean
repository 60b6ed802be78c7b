import Mathlib.Data.List.Count
import Mathlib.Tactic.Linarith

/-!
# Token buckets

A bucket holds at most `capacity` tokens and gains `rate` of them in a unit of time.  `Filled` is
what its level says about the moments at which tokens were spent: since any earlier moment, the
spent tokens and the level together are no more than a full bucket and what flowed in since then.
Waiting (`Filled.wait`), losing tokens (`Filled.lose`) and spending one (`Filled.spend`) keep it,
and it bounds the spendings of any stretch of time.
-/

namespace TokenBucket

/-- How many moments are no earlier than `first`. -/
def since (first : Int) (moments : List Int) : Nat := moments.countP (first ≤ ·)

/-- How many moments are in a closed stretch of time. -/
def between (first last : Int) (moments : List Int) : Nat :=
  moments.countP fun moment => first ≤ moment ∧ moment ≤ last

structure Filled (capacity rate : ℚ) (now : Int) (level : ℚ) (moments : List Int) : Prop where
  level_nonneg : 0 ≤ level
  level_le : level ≤ capacity
  past : ∀ moment ∈ moments, moment ≤ now
  since_le : ∀ first ≤ now, since first moments + level ≤ capacity + rate * (now - first)
  between_le : ∀ first last, first ≤ last →
    between first last moments ≤ capacity + rate * (last - first)

variable {capacity rate level : ℚ} {now : Int} {moments : List Int}

/-- A full bucket that no token was taken from. -/
theorem filled_nil (hcapacity : 0 ≤ capacity) (hrate : 0 ≤ rate) :
    Filled capacity rate now capacity [] where
  level_nonneg := hcapacity
  level_le := le_refl _
  past := by simp
  since_le := by
    intro first hfirst
    have hgain : 0 ≤ rate * ((now : ℚ) - first) :=
      mul_nonneg hrate (sub_nonneg.mpr (Int.cast_le.mpr hfirst))
    simpa [since] using hgain
  between_le := by
    intro first last hle
    have hgain : 0 ≤ rate * ((last : ℚ) - first) :=
      mul_nonneg hrate (sub_nonneg.mpr (Int.cast_le.mpr hle))
    have hzero : between first last [] = 0 := rfl
    rw [hzero]
    push_cast
    linarith

theorem since_eq_zero {first : Int} (h : ∀ moment ∈ moments, moment < first) :
    since first moments = 0 := by
  apply List.countP_eq_zero.mpr
  intro moment hmem
  have hlt := h moment hmem
  simp only [decide_eq_true_eq]
  omega

/-- Later, with no more than what flowed in and no more than the bucket holds. -/
theorem Filled.wait (h : Filled capacity rate now level moments) (hrate : 0 ≤ rate) {later : Int}
    (hlater : now ≤ later) {newLevel : ℚ} (hnonneg : 0 ≤ newLevel) (hcapacity : newLevel ≤ capacity)
    (hgain : newLevel ≤ level + rate * (later - now)) :
    Filled capacity rate later newLevel moments where
  level_nonneg := hnonneg
  level_le := hcapacity
  past := fun moment hmem => le_trans (h.past moment hmem) hlater
  since_le := by
    intro first hfirst
    by_cases hpast : first ≤ now
    · have hbefore := h.since_le first hpast
      have hsplit : rate * ((later : ℚ) - first) = rate * (now - first) + rate * (later - now) := by
        rw [← mul_add]
        congr 1
        linarith
      linarith
    · -- no token was spent since `first`
      have hzero : since first moments = 0 := by
        apply since_eq_zero
        intro moment hmem
        have hle := h.past moment hmem
        omega
      have hflow : 0 ≤ rate * ((later : ℚ) - first) :=
        mul_nonneg hrate (sub_nonneg.mpr (Int.cast_le.mpr hfirst))
      rw [hzero]
      push_cast
      linarith
  between_le := h.between_le

/-- Tokens may be lost. -/
theorem Filled.lose (h : Filled capacity rate now level moments) {newLevel : ℚ}
    (hnonneg : 0 ≤ newLevel) (hle : newLevel ≤ level) :
    Filled capacity rate now newLevel moments where
  level_nonneg := hnonneg
  level_le := le_trans hle h.level_le
  past := h.past
  since_le := by
    intro first hfirst
    have hbefore := h.since_le first hfirst
    linarith
  between_le := h.between_le

theorem between_le_since (first last : Int) (moments : List Int) :
    between first last moments ≤ since first moments := by
  apply List.countP_mono_left
  intro moment _ hin
  have hboth : first ≤ moment ∧ moment ≤ last := of_decide_eq_true hin
  exact decide_eq_true hboth.1

/-- One token is spent now. -/
theorem Filled.spend (h : Filled capacity rate now level moments) (hrate : 0 ≤ rate)
    (hlevel : 1 ≤ level) : Filled capacity rate now (level - 1) (moments ++ [now]) where
  level_nonneg := by linarith
  level_le := by
    have hle := h.level_le
    linarith
  past := by
    intro moment hmem
    rcases List.mem_append.mp hmem with hold | hnew
    · exact h.past moment hold
    · rw [List.mem_singleton.mp hnew]
  since_le := by
    intro first hfirst
    have hbefore := h.since_le first hfirst
    have hcount : since first (moments ++ [now]) = since first moments + 1 := by
      simp [since, hfirst]
    rw [hcount]
    push_cast
    linarith
  between_le := by
    intro first last hle
    by_cases hin : first ≤ now ∧ now ≤ last
    · have hbefore := h.since_le first hin.1
      have hcount : between first last (moments ++ [now]) ≤ since first moments + 1 := by
        have hpart := between_le_since first last moments
        simp only [between, List.countP_append] at hpart ⊢
        have hone : List.countP (fun moment => decide (first ≤ moment ∧ moment ≤ last)) [now] ≤ 1 :=
          List.countP_le_length
        omega
      have hcast : (between first last (moments ++ [now]) : ℚ) ≤ since first moments + 1 := by
        exact_mod_cast hcount
      have hflow : rate * ((now : ℚ) - first) ≤ rate * (last - first) := by
        apply mul_le_mul_of_nonneg_left _ hrate
        have hnow : (now : ℚ) ≤ last := Int.cast_le.mpr hin.2
        linarith
      linarith
    · -- the new moment is outside
      have hcount : between first last (moments ++ [now]) = between first last moments := by
        simp [between, hin]
      rw [hcount]
      exact h.between_le first last hle

end TokenBucket
