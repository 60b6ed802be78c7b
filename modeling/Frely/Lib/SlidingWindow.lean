import Mathlib.Data.List.Count

/-!
# At most so many in any window

Events at moments that never go back, of which at most `limit` may fall into any window of a given
width.  It is enough to look at the recent ones when an event is admitted, `WithinLimit.concat`; and
for that it is enough to keep the recent ones, `Tracks`.
-/

namespace SlidingWindow

/-- The moments after `now - width`. -/
def recent (width now : Int) (moments : List Int) : List Int :=
  moments.filter fun moment => now - width < moment

theorem recent_recent (width now : Int) (moments : List Int) :
    recent width now (recent width now moments) = recent width now moments := by
  unfold recent
  rw [List.filter_filter]
  simp only [Bool.and_self]

/-- How many moments a window that ends at `last` has; it is open at its start. -/
def inWindow (width last : Int) (moments : List Int) : Nat :=
  moments.countP fun moment => last - width < moment ∧ moment ≤ last

def WithinLimit (limit : Int) (width : Int) (moments : List Int) : Prop :=
  ∀ last, inWindow width last moments ≤ limit

variable {limit width now : Int} {moments kept : List Int}

theorem withinLimit_nil (h : 0 ≤ limit) : WithinLimit limit width [] := fun _ => h

theorem inWindow_append (last : Int) (more : List Int) :
    inWindow width last (moments ++ more) =
      inWindow width last moments + inWindow width last more :=
  List.countP_append

/-- An event that has fewer than `limit` events before it in the window that ends with it. -/
theorem WithinLimit.concat (h : WithinLimit limit width moments)
    (hpast : ∀ moment ∈ moments, moment ≤ now)
    (hroom : (recent width now moments).length < limit) :
    WithinLimit limit width (moments ++ [now]) := by
  intro last
  rw [inWindow_append]
  have hone : inWindow width last [now] ≤ 1 := List.countP_le_length
  by_cases hnow : now ≤ last
  · -- what the window has of the moments before is recent
    have hrecent : inWindow width last moments ≤ (recent width now moments).length := by
      unfold inWindow recent
      rw [← List.countP_eq_length_filter]
      apply List.countP_mono_left
      intro moment _ hin
      have hafter : last - width < moment ∧ moment ≤ last := of_decide_eq_true hin
      apply decide_eq_true
      omega
    omega
  · -- the window ends before the event
    have hnone : inWindow width last [now] = 0 := by
      apply List.countP_eq_zero.mpr
      intro moment hmem
      rw [List.mem_singleton] at hmem
      subst hmem
      intro hin
      have hbefore : last - width < moment ∧ moment ≤ last := of_decide_eq_true hin
      omega
    have hbefore := h last
    omega

/-- From `now` on, the kept moments are as good as all. -/
def Tracks (width now : Int) (kept moments : List Int) : Prop :=
  ∀ later, now ≤ later → recent width later kept = recent width later moments

theorem tracks_refl : Tracks width now moments moments := fun _ _ => rfl

theorem Tracks.mono (h : Tracks width now kept moments) {later : Int} (hle : now ≤ later) :
    Tracks width later kept moments := by
  intro last hlast
  exact h last (by omega)

/-- Moments that are not recent need not be kept. -/
theorem Tracks.recent (h : Tracks width now kept moments) :
    Tracks width now (recent width now kept) moments := by
  intro later hlater
  have htwice : SlidingWindow.recent width later (SlidingWindow.recent width now kept) =
      SlidingWindow.recent width later kept := by
    unfold SlidingWindow.recent
    rw [List.filter_filter]
    apply List.filter_congr
    intro moment _
    by_cases hmoment : later - width < moment
    · have hnow : now - width < moment := by omega
      simp [hmoment, hnow]
    · simp [hmoment]
  rw [htwice, h later hlater]

theorem Tracks.concat (h : Tracks width now kept moments) (moment : Int) :
    Tracks width now (kept ++ [moment]) (moments ++ [moment]) := by
  intro later hlater
  have hkept := h later hlater
  unfold SlidingWindow.recent at hkept ⊢
  rw [List.filter_append, List.filter_append, hkept]

end SlidingWindow
