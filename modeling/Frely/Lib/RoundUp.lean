import Mathlib.Algebra.BigOperators.Group.List.Lemmas
import Mathlib.Tactic.Linarith
import Mathlib.Tactic.Ring

/-!
# Rounding a quotient up

`divUp a b` is the integer quotient `a / b` rounded up, computed as `(a + b - 1) / b`, and
`padding a b` is what has to be added to `a` to reach the multiple of `b` it is rounded up to, so
that `b * divUp a b = a + padding a b` (`mul_divUp`).  Sums of rounded quotients are compared by
multiplying through by `b`: the roundings then only show up as paddings
(`sum_divUp_le_sum_divUp_iff`), and `divUp` is the left adjoint of `b * ·` (`divUp_le_iff`), from
which the inequalities between one rounded product and several follow.
-/

namespace RoundUp

/-- `a / b` rounded up, for a positive `b`. -/
def divUp (a b : Int) : Int := (a + b - 1) / b

/-- The distance from `a` up to the next multiple of `b`. -/
def padding (a b : Int) : Int := -a % b

variable {a b c : Int}

theorem padding_nonneg (hb : 0 < b) : 0 ≤ padding a b :=
  Int.emod_nonneg _ hb.ne'

theorem padding_lt (hb : 0 < b) : padding a b < b :=
  Int.emod_lt_of_pos _ hb

@[simp] theorem divUp_zero (hb : 0 < b) : divUp 0 b = 0 := by
  unfold divUp
  exact Int.ediv_eq_zero_of_lt (by omega) (by omega)

/-- **Adjunction**: `divUp a b` is the least `c` with `a ≤ b * c`. -/
theorem divUp_le_iff (hb : 0 < b) : divUp a b ≤ c ↔ a ≤ b * c := by
  have hlt : divUp a b < c + 1 ↔ a + b - 1 < (c + 1) * b := Int.ediv_lt_iff_lt_mul hb
  have hmul : (c + 1) * b = b * c + b := by ring
  rw [hmul] at hlt
  omega

theorem le_mul_divUp (hb : 0 < b) : a ≤ b * divUp a b :=
  (divUp_le_iff hb).mp le_rfl

theorem divUp_nonneg (hb : 0 < b) (ha : 0 ≤ a) : 0 ≤ divUp a b :=
  Int.ediv_nonneg (by omega) hb.le

theorem divUp_mono (hb : 0 < b) (h : a ≤ c) : divUp a b ≤ divUp c b :=
  (divUp_le_iff hb).mpr (h.trans (le_mul_divUp hb))

@[simp] theorem divUp_add_mul (hb : 0 < b) : divUp (a + b * c) b = divUp a b + c := by
  unfold divUp
  rw [show a + b * c + b - 1 = a + b - 1 + b * c by ring, Int.add_mul_ediv_left _ _ hb.ne']

@[simp] theorem divUp_mul_self (hb : 0 < b) : divUp (b * c) b = c := by
  have h := divUp_add_mul (a := 0) (c := c) hb
  rwa [zero_add, divUp_zero hb, zero_add] at h

/-- The rounded quotient, multiplied back, is the dividend plus its padding. -/
theorem mul_divUp (hb : 0 < b) : b * divUp a b = a + padding a b := by
  have hdiv : -a = b * (-a / b) + padding a b := (Int.mul_ediv_add_emod (-a) b).symm
  have ha : a = (-padding a b) + b * (-(-a / b)) := by linarith
  have hpad : divUp (-padding a b) b = 0 := by
    have h0 := padding_nonneg (a := a) hb
    have hlt := padding_lt (a := a) hb
    unfold divUp
    exact Int.ediv_eq_zero_of_lt (by omega) (by omega)
  have hup : divUp a b = -(-a / b) := by
    conv_lhs => rw [ha]
    rw [divUp_add_mul hb, hpad, zero_add]
  rw [hup]
  linarith

/-- Multiplied back, a sum of rounded quotients is the sum of the dividends and of their
paddings. -/
theorem mul_sum_divUp (hb : 0 < b) (l : List Int) :
    b * (l.map (divUp · b)).sum = l.sum + (l.map (padding · b)).sum := by
  induction l with
  | nil => simp
  | cons x l ih =>
    simp only [List.map_cons, List.sum_cons]
    rw [mul_add, ih, mul_divUp hb]
    ring

/-- Two sums of rounded quotients compare as the sums of dividends and paddings do. -/
theorem sum_divUp_le_sum_divUp_iff (hb : 0 < b) (l m : List Int) :
    (l.map (divUp · b)).sum ≤ (m.map (divUp · b)).sum ↔
      l.sum + (l.map (padding · b)).sum ≤ m.sum + (m.map (padding · b)).sum := by
  rw [← mul_sum_divUp hb, ← mul_sum_divUp hb]
  exact (Int.mul_le_mul_left hb).symm

/-- Below the last multiple of `b` under a price `w`, a rounded product costs at most its count
times that multiple, so it can be added to a product at `w` without a second rounding. -/
theorem divUp_mul_add_le {w s x n : Int} (hb : 0 < b) (hx : 0 ≤ x) (hs : s ≤ w / b * b) :
    divUp (n * w) b + divUp (x * s) b ≤ divUp ((n + x) * w) b := by
  have hfloor : w / b * b ≤ w := by
    have := Int.mul_ediv_add_emod w b
    have := Int.emod_nonneg w hb.ne'
    linarith [mul_comm b (w / b)]
  have hcheap : divUp (x * s) b ≤ x * (w / b) := by
    rw [divUp_le_iff hb]
    calc x * s ≤ x * (w / b * b) := mul_le_mul_of_nonneg_left hs hx
      _ = b * (x * (w / b)) := by ring
  have hsplit : n * w + b * (x * (w / b)) ≤ (n + x) * w := by
    have hmul := mul_le_mul_of_nonneg_left hfloor hx
    calc n * w + b * (x * (w / b)) = n * w + x * (w / b * b) := by ring
      _ ≤ n * w + x * w := by linarith
      _ = (n + x) * w := by ring
  calc divUp (n * w) b + divUp (x * s) b ≤ divUp (n * w) b + x * (w / b) := by linarith
    _ = divUp (n * w + b * (x * (w / b))) b := (divUp_add_mul hb).symm
    _ ≤ divUp ((n + x) * w) b := divUp_mono hb hsplit

/-- Above that multiple it cannot: `b - 1` units at the price `w` and one unit at a price between
the last multiple of `b` under `w` and `w` cost one more than `b` units at `w`. -/
theorem divUp_pred_mul_add_lt {w s : Int} (hb : 0 < b) (hs : w / b * b < s) (hsw : s ≤ w) :
    divUp (b * w) b < divUp ((b - 1) * w) b + divUp (1 * s) b := by
  have hdiv := Int.mul_ediv_add_emod w b
  have hmod := Int.emod_lt_of_pos w hb
  have hpos : 0 < w % b := by linarith [mul_comm b (w / b)]
  have hworst : w - w / b ≤ divUp ((b - 1) * w) b := by
    have hle := le_mul_divUp (a := (b - 1) * w) hb
    by_contra hlt
    have hstep : b * divUp ((b - 1) * w) b ≤ b * (w - w / b - 1) :=
      mul_le_mul_of_nonneg_left (by omega) hb.le
    nlinarith only [hle, hstep, hdiv, hmod]
  have hone : w / b + 1 ≤ divUp (1 * s) b := by
    have hle := le_mul_divUp (a := 1 * s) hb
    by_contra hlt
    have hstep : b * divUp (1 * s) b ≤ b * (w / b) :=
      mul_le_mul_of_nonneg_left (by omega) hb.le
    linarith [mul_comm b (w / b)]
  rw [divUp_mul_self hb]
  omega

end RoundUp
