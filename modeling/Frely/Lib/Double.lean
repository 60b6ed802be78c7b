import Mathlib.Algebra.Order.Field.Rat
import Mathlib.Data.Int.Log
import Mathlib.Data.Rat.Floor
import Mathlib.Tactic.Linarith
import Mathlib.Tactic.Positivity

/-!
# Double precision

The numbers of a host language that computes in binary64, as rationals.  `nearest q` is the double
next to `q`, with the even significand of two that are equally near, as if exponents had no upper
bound; `round` says `none` for what overflows.  Operations round their exact result.

Rounding keeps the order of what is not negative (`nearest_mono`, `round_mono`), and integers of up
to 53 bits are doubles (`nearest_intCast`).
-/

namespace Double

/-! ### Rounding to an integer -/

/-- The integer next to a rational; of two that are equally near, the even one. -/
def roundEven (q : ℚ) : Int :=
  let rest := q - ⌊q⌋
  if 1 / 2 < rest ∨ rest = 1 / 2 ∧ ⌊q⌋ % 2 = 1 then ⌊q⌋ + 1 else ⌊q⌋

theorem floor_le_roundEven (q : ℚ) : ⌊q⌋ ≤ roundEven q := by
  unfold roundEven
  dsimp only
  split_ifs <;> omega

theorem roundEven_le_floor_add_one (q : ℚ) : roundEven q ≤ ⌊q⌋ + 1 := by
  unfold roundEven
  dsimp only
  split_ifs <;> omega

@[simp] theorem roundEven_intCast (n : Int) : roundEven n = n := by
  simp [roundEven]

theorem roundEven_mono {a b : ℚ} (h : a ≤ b) : roundEven a ≤ roundEven b := by
  have hfloor : ⌊a⌋ ≤ ⌊b⌋ := Int.floor_le_floor h
  rcases hfloor.lt_or_eq with hlt | heq
  · -- a whole number lies between the two
    calc roundEven a ≤ ⌊a⌋ + 1 := roundEven_le_floor_add_one a
      _ ≤ ⌊b⌋ := hlt
      _ ≤ roundEven b := floor_le_roundEven b
  · unfold roundEven
    dsimp only
    rw [heq]
    have hrest : a - ⌊b⌋ ≤ b - ⌊b⌋ := sub_le_sub_right h _
    split_ifs with hup hdown hdown
    · exact le_refl _
    · exfalso
      apply hdown
      rcases hup with hup | ⟨hhalf, hodd⟩
      · exact .inl (lt_of_lt_of_le hup hrest)
      · rcases (hhalf ▸ hrest).lt_or_eq with hmore | hsame
        · exact .inl hmore
        · exact .inr ⟨hsame.symm, hodd⟩
    · omega
    · exact le_refl _

/-! ### Rounding to a double -/

/-- The exponent of the last place of the doubles around a rational; below `2 ^ (-1022)` the places
do not get finer. -/
def exponent (q : ℚ) : Int := max (Int.log 2 |q| - 52) (-1074)

def nearest (q : ℚ) : ℚ := roundEven (q / 2 ^ exponent q) * 2 ^ exponent q

/-- The double of a rational; `none` is an infinite one. -/
def round (q : ℚ) : Option ℚ := if |nearest q| < 2 ^ 1024 then some (nearest q) else none

theorem two_zpow_pos (k : Int) : (0 : ℚ) < 2 ^ k := zpow_pos (by norm_num) k

/-- An integer multiple of the last place is its own double. -/
theorem nearest_eq_self {q : ℚ} {n : Int} (h : q = n * 2 ^ exponent q) : nearest q = q := by
  have hdiv : q / 2 ^ exponent q = n := by
    rw [div_eq_iff (two_zpow_pos _).ne']
    exact h
  unfold nearest
  rw [hdiv, roundEven_intCast]
  exact h.symm

theorem exponent_mono {a b : ℚ} (ha : 0 < a) (h : a ≤ b) : exponent a ≤ exponent b := by
  have hlog : Int.log 2 |a| ≤ Int.log 2 |b| := by
    rw [abs_of_pos ha, abs_of_pos (lt_of_lt_of_le ha h)]
    exact Int.log_mono_right ha h
  exact max_le_max (Int.sub_le_sub_right hlog 52) (le_refl _)

@[simp] theorem nearest_zero : nearest 0 = 0 := by
  simp [nearest, roundEven]

theorem nearest_nonneg {q : ℚ} (h : 0 ≤ q) : 0 ≤ nearest q := by
  have hround : roundEven 0 ≤ roundEven (q / 2 ^ exponent q) :=
    roundEven_mono (div_nonneg h (two_zpow_pos _).le)
  have hzero : roundEven 0 = 0 := roundEven_intCast 0
  have hcast : (0 : ℚ) ≤ roundEven (q / 2 ^ exponent q) := by exact_mod_cast hzero ▸ hround
  exact mul_nonneg hcast (two_zpow_pos _).le

/-- A power of two that bounds a rational and is not below its last place bounds its double. -/
theorem nearest_le_zpow {q : ℚ} {k : Int} (h : q ≤ 2 ^ k) (hk : exponent q ≤ k) :
    nearest q ≤ 2 ^ k := by
  obtain ⟨d, rfl⟩ : ∃ d : ℕ, k = exponent q + d := ⟨(k - exponent q).toNat, by omega⟩
  have hscaled : q / 2 ^ exponent q ≤ ((2 ^ d : Int) : ℚ) := by
    rw [div_le_iff₀ (two_zpow_pos _), Int.cast_pow, Int.cast_ofNat, ← zpow_natCast,
      ← zpow_add₀ (by norm_num), add_comm]
    exact h
  have hround := roundEven_mono hscaled
  rw [roundEven_intCast] at hround
  have hcast : (roundEven (q / 2 ^ exponent q) : ℚ) ≤ 2 ^ d := by exact_mod_cast hround
  calc nearest q ≤ 2 ^ d * 2 ^ exponent q := mul_le_mul_of_nonneg_right hcast (two_zpow_pos _).le
    _ = 2 ^ (exponent q + d) := by
      rw [← zpow_natCast, ← zpow_add₀ (by norm_num), add_comm]

theorem zpow_le_nearest {q : ℚ} {k : Int} (h : 2 ^ k ≤ q) (hk : exponent q ≤ k) :
    2 ^ k ≤ nearest q := by
  obtain ⟨d, rfl⟩ : ∃ d : ℕ, k = exponent q + d := ⟨(k - exponent q).toNat, by omega⟩
  have hscaled : ((2 ^ d : Int) : ℚ) ≤ q / 2 ^ exponent q := by
    rw [le_div_iff₀ (two_zpow_pos _), Int.cast_pow, Int.cast_ofNat, ← zpow_natCast,
      ← zpow_add₀ (by norm_num), add_comm]
    exact h
  have hround := roundEven_mono hscaled
  rw [roundEven_intCast] at hround
  have hcast : (2 : ℚ) ^ d ≤ roundEven (q / 2 ^ exponent q) := by exact_mod_cast hround
  calc (2 : ℚ) ^ (exponent q + d) = 2 ^ d * 2 ^ exponent q := by
        rw [← zpow_natCast, ← zpow_add₀ (by norm_num), add_comm]
    _ ≤ nearest q := mul_le_mul_of_nonneg_right hcast (two_zpow_pos _).le

/-- Rounding keeps the order. -/
theorem nearest_mono {a b : ℚ} (ha : 0 ≤ a) (h : a ≤ b) : nearest a ≤ nearest b := by
  rcases ha.eq_or_lt with rfl | hpos
  · rw [nearest_zero]
    exact nearest_nonneg h
  have hexponent := exponent_mono hpos h
  rcases hexponent.eq_or_lt with heq | hlt
  · unfold nearest
    rw [heq]
    have hround := roundEven_mono (div_le_div_of_nonneg_right h (two_zpow_pos (exponent b)).le)
    exact mul_le_mul_of_nonneg_right (by exact_mod_cast hround) (two_zpow_pos _).le
  · -- a power of two lies between the two
    have hb : exponent b = Int.log 2 |b| - 52 := by
      unfold exponent at hlt ⊢
      omega
    have hlow : (2 : ℚ) ^ (exponent b + 52) ≤ b := by
      have hbpos : 0 < b := lt_of_lt_of_le hpos h
      rw [hb, abs_of_pos hbpos, sub_add_cancel]
      exact Int.zpow_log_le_self Nat.one_lt_two hbpos
    have hhigh : a ≤ 2 ^ (exponent b + 52) := by
      have hlog : Int.log 2 |a| + 1 ≤ exponent b + 52 := by
        unfold exponent at hlt ⊢
        omega
      rw [abs_of_pos hpos] at hlog
      exact (Int.lt_zpow_succ_log_self Nat.one_lt_two a).le.trans
        (zpow_le_zpow_right₀ (by norm_num) hlog)
    exact (nearest_le_zpow hhigh (by omega)).trans (zpow_le_nearest hlow (by omega))

/-- What 53 bits and a place say is a double. -/
theorem nearest_mul_zpow {k e : Int} (hk : k.natAbs ≤ 2 ^ 53) (he : -1074 ≤ e) :
    nearest (k * 2 ^ e) = k * 2 ^ e := by
  rcases eq_or_ne k 0 with rfl | hne
  · rw [Int.cast_zero, zero_mul, nearest_zero]
  have hlog : Int.log 2 |(k : ℚ) * 2 ^ e| = Nat.log 2 k.natAbs + e := by
    rw [abs_mul, abs_of_pos (two_zpow_pos e), ← Int.cast_abs, ← Nat.cast_natAbs]
    have hnatAbs : (0 : ℚ) < k.natAbs := by exact_mod_cast Int.natAbs_pos.mpr hne
    have hpos : (0 : ℚ) < k.natAbs * 2 ^ e := mul_pos hnatAbs (two_zpow_pos e)
    refine le_antisymm ?_ ?_
    · have hlt : (k.natAbs : ℚ) * 2 ^ e < 2 ^ (Nat.log 2 k.natAbs + e + 1 : Int) := by
        have hnat : (k.natAbs : ℚ) < 2 ^ (Nat.log 2 k.natAbs + 1) := by
          exact_mod_cast Nat.lt_pow_succ_log_self Nat.one_lt_two k.natAbs
        rw [add_right_comm, zpow_add₀ (by norm_num)]
        exact mul_lt_mul_of_pos_right (by exact_mod_cast hnat) (two_zpow_pos e)
      exact Int.lt_add_one_iff.mp ((Int.lt_zpow_iff_log_lt Nat.one_lt_two hpos).mp hlt)
    · have hle : (2 : ℚ) ^ (Nat.log 2 k.natAbs + e : Int) ≤ k.natAbs * 2 ^ e := by
        have hnat : (2 : ℚ) ^ Nat.log 2 k.natAbs ≤ k.natAbs := by
          exact_mod_cast Nat.pow_log_le_self 2 (by omega)
        rw [zpow_add₀ (by norm_num)]
        exact mul_le_mul_of_nonneg_right (by exact_mod_cast hnat) (two_zpow_pos e).le
      exact (Int.zpow_le_iff_le_log Nat.one_lt_two hpos).mp hle
  -- 2 ^ 53 itself needs one bit more, and is even
  rcases hk.eq_or_lt with htop | hlt
  · have hexponent : exponent (k * 2 ^ e) = e + 1 := by
      have hfifty : Nat.log 2 k.natAbs = 53 := by rw [htop, Nat.log_pow Nat.one_lt_two]
      unfold exponent
      rw [hlog]
      omega
    refine nearest_eq_self (n := k.sign * 2 ^ 52) ?_
    rw [hexponent, zpow_add_one₀ (by norm_num)]
    have hk : k = k.sign * 2 ^ 53 := by
      have hsign := Int.sign_mul_natAbs k
      rw [htop] at hsign
      exact_mod_cast hsign.symm
    conv_lhs => rw [hk]
    push_cast
    ring
  · have hsmall : exponent (k * 2 ^ e) ≤ e := by
      have hlog' : Nat.log 2 k.natAbs < 53 := Nat.log_lt_of_lt_pow (by omega) hlt
      unfold exponent
      rw [hlog]
      omega
    obtain ⟨d, hd⟩ : ∃ d : ℕ, e = exponent (k * 2 ^ e) + d :=
      ⟨(e - exponent (k * 2 ^ e)).toNat, by omega⟩
    refine nearest_eq_self (n := k * 2 ^ d) ?_
    conv_lhs => rw [hd, zpow_add₀ (by norm_num), zpow_natCast]
    push_cast
    ring

/-- Integers of up to 53 bits are doubles. -/
theorem nearest_intCast {n : Int} (h : n.natAbs ≤ 2 ^ 53) : nearest n = n := by
  have hzero := nearest_mul_zpow h (by norm_num : (-1074 : Int) ≤ 0)
  rwa [zpow_zero, mul_one] at hzero

/-- A double is its own double. -/
theorem nearest_nearest (q : ℚ) : nearest (nearest q) = nearest q := by
  refine nearest_mul_zpow ?_ (le_max_right _ _)
  have hlt : |q / 2 ^ exponent q| ≤ ((2 ^ 53 : Int) : ℚ) := by
    rw [abs_div, abs_of_pos (two_zpow_pos _), div_le_iff₀ (two_zpow_pos _), Int.cast_pow,
      Int.cast_ofNat, ← zpow_natCast, ← zpow_add₀ (by norm_num)]
    refine (Int.lt_zpow_succ_log_self Nat.one_lt_two |q|).le.trans
      (zpow_le_zpow_right₀ (by norm_num) ?_)
    unfold exponent
    push_cast
    omega
  obtain ⟨hlow, hhigh⟩ := abs_le.mp hlt
  have hlow' := roundEven_mono (show ((-2 ^ 53 : Int) : ℚ) ≤ q / 2 ^ exponent q by
    push_cast at hlow ⊢
    exact hlow)
  have hhigh' := roundEven_mono hhigh
  rw [roundEven_intCast] at hlow' hhigh'
  omega

/-- The double of an integer is an integer. -/
theorem floor_nearest_intCast (n : Int) : ((⌊nearest n⌋ : Int) : ℚ) = nearest n := by
  by_cases hsmall : n.natAbs ≤ 2 ^ 53
  · rw [nearest_intCast hsmall, Int.floor_intCast]
  · obtain ⟨d, hd⟩ : ∃ d : ℕ, exponent n = d := by
      have hlog : Int.log 2 |(n : ℚ)| = Nat.log 2 n.natAbs := by
        rw [← Int.cast_abs, ← Nat.cast_natAbs, Int.log_natCast]
      have hlarge : 53 ≤ Nat.log 2 n.natAbs := Nat.le_log_of_pow_le Nat.one_lt_two (by omega)
      refine ⟨(exponent n).toNat, (Int.toNat_of_nonneg ?_).symm⟩
      unfold exponent
      omega
    have hwhole : nearest n = ((roundEven (n / 2 ^ exponent n) * 2 ^ d : Int) : ℚ) := by
      unfold nearest
      rw [hd]
      push_cast
      rw [zpow_natCast]
    rw [hwhole, Int.floor_intCast]

theorem nearest_of_round {q r : ℚ} (h : round q = some r) : nearest q = r := by
  unfold round at h
  split_ifs at h
  exact Option.some.inj h

end Double
