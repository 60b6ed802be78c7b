import Frely.Billing.InvocationDomain
import Frely.Lib.RoundUp

/-!
# Correctness of the invocation charges

`maximumInvocationChargeUnits` rounds the whole input up once, at the worst input price, and
`actualInvocationChargeUnits` rounds every partition up by itself, so the charge of a usage inside
the admitted caps can exceed the charge admission held.

* `tokenChargeUnits_eq_ok_iff`, `maximumInvocationChargeUnits_eq_ok_iff` and
  `actualInvocationChargeUnits_eq_ok_iff` say when each function returns and what.
* `reservation_sound_iff`: the prices for which no usage can exceed its reservation are those
  whose second-largest input price is at most the last whole unit below the largest; and for one
  usage, the reservation is enough exactly when the partitions' round-up paddings fit in what the
  usage left unspent and in the paddings of the two admitted amounts.

Everything is compared after multiplying by `usdUnitsPerCredit` (`RoundUp.mul_divUp`).
-/

namespace Frely.Billing

open Checked RoundUp

theorem usdUnitsPerCredit_pos : 0 < usdUnitsPerCredit := by decide

/-! ### The checks -/

theorem assertNonNegative_eq_ok_iff {value : Int} {field : String} {u : Unit} :
    assertNonNegative value field = .ok u ↔ FitsInt64 value := by
  rw [assertNonNegative, rejectIf_eq_ok, FitsInt64]
  omega

theorem checkedBillingAdd_eq_ok_iff {left right c : Int} :
    checkedBillingAdd left right = .ok c ↔
      0 ≤ left ∧ 0 ≤ right ∧ left + right = c ∧ c ≤ billingMaxInt64 := by
  simp only [checkedBillingAdd, bind_eq_ok, rejectIf_eq_ok, pure_eq_ok, Except.ok.injEq]
  constructor
  · rintro ⟨-, h, rfl⟩
    omega
  · rintro ⟨hl, hr, rfl, hc⟩
    exact ⟨(), by omega, rfl⟩

theorem checkedTokenAdd_eq_ok_iff {left right c : Int} :
    checkedTokenAdd left right = .ok c ↔
      0 ≤ left ∧ 0 ≤ right ∧ left + right = c ∧ c ≤ billingMaxInt64 := by
  simp only [checkedTokenAdd, bind_eq_ok, rejectIf_eq_ok, pure_eq_ok, Except.ok.injEq]
  constructor
  · rintro ⟨-, h, rfl⟩
    omega
  · rintro ⟨hl, hr, rfl, hc⟩
    exact ⟨(), by omega, rfl⟩

/-- The charge of some tokens is the rounded-up price, also where the source returns early. -/
theorem tokenChargeUnits_eq_ok_iff {tokens price c : Int} :
    tokenChargeUnits tokens price = .ok c ↔
      FitsInt64 tokens ∧ FitsInt64 price ∧ divUp (tokens * price) usdUnitsPerCredit = c ∧
        c ≤ billingMaxInt64 := by
  have hrange : ¬(tokens < 0 ∨ billingMaxInt64 < tokens ∨ price < 0 ∨ billingMaxInt64 < price) ↔
      FitsInt64 tokens ∧ FitsInt64 price := by
    unfold FitsInt64
    omega
  simp only [tokenChargeUnits, bind_eq_ok, rejectIf_eq_ok, hrange]
  by_cases hzero : tokens = 0 ∨ price = 0
  · -- the early return: a product with a zero factor rounds to zero
    have hprod : tokens * price = 0 := by
      rcases hzero with rfl | rfl <;> simp
    rw [hprod, divUp_zero usdUnitsPerCredit_pos]
    simp only [if_pos hzero, pure_eq_ok, Except.ok.injEq, exists_const, and_assoc]
    constructor
    · rintro ⟨ht, hp, rfl⟩
      exact ⟨ht, hp, rfl, by decide⟩
    · rintro ⟨ht, hp, hc, -⟩
      exact ⟨ht, hp, hc⟩
  · simp only [if_neg hzero, bind_eq_ok, rejectIf_eq_ok, pure_eq_ok, Except.ok.injEq]
    constructor
    · rintro ⟨-, ⟨ht, hp⟩, -, hle, rfl⟩
      exact ⟨ht, hp, rfl, by omega⟩
    · rintro ⟨ht, hp, rfl, hle⟩
      exact ⟨(), ⟨ht, hp⟩, (), by unfold divUp at hle; omega, rfl⟩

/-- What `validateUsage` promises about a usage. -/
structure ValidUsage (usage : InvocationUsageUnits) : Prop where
  input : FitsInt64 usage.inputTokens
  cached : FitsInt64 usage.cachedInputTokens
  cacheWrite : FitsInt64 usage.cacheWriteTokens
  output : FitsInt64 usage.outputTokens
  total : FitsInt64 usage.totalTokens
  total_eq : usage.inputTokens + usage.outputTokens = usage.totalTokens
  partitions : usage.cachedInputTokens + usage.cacheWriteTokens ≤ usage.inputTokens

theorem validateUsage_eq_ok_iff {usage : InvocationUsageUnits} {u : Unit} :
    validateUsage usage = .ok u ↔ ValidUsage usage := by
  simp only [validateUsage, bind_eq_ok, assertNonNegative_eq_ok_iff, checkedTokenAdd_eq_ok_iff,
    rejectIf_eq_ok]
  constructor
  · rintro ⟨-, hi, -, hc, -, hw, -, ho, -, ht, total, ⟨-, -, rfl, -⟩, -, heq, hpart⟩
    exact ⟨hi, hc, hw, ho, ht, by omega, by omega⟩
  · rintro ⟨hi, hc, hw, ho, ht, heq, hpart⟩
    exact ⟨(), hi, (), hc, (), hw, (), ho, (), ht, _,
      ⟨hi.1, ho.1, rfl, by rw [heq]; exact ht.2⟩, (), by omega, by omega⟩

theorem ValidUsage.uncached {usage : InvocationUsageUnits} (h : ValidUsage usage) :
    FitsInt64 usage.uncachedInputTokens := by
  have hi := h.input
  have hc := h.cached
  have hw := h.cacheWrite
  have hp := h.partitions
  unfold FitsInt64 InvocationUsageUnits.uncachedInputTokens at *
  omega

/-! ### Prices -/

namespace FrozenPriceUnits

/-- Every component fits its column, as the price guards demand. -/
structure InRange (price : FrozenPriceUnits) : Prop where
  input : FitsInt64 price.inputPriceUnitsPer1M
  cached : FitsInt64 price.cachedInputPriceUnitsPer1M
  cacheWrite : ∀ units ∈ price.cacheWritePriceUnitsPer1M, FitsInt64 units
  output : FitsInt64 price.outputPriceUnitsPer1M

/-- The second largest of the three prices an input token can be charged at. -/
def secondInputPrice (price : FrozenPriceUnits) : Int :=
  max (min price.inputPriceUnitsPer1M price.cachedInputPriceUnitsPer1M)
    (min (max price.inputPriceUnitsPer1M price.cachedInputPriceUnitsPer1M)
      price.cacheWriteOrInput)

variable {price : FrozenPriceUnits}

theorem InRange.cacheWriteOrInput (h : price.InRange) : FitsInt64 price.cacheWriteOrInput := by
  unfold FrozenPriceUnits.cacheWriteOrInput
  cases hcw : price.cacheWritePriceUnitsPer1M with
  | none => exact h.input
  | some units => exact h.cacheWrite units hcw

theorem InRange.worstInputPrice_eq (h : price.InRange) :
    price.worstInputPrice = max (max price.inputPriceUnitsPer1M price.cachedInputPriceUnitsPer1M)
      price.cacheWriteOrInput := by
  have hi := h.input.1
  simp only [FrozenPriceUnits.worstInputPrice, List.foldl_cons, List.foldl_nil]
  split_ifs <;> omega

theorem InRange.worstInputPrice (h : price.InRange) : FitsInt64 price.worstInputPrice := by
  rw [h.worstInputPrice_eq]
  have hi := h.input
  have hc := h.cached
  have hw := h.cacheWriteOrInput
  unfold FitsInt64 at *
  omega

end FrozenPriceUnits

/-! ### What the two charges are -/

section Charges

variable {price : FrozenPriceUnits} {usage : InvocationUsageUnits} {inputTokens maxOutputTokens
  c m : Int}

/-- The charge held by an admission, where it is computed. -/
theorem maximumInvocationChargeUnits_eq_ok_iff (hprice : price.InRange) :
    maximumInvocationChargeUnits inputTokens maxOutputTokens price = .ok m ↔
      FitsInt64 inputTokens ∧ FitsInt64 maxOutputTokens ∧
      divUp (inputTokens * price.worstInputPrice) usdUnitsPerCredit +
        divUp (maxOutputTokens * price.outputPriceUnitsPer1M) usdUnitsPerCredit = m ∧
      m ≤ billingMaxInt64 := by
  simp only [maximumInvocationChargeUnits, bind_eq_ok, assertNonNegative_eq_ok_iff,
    tokenChargeUnits_eq_ok_iff, checkedBillingAdd_eq_ok_iff]
  constructor
  · rintro ⟨-, hi, -, ho, i, ⟨-, -, rfl, -⟩, o, ⟨-, -, rfl, -⟩, -, -, rfl, hm⟩
    exact ⟨hi, ho, rfl, hm⟩
  · rintro ⟨hi, ho, rfl, hm⟩
    have hin : 0 ≤ divUp (inputTokens * price.worstInputPrice) usdUnitsPerCredit :=
      divUp_nonneg usdUnitsPerCredit_pos (mul_nonneg hi.1 hprice.worstInputPrice.1)
    have hout : 0 ≤ divUp (maxOutputTokens * price.outputPriceUnitsPer1M) usdUnitsPerCredit :=
      divUp_nonneg usdUnitsPerCredit_pos (mul_nonneg ho.1 hprice.output.1)
    exact ⟨(), hi, (), ho, _, ⟨hi, hprice.worstInputPrice, rfl, by omega⟩, _,
      ⟨ho, hprice.output, rfl, by omega⟩, hin, hout, rfl, hm⟩

/-- The exact price of every partition of a usage, in millionths of a unit. -/
def usagePartitionPrices (usage : InvocationUsageUnits) (price : FrozenPriceUnits) : List Int :=
  [usage.uncachedInputTokens * price.inputPriceUnitsPer1M,
    usage.cachedInputTokens * price.cachedInputPriceUnitsPer1M,
    usage.cacheWriteTokens * price.cacheWriteOrInput,
    usage.outputTokens * price.outputPriceUnitsPer1M]

/-- The exact price of an admission's two token caps, in millionths of a unit. -/
def admittedPartitionPrices (inputTokens maxOutputTokens : Int) (price : FrozenPriceUnits) :
    List Int :=
  [inputTokens * price.worstInputPrice, maxOutputTokens * price.outputPriceUnitsPer1M]

/-- The charge booked for a valid usage, where it is computed. -/
theorem actualInvocationChargeUnits_eq_ok_iff (hprice : price.InRange) (husage : ValidUsage usage) :
    actualInvocationChargeUnits usage price = .ok c ↔
      ((usagePartitionPrices usage price).map (divUp · usdUnitsPerCredit)).sum = c ∧
        c ≤ billingMaxInt64 := by
  have hx := husage.uncached
  have hu : 0 ≤ divUp (usage.uncachedInputTokens * price.inputPriceUnitsPer1M) usdUnitsPerCredit :=
    divUp_nonneg usdUnitsPerCredit_pos (mul_nonneg hx.1 hprice.input.1)
  have hc : 0 ≤ divUp (usage.cachedInputTokens * price.cachedInputPriceUnitsPer1M)
      usdUnitsPerCredit :=
    divUp_nonneg usdUnitsPerCredit_pos (mul_nonneg husage.cached.1 hprice.cached.1)
  have hw : 0 ≤ divUp (usage.cacheWriteTokens * price.cacheWriteOrInput) usdUnitsPerCredit :=
    divUp_nonneg usdUnitsPerCredit_pos
      (mul_nonneg husage.cacheWrite.1 hprice.cacheWriteOrInput.1)
  have ho : 0 ≤ divUp (usage.outputTokens * price.outputPriceUnitsPer1M) usdUnitsPerCredit :=
    divUp_nonneg usdUnitsPerCredit_pos (mul_nonneg husage.output.1 hprice.output.1)
  simp only [actualInvocationChargeUnits, bind_eq_ok, validateUsage_eq_ok_iff, rejectIf_eq_ok,
    tokenChargeUnits_eq_ok_iff, List.foldlM_cons, List.foldlM_nil, pure_eq_ok,
    checkedBillingAdd_eq_ok_iff, Except.ok.injEq, usagePartitionPrices, List.map_cons,
    List.map_nil, List.sum_cons, List.sum_nil]
  constructor
  · rintro ⟨-, -, -, -, u, ⟨-, -, rfl, -⟩, ca, ⟨-, -, rfl, -⟩, w, ⟨-, -, rfl, -⟩, o,
      ⟨-, -, rfl, -⟩, s1, ⟨-, -, rfl, -⟩, s2, ⟨-, -, rfl, -⟩, s3, ⟨-, -, rfl, -⟩, s4,
      ⟨-, -, rfl, hle⟩, rfl⟩
    omega
  · rintro ⟨rfl, hle⟩
    exact ⟨(), husage, (), by have := hx.1; omega, _, ⟨hx, hprice.input, rfl, by omega⟩, _,
      ⟨husage.cached, hprice.cached, rfl, by omega⟩, _,
      ⟨husage.cacheWrite, hprice.cacheWriteOrInput, rfl, by omega⟩, _,
      ⟨husage.output, hprice.output, rfl, by omega⟩, _, ⟨le_rfl, hu, rfl, by omega⟩, _,
      ⟨by omega, hc, rfl, by omega⟩, _, ⟨by omega, hw, rfl, by omega⟩, _,
      ⟨by omega, ho, rfl, by omega⟩, by omega⟩

/-- The usage is charged, and for no more than `m`. -/
def ChargedWithin (usage : InvocationUsageUnits) (price : FrozenPriceUnits) (m : Int) : Prop :=
  ∃ c, actualInvocationChargeUnits usage price = .ok c ∧ c ≤ m

/-- The usage passes its validation and stays inside the admitted token caps. -/
structure UsageWithin (usage : InvocationUsageUnits) (inputTokens maxOutputTokens : Int) :
    Prop where
  valid : validateUsage usage = .ok ()
  input : usage.inputTokens ≤ inputTokens
  output : usage.outputTokens ≤ maxOutputTokens

theorem chargedWithin_iff (hprice : price.InRange) (husage : ValidUsage usage)
    (hm : m ≤ billingMaxInt64) :
    ChargedWithin usage price m ↔
      ((usagePartitionPrices usage price).map (divUp · usdUnitsPerCredit)).sum ≤ m := by
  simp only [ChargedWithin, actualInvocationChargeUnits_eq_ok_iff hprice husage]
  constructor
  · rintro ⟨c, ⟨rfl, -⟩, hle⟩
    exact hle
  · intro hle
    exact ⟨_, ⟨rfl, hle.trans hm⟩, hle⟩

end Charges

/-! ### Reservation soundness -/

section Reservation

variable {price : FrozenPriceUnits} {usage : InvocationUsageUnits} {inputTokens maxOutputTokens
  m : Int}

/-- **One usage**: it stays inside the reservation exactly when the paddings of its four
partitions fit in what it left unspent and in the paddings of the two admitted amounts. -/
theorem chargedWithin_maximum_iff (hprice : price.InRange)
    (hmax : maximumInvocationChargeUnits inputTokens maxOutputTokens price = .ok m)
    (husage : ValidUsage usage) :
    ChargedWithin usage price m ↔
      (usagePartitionPrices usage price).sum +
          ((usagePartitionPrices usage price).map (padding · usdUnitsPerCredit)).sum ≤
        (admittedPartitionPrices inputTokens maxOutputTokens price).sum +
          ((admittedPartitionPrices inputTokens maxOutputTokens price).map
            (padding · usdUnitsPerCredit)).sum := by
  obtain ⟨-, -, hm, hle⟩ := (maximumInvocationChargeUnits_eq_ok_iff hprice).mp hmax
  have hsum : ((admittedPartitionPrices inputTokens maxOutputTokens price).map
      (divUp · usdUnitsPerCredit)).sum = m := by
    simpa [admittedPartitionPrices] using hm
  rw [chargedWithin_iff hprice husage hle, ← hsum]
  exact sum_divUp_le_sum_divUp_iff usdUnitsPerCredit_pos _ _

/-- When only one input price lies above the last whole unit under the worst one, the partitions
of an input cost at most the input at the worst price. -/
theorem partitions_le_of_secondInputPrice_le (hprice : price.InRange)
    (hsecond : price.secondInputPrice ≤
      price.worstInputPrice / usdUnitsPerCredit * usdUnitsPerCredit)
    {x y z : Int} (hx : 0 ≤ x) (hy : 0 ≤ y) (hz : 0 ≤ z) :
    divUp (x * price.inputPriceUnitsPer1M) usdUnitsPerCredit +
        divUp (y * price.cachedInputPriceUnitsPer1M) usdUnitsPerCredit +
        divUp (z * price.cacheWriteOrInput) usdUnitsPerCredit ≤
      divUp ((x + y + z) * price.worstInputPrice) usdUnitsPerCredit := by
  have hworst := hprice.worstInputPrice_eq
  unfold FrozenPriceUnits.secondInputPrice at hsecond
  set a := price.inputPriceUnitsPer1M
  set b := price.cachedInputPriceUnitsPer1M
  set d := price.cacheWriteOrInput
  set w := price.worstInputPrice
  -- the largest price takes the first place, the two others follow one after the other
  have hchain : ∀ {s t p q r : Int}, 0 ≤ q → 0 ≤ r →
      s ≤ w / usdUnitsPerCredit * usdUnitsPerCredit →
      t ≤ w / usdUnitsPerCredit * usdUnitsPerCredit →
      divUp (p * w) usdUnitsPerCredit + divUp (q * s) usdUnitsPerCredit +
        divUp (r * t) usdUnitsPerCredit ≤ divUp ((p + q + r) * w) usdUnitsPerCredit := by
    intro s t p q r hq hr hs ht
    have h1 := divUp_mul_add_le (n := p) usdUnitsPerCredit_pos hq hs
    have h2 := divUp_mul_add_le (n := p + q) usdUnitsPerCredit_pos hr ht
    omega
  rcases le_total a b with hab | hab
  · rcases le_total b d with hbd | hbd
    · have hw : w = d := by omega
      have h := hchain (p := z) (s := a) (t := b) hx hy (by omega) (by omega)
      rw [show z + x + y = x + y + z by ring] at h
      rw [← hw]
      omega
    · have hw : w = b := by omega
      have h := hchain (p := y) (s := a) (t := d) hx hz (by omega) (by omega)
      rw [show y + x + z = x + y + z by ring] at h
      rw [← hw]
      omega
  · rcases le_total a d with had | had
    · have hw : w = d := by omega
      have h := hchain (p := z) (s := a) (t := b) hx hy (by omega) (by omega)
      rw [show z + x + y = x + y + z by ring] at h
      rw [← hw]
      omega
    · have hw : w = a := by omega
      have h := hchain (p := x) (s := b) (t := d) hy hz (by omega) (by omega)
      rw [← hw]
      omega

/-- An input split into the three partitions, with no output. -/
def inputUsage (uncached cached cacheWrite : Int) : InvocationUsageUnits where
  inputTokens := uncached + cached + cacheWrite
  cachedInputTokens := cached
  cacheWriteTokens := cacheWrite
  outputTokens := 0
  totalTokens := uncached + cached + cacheWrite
  source := .provider

theorem inputUsage_valid {x y z : Int} (hx : 0 ≤ x) (hy : 0 ≤ y) (hz : 0 ≤ z)
    (hle : x + y + z ≤ billingMaxInt64) : ValidUsage (inputUsage x y z) := by
  constructor <;> simp only [inputUsage, FitsInt64] <;> omega

/-- One million tokens can be split so that all but one are charged at the worst price and the
last one at the second-largest. -/
theorem exists_worst_partition (hprice : price.InRange) :
    ∃ x y z, 0 ≤ x ∧ 0 ≤ y ∧ 0 ≤ z ∧ x + y + z = usdUnitsPerCredit ∧
      divUp (x * price.inputPriceUnitsPer1M) usdUnitsPerCredit +
          divUp (y * price.cachedInputPriceUnitsPer1M) usdUnitsPerCredit +
          divUp (z * price.cacheWriteOrInput) usdUnitsPerCredit =
        divUp ((usdUnitsPerCredit - 1) * price.worstInputPrice) usdUnitsPerCredit +
          divUp (1 * price.secondInputPrice) usdUnitsPerCredit := by
  have hworst := hprice.worstInputPrice_eq
  have hpos : 0 ≤ usdUnitsPerCredit - 1 := by decide
  have hzero : ∀ p : Int, divUp (0 * p) usdUnitsPerCredit = 0 := by
    intro p
    rw [zero_mul, divUp_zero usdUnitsPerCredit_pos]
  unfold FrozenPriceUnits.secondInputPrice
  set a := price.inputPriceUnitsPer1M
  set b := price.cachedInputPriceUnitsPer1M
  set d := price.cacheWriteOrInput
  rw [hworst]
  -- the six orders of the three prices: the worst partition takes all but one token
  rcases le_total a b with hab | hab <;> rcases le_total b d with hbd | hbd <;>
    rcases le_total a d with had | had
  · refine ⟨0, 1, usdUnitsPerCredit - 1, le_rfl, by omega, hpos, by omega, ?_⟩
    rw [hzero, show max (max a b) d = d by omega, show max (min a b) (min (max a b) d) = b by omega]
    omega
  · refine ⟨0, 1, usdUnitsPerCredit - 1, le_rfl, by omega, hpos, by omega, ?_⟩
    rw [hzero, show max (max a b) d = d by omega, show max (min a b) (min (max a b) d) = b by omega]
    omega
  · refine ⟨0, usdUnitsPerCredit - 1, 1, le_rfl, hpos, by omega, by omega, ?_⟩
    rw [hzero, show max (max a b) d = b by omega, show max (min a b) (min (max a b) d) = d by omega]
    omega
  · refine ⟨1, usdUnitsPerCredit - 1, 0, by omega, hpos, le_rfl, by omega, ?_⟩
    rw [hzero, show max (max a b) d = b by omega, show max (min a b) (min (max a b) d) = a by omega]
    omega
  · refine ⟨1, 0, usdUnitsPerCredit - 1, by omega, le_rfl, hpos, by omega, ?_⟩
    rw [hzero, show max (max a b) d = d by omega, show max (min a b) (min (max a b) d) = a by omega]
    omega
  · refine ⟨usdUnitsPerCredit - 1, 0, 1, hpos, le_rfl, by omega, by omega, ?_⟩
    rw [hzero, show max (max a b) d = a by omega, show max (min a b) (min (max a b) d) = d by omega]
    omega
  · refine ⟨usdUnitsPerCredit - 1, 1, 0, hpos, by omega, le_rfl, by omega, ?_⟩
    rw [hzero, show max (max a b) d = a by omega, show max (min a b) (min (max a b) d) = b by omega]
    omega
  · refine ⟨usdUnitsPerCredit - 1, 1, 0, hpos, by omega, le_rfl, by omega, ?_⟩
    rw [hzero, show max (max a b) d = a by omega, show max (min a b) (min (max a b) d) = b by omega]
    omega

/-- **Sufficiency**: below that price gap no usage inside the caps exceeds its reservation. -/
theorem chargedWithin_of_secondInputPrice_le (hprice : price.InRange)
    (hsecond : price.secondInputPrice ≤
      price.worstInputPrice / usdUnitsPerCredit * usdUnitsPerCredit)
    (hmax : maximumInvocationChargeUnits inputTokens maxOutputTokens price = .ok m)
    (hwithin : UsageWithin usage inputTokens maxOutputTokens) : ChargedWithin usage price m := by
  obtain ⟨-, -, hm, hle⟩ := (maximumInvocationChargeUnits_eq_ok_iff hprice).mp hmax
  have husage := validateUsage_eq_ok_iff.mp hwithin.valid
  rw [chargedWithin_iff hprice husage hle]
  have hparts := partitions_le_of_secondInputPrice_le hprice hsecond husage.uncached.1
    husage.cached.1 husage.cacheWrite.1
  have htokens : usage.uncachedInputTokens + usage.cachedInputTokens + usage.cacheWriteTokens =
      usage.inputTokens := by
    unfold InvocationUsageUnits.uncachedInputTokens
    omega
  rw [htokens] at hparts
  have hinput := divUp_mono usdUnitsPerCredit_pos
    (mul_le_mul_of_nonneg_right hwithin.input hprice.worstInputPrice.1)
  have houtput := divUp_mono usdUnitsPerCredit_pos
    (mul_le_mul_of_nonneg_right hwithin.output hprice.output.1)
  simp only [usagePartitionPrices, List.map_cons, List.map_nil, List.sum_cons, List.sum_nil]
  omega

/-- **Necessity**: above it, a million tokens split over the two largest prices exceed the
reservation of a million tokens. -/
theorem secondInputPrice_le_of_chargedWithin (hprice : price.InRange)
    (hsound : ∀ inputTokens maxOutputTokens m usage,
      maximumInvocationChargeUnits inputTokens maxOutputTokens price = .ok m →
      UsageWithin usage inputTokens maxOutputTokens → ChargedWithin usage price m) :
    price.secondInputPrice ≤ price.worstInputPrice / usdUnitsPerCredit * usdUnitsPerCredit := by
  by_contra hgap
  have hle : price.secondInputPrice ≤ price.worstInputPrice := by
    rw [hprice.worstInputPrice_eq]
    unfold FrozenPriceUnits.secondInputPrice
    omega
  have hlt := divUp_pred_mul_add_lt usdUnitsPerCredit_pos (not_le.mp hgap) hle
  obtain ⟨x, y, z, hx, hy, hz, hsum, hcost⟩ := exists_worst_partition hprice
  have hzero : divUp (0 * price.outputPriceUnitsPer1M) usdUnitsPerCredit = 0 := by
    rw [zero_mul, divUp_zero usdUnitsPerCredit_pos]
  have hmax : maximumInvocationChargeUnits usdUnitsPerCredit 0 price =
      .ok price.worstInputPrice := by
    rw [maximumInvocationChargeUnits_eq_ok_iff hprice, hzero, divUp_mul_self usdUnitsPerCredit_pos]
    exact ⟨by decide, by decide, by omega, hprice.worstInputPrice.2⟩
  have hbound : x + y + z ≤ billingMaxInt64 := by
    rw [hsum]
    decide
  have hvalid := inputUsage_valid hx hy hz hbound
  have hcharged := hsound _ _ _ (inputUsage x y z) hmax
    ⟨validateUsage_eq_ok_iff.mpr hvalid, hsum.le, le_rfl⟩
  rw [chargedWithin_iff hprice hvalid hprice.worstInputPrice.2] at hcharged
  have huncached : (inputUsage x y z).uncachedInputTokens = x := by
    simp only [InvocationUsageUnits.uncachedInputTokens, inputUsage]
    omega
  simp only [usagePartitionPrices, huncached, List.map_cons, List.map_nil, List.sum_cons,
    List.sum_nil] at hcharged
  simp only [inputUsage, hzero] at hcharged
  rw [divUp_mul_self usdUnitsPerCredit_pos] at hlt
  omega

/-- **Reservation soundness, exactly.**  For a price in range, no usage inside the admitted caps
exceeds the held charge if and only if the second-largest input price is at most the last whole
unit under the largest; and any one usage stays inside it if and only if its paddings fit. -/
theorem reservation_sound_iff (price : FrozenPriceUnits) (hprice : price.InRange) :
    ((∀ inputTokens maxOutputTokens m usage,
        maximumInvocationChargeUnits inputTokens maxOutputTokens price = .ok m →
        UsageWithin usage inputTokens maxOutputTokens → ChargedWithin usage price m) ↔
      price.secondInputPrice ≤
        price.worstInputPrice / usdUnitsPerCredit * usdUnitsPerCredit) ∧
    ∀ inputTokens maxOutputTokens m usage,
      maximumInvocationChargeUnits inputTokens maxOutputTokens price = .ok m →
      UsageWithin usage inputTokens maxOutputTokens →
      (ChargedWithin usage price m ↔
        (usagePartitionPrices usage price).sum +
            ((usagePartitionPrices usage price).map (padding · usdUnitsPerCredit)).sum ≤
          (admittedPartitionPrices inputTokens maxOutputTokens price).sum +
            ((admittedPartitionPrices inputTokens maxOutputTokens price).map
              (padding · usdUnitsPerCredit)).sum) := by
  refine ⟨⟨secondInputPrice_le_of_chargedWithin hprice, ?_⟩, ?_⟩
  · intro hsecond inputTokens maxOutputTokens m usage hmax hwithin
    exact chargedWithin_of_secondInputPrice_le hprice hsecond hmax hwithin
  · intro inputTokens maxOutputTokens m usage hmax hwithin
    exact chargedWithin_maximum_iff hprice hmax (validateUsage_eq_ok_iff.mp hwithin.valid)

/-- A price of one unit for every kind of input token. -/
def unitInputPrice : FrozenPriceUnits := ⟨1, 1, none, 0⟩

theorem unitInputPrice_inRange : unitInputPrice.InRange := by
  constructor <;> simp [unitInputPrice, FitsInt64, billingMaxInt64]

theorem reservation_sound_iff_unitInputPrice :
    ¬unitInputPrice.secondInputPrice ≤
        unitInputPrice.worstInputPrice / usdUnitsPerCredit * usdUnitsPerCredit ∧
      ¬∀ inputTokens maxOutputTokens m usage,
        maximumInvocationChargeUnits inputTokens maxOutputTokens unitInputPrice = .ok m →
        UsageWithin usage inputTokens maxOutputTokens → ChargedWithin usage unitInputPrice m := by
  have hgap : ¬unitInputPrice.secondInputPrice ≤
      unitInputPrice.worstInputPrice / usdUnitsPerCredit * usdUnitsPerCredit := by decide
  refine ⟨hgap, fun hsound => hgap ?_⟩
  exact (reservation_sound_iff unitInputPrice unitInputPrice_inRange).1.mp hsound

/-- Two input tokens, one of them cached, are held at one unit and charged at two. -/
theorem reservation_exceeded_by_rounding :
    unitInputPrice.InRange ∧ maximumInvocationChargeUnits 2 0 unitInputPrice = .ok 1 ∧
      UsageWithin (inputUsage 1 1 0) 2 0 ∧
      actualInvocationChargeUnits (inputUsage 1 1 0) unitInputPrice = .ok 2 ∧
      ¬ChargedWithin (inputUsage 1 1 0) unitInputPrice 1 := by
  have hcharge : actualInvocationChargeUnits (inputUsage 1 1 0) unitInputPrice = .ok 2 := by
    decide
  refine ⟨unitInputPrice_inRange, by decide, ⟨by decide, by decide, by decide⟩, hcharge, ?_⟩
  rintro ⟨c, hc, hle⟩
  obtain rfl : (2 : Int) = c := Except.ok.inj (hcharge.symm.trans hc)
  exact absurd hle (by decide)

end Reservation

end Frely.Billing
