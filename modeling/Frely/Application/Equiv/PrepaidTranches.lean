import Frely.Application.PrepaidTranches

/-!
# The tranches of prepaid revenue are exact

`Splits` is what the loop leaves behind from a window on: consecutive windows up to the end of the
period whose amounts add up to what was left.  `tranchesFrom_splits` is proved along the loop; its
invariant is that at most the share of the time passed is allocated
(`durationMs * allocated ≤ amountUnits * (windowStartMs - startMs)`).  The numbers of the other
package stay safe integers under it, so both loops agree (`sellerTranchesFrom_eq`).
-/

namespace Frely.Application

open Billing

/-- The tranches from a window on split an amount over consecutive windows up to an end. -/
inductive Splits (endMs : Int) : Int → Int → List SettlementTranche → Prop where
  | last {windowStartMs amount : Int} : endMs ≤ windowStartMs → amount = 0 →
      Splits endMs windowStartMs amount []
  | cons {windowStartMs amount : Int} {tranche : SettlementTranche}
      {rest : List SettlementTranche} : windowStartMs < endMs →
        tranche.windowStart = windowStartMs →
      tranche.windowEnd = windowStartMs + settlementWindowMs → 0 ≤ tranche.amountUnits →
      Splits endMs (windowStartMs + settlementWindowMs) (amount - tranche.amountUnits) rest →
      Splits endMs windowStartMs amount (tranche :: rest)

theorem toISOString_eq_ok {ms : Timestamp} {text : Timestamp} :
    toISOString ms = .ok text ↔
      text = ms ∧ -8640000000000000 ≤ ms ∧ ms ≤ 8640000000000000 := by
  unfold toISOString
  split_ifs with hrange
  · rw [Except.ok.injEq]
    exact ⟨fun h => ⟨h.symm, hrange⟩, fun h => h.1.symm⟩
  · exact ⟨nofun, fun h => absurd h.2 hrange⟩

/-- A window before the last one gets its share of the amount. -/
theorem share_bounds {amountUnits durationMs allocated passed : Int} (hamount : 0 < amountUnits)
    (hduration : 0 < durationMs)
    (hallocated : durationMs * allocated ≤ amountUnits * passed) :
    0 ≤ (amountUnits * settlementWindowMs).tdiv durationMs ∧
      durationMs * (allocated + (amountUnits * settlementWindowMs).tdiv durationMs) ≤
        amountUnits * (passed + settlementWindowMs) := by
  have hproduct : 0 ≤ amountUnits * settlementWindowMs := by
    simp only [settlementWindowMs]
    omega
  rw [Int.tdiv_eq_ediv_of_nonneg hproduct]
  refine ⟨Int.ediv_nonneg hproduct hduration.le, ?_⟩
  have hshare := Int.mul_ediv_self_le (x := amountUnits * settlementWindowMs) hduration.ne'
  calc durationMs * (allocated + amountUnits * settlementWindowMs / durationMs)
      = durationMs * allocated + durationMs * (amountUnits * settlementWindowMs / durationMs) :=
        Int.mul_add ..
    _ ≤ amountUnits * passed + amountUnits * settlementWindowMs := Int.add_le_add hallocated hshare
    _ = amountUnits * (passed + settlementWindowMs) := (Int.mul_add ..).symm

/-- What a window gets: its share, or all that is left when it is the last one. -/
def windowUnits (endMs durationMs amountUnits windowStartMs allocated : Int) : Int :=
  if endMs ≤ windowStartMs + settlementWindowMs then amountUnits - allocated
  else (amountUnits * settlementWindowMs).tdiv durationMs

variable {startMs : Int} {tranches : List SettlementTranche}

section Loop

variable {endMs durationMs amountUnits windowStartMs allocated : Int}

theorem tranchesFrom_of_lt (h : windowStartMs < endMs) :
    tranchesFrom endMs durationMs amountUnits windowStartMs allocated = (do
      let windowStart ← toISOString windowStartMs
      let windowEnd ← toISOString (windowStartMs + settlementWindowMs)
      let (rest, total) ← tranchesFrom endMs durationMs amountUnits
        (windowStartMs + settlementWindowMs)
        (allocated + windowUnits endMs durationMs amountUnits windowStartMs allocated)
      return (⟨windowStart, windowEnd,
        windowUnits endMs durationMs amountUnits windowStartMs allocated⟩ :: rest, total)) := by
  have hunits : (if endMs ≤ windowStartMs + settlementWindowMs then amountUnits - allocated
      else (amountUnits * (min endMs (windowStartMs + settlementWindowMs) - windowStartMs)).tdiv
        durationMs) = windowUnits endMs durationMs amountUnits windowStartMs allocated := by
    unfold windowUnits
    split_ifs with hlast
    · rfl
    · rw [min_eq_right (by omega), add_sub_cancel_left]
  rw [tranchesFrom, if_pos h]
  simp only [hunits]

theorem tranchesFrom_of_le (h : endMs ≤ windowStartMs) :
    tranchesFrom endMs durationMs amountUnits windowStartMs allocated = .ok ([], allocated) := by
  rw [tranchesFrom, if_neg (by omega)]
  rfl

theorem sellerTranchesFrom_of_lt (h : windowStartMs < endMs) :
    sellerTranchesFrom endMs durationMs amountUnits windowStartMs allocated = (do
      let windowStart ← toISOString windowStartMs
      let windowEnd ← toISOString (windowStartMs + settlementWindowMs)
      let (rest, total) ← sellerTranchesFrom endMs durationMs amountUnits
        (windowStartMs + settlementWindowMs)
        (roundedNumber (allocated + roundedNumber
          (windowUnits endMs durationMs amountUnits windowStartMs allocated)))
      return (⟨windowStart, windowEnd, roundedNumber
        (windowUnits endMs durationMs amountUnits windowStartMs allocated)⟩ :: rest, total)) := by
  have hunits : (if endMs ≤ windowStartMs + settlementWindowMs then
        roundedNumber (amountUnits - allocated)
      else roundedNumber ((amountUnits *
        (min endMs (windowStartMs + settlementWindowMs) - windowStartMs)).tdiv durationMs)) =
      roundedNumber (windowUnits endMs durationMs amountUnits windowStartMs allocated) := by
    unfold windowUnits
    split_ifs with hlast
    · rfl
    · rw [min_eq_right (by omega), add_sub_cancel_left]
  rw [sellerTranchesFrom, if_pos h]
  simp only [hunits]

theorem sellerTranchesFrom_of_le (h : endMs ≤ windowStartMs) :
    sellerTranchesFrom endMs durationMs amountUnits windowStartMs allocated =
      .ok ([], allocated) := by
  rw [sellerTranchesFrom, if_neg (by omega)]
  rfl

/-- How far the loop is: at most the share of the time passed is allocated. -/
structure Progress (startMs endMs amountUnits windowStartMs allocated : Int) : Prop where
  positive : 0 < amountUnits
  started : startMs ≤ windowStartMs
  nonneg : 0 ≤ allocated
  share : windowStartMs < endMs →
    (endMs - startMs) * allocated ≤ amountUnits * (windowStartMs - startMs)
  done : endMs ≤ windowStartMs → allocated = amountUnits

theorem Progress.le (h : Progress startMs endMs amountUnits windowStartMs allocated) :
    allocated ≤ amountUnits := by
  rcases Int.lt_or_le windowStartMs endMs with hlt | hle
  · have hpassed : amountUnits * (windowStartMs - startMs) ≤ amountUnits * (endMs - startMs) :=
      Int.mul_le_mul_of_nonneg_left (by omega) h.positive.le
    have hstart := h.started
    have htotal : (endMs - startMs) * allocated ≤ (endMs - startMs) * amountUnits := by
      rw [Int.mul_comm (endMs - startMs) amountUnits]
      exact (h.share hlt).trans hpassed
    exact Int.le_of_mul_le_mul_left htotal (by omega)
  · exact (h.done hle).le

/-- A turn of the loop. -/
theorem Progress.step (h : Progress startMs endMs amountUnits windowStartMs allocated)
    (hlt : windowStartMs < endMs) :
    0 ≤ windowUnits endMs (endMs - startMs) amountUnits windowStartMs allocated ∧
      Progress startMs endMs amountUnits (windowStartMs + settlementWindowMs)
        (allocated + windowUnits endMs (endMs - startMs) amountUnits windowStartMs allocated) := by
  have hstart := h.started
  have hle := h.le
  have hnonneg := h.nonneg
  have hwindow : 0 < settlementWindowMs := by decide
  unfold windowUnits
  split_ifs with hlast
  · refine ⟨by omega, h.positive, by omega, by omega, ?_, fun _ => by omega⟩
    intro hmore
    omega
  · obtain ⟨hunits, hshare⟩ :=
      share_bounds h.positive (by omega : 0 < endMs - startMs) (h.share hlt)
    refine ⟨hunits, h.positive, by omega, by omega, fun _ => ?_, fun hdone => by omega⟩
    have hpassed : windowStartMs + settlementWindowMs - startMs =
        windowStartMs - startMs + settlementWindowMs := by omega
    rw [hpassed]
    exact hshare

/-- **The loop splits what is left.** -/
theorem tranchesFrom_splits {startMs windowStartMs allocated : Int}
    {tranches : List SettlementTranche} {total : Int}
    (h : Progress startMs endMs amountUnits windowStartMs allocated)
    (hrun : tranchesFrom endMs (endMs - startMs) amountUnits windowStartMs allocated =
      .ok (tranches, total)) :
    Splits endMs windowStartMs (amountUnits - allocated) tranches ∧ total = amountUnits := by
  rcases Int.lt_or_le windowStartMs endMs with hlt | hle
  · rw [tranchesFrom_of_lt hlt] at hrun
    obtain ⟨windowStart, hstart, hrun⟩ := Checked.bind_eq_ok.mp hrun
    obtain ⟨windowEnd, hend, hrun⟩ := Checked.bind_eq_ok.mp hrun
    obtain ⟨⟨rest, total'⟩, hrest, hrun⟩ := Checked.bind_eq_ok.mp hrun
    obtain ⟨rfl, rfl⟩ := Prod.mk.inj (Except.ok.inj hrun)
    obtain ⟨hunits, hnext⟩ := h.step hlt
    have : (endMs - (windowStartMs + settlementWindowMs)).toNat <
      (endMs - windowStartMs).toNat := by
      simp only [settlementWindowMs]
      omega
    obtain ⟨hsplits, htotal⟩ := tranchesFrom_splits hnext hrest
    refine ⟨.cons hlt (toISOString_eq_ok.mp hstart).1 (toISOString_eq_ok.mp hend).1 hunits ?_,
      htotal⟩
    rw [Int.sub_sub]
    exact hsplits
  · rw [tranchesFrom_of_le hle] at hrun
    obtain ⟨rfl, rfl⟩ := Prod.mk.inj (Except.ok.inj hrun)
    have hdone := h.done hle
    exact ⟨.last hle (by omega), hdone⟩
termination_by (endMs - windowStartMs).toNat

/-- **The loop on numbers does the same**, as long as the amount is a safe integer. -/
theorem sellerTranchesFrom_eq {windowStartMs allocated : Int} (hsafe : IsSafeInteger amountUnits)
    (h : Progress startMs endMs amountUnits windowStartMs allocated) :
    sellerTranchesFrom endMs (endMs - startMs) amountUnits windowStartMs allocated =
      tranchesFrom endMs (endMs - startMs) amountUnits windowStartMs allocated := by
  rcases Int.lt_or_le windowStartMs endMs with hlt | hle
  · obtain ⟨hunits, hnext⟩ := h.step hlt
    have hbound := hnext.le
    have hnonneg := h.nonneg
    obtain ⟨hlow, hhigh⟩ := hsafe
    have hrounded : ∀ value, 0 ≤ value → value ≤ amountUnits → roundedNumber value = value :=
      fun value hvalue hle => roundedNumber_of_safe ⟨by omega, by omega⟩
    rw [sellerTranchesFrom_of_lt hlt, tranchesFrom_of_lt hlt, hrounded _ hunits (by omega),
      hrounded _ (by omega) hbound]
    have : (endMs - (windowStartMs + settlementWindowMs)).toNat <
      (endMs - windowStartMs).toNat := by
      simp only [settlementWindowMs]
      omega
    rw [sellerTranchesFrom_eq ⟨hlow, hhigh⟩ hnext]
  · rw [sellerTranchesFrom_of_le hle, tranchesFrom_of_le hle]
termination_by (endMs - windowStartMs).toNat

/-- Where the settlement window of an instant ends. -/
def settlementWindowEnd (startMs instant : Int) : Int :=
  (sellerSettlementWindow startMs instant).endAt

theorem settlementWindowEnd_eq (startMs instant : Int) : settlementWindowEnd startMs instant =
    startMs + (max 0 ((instant - startMs) / 2592000000) + 1) * 2592000000 :=
  rfl

/-- The loop ends with a date error, or gets to the end of the last window. -/
theorem tranchesFrom_returns {windowStartMs allocated : Int} (hlt : windowStartMs < endMs) :
    (∃ result, tranchesFrom endMs durationMs amountUnits windowStartMs allocated = .ok result) ↔
      -8640000000000000 ≤ windowStartMs ∧
        settlementWindowEnd windowStartMs (endMs - 1) ≤ 8640000000000000 := by
  -- the end of the last window is the same seen from the next window
  have hshift : windowStartMs + settlementWindowMs < endMs →
      settlementWindowEnd (windowStartMs + settlementWindowMs) (endMs - 1) =
        settlementWindowEnd windowStartMs (endMs - 1) := by
    simp only [settlementWindowEnd_eq, settlementWindowMs]
    omega
  have hend : windowStartMs + settlementWindowMs ≤
      settlementWindowEnd windowStartMs (endMs - 1) := by
    simp only [settlementWindowEnd_eq, settlementWindowMs]
    omega
  have hlast : endMs ≤ windowStartMs + settlementWindowMs →
      settlementWindowEnd windowStartMs (endMs - 1) =
        windowStartMs + settlementWindowMs := by
    simp only [settlementWindowEnd_eq, settlementWindowMs]
    omega
  have hwindow : 0 < settlementWindowMs := by decide
  have hnext : (∃ result, tranchesFrom endMs durationMs amountUnits
      (windowStartMs + settlementWindowMs)
      (allocated + windowUnits endMs durationMs amountUnits windowStartMs allocated) =
        .ok result) ↔
      endMs ≤ windowStartMs + settlementWindowMs ∨
        -8640000000000000 ≤ windowStartMs + settlementWindowMs ∧
          settlementWindowEnd windowStartMs (endMs - 1) ≤ 8640000000000000 := by
    rcases Int.lt_or_le (windowStartMs + settlementWindowMs) endMs with hmore | hdone
    · have : (endMs - (windowStartMs + settlementWindowMs)).toNat <
          (endMs - windowStartMs).toNat := by
        simp only [settlementWindowMs]
        omega
      rw [tranchesFrom_returns hmore, hshift hmore]
      constructor
      · exact .inr
      · rintro (hle | h)
        · omega
        · exact h
    · rw [tranchesFrom_of_le hdone]
      exact ⟨fun _ => .inl hdone, fun _ => ⟨_, rfl⟩⟩
  -- the dates of this window, and then those of the windows behind it
  rw [tranchesFrom_of_lt hlt]
  constructor
  · rintro ⟨result, hrun⟩
    obtain ⟨_, hstart, hrun⟩ := Checked.bind_eq_ok.mp hrun
    obtain ⟨_, hwindowEnd, hrun⟩ := Checked.bind_eq_ok.mp hrun
    obtain ⟨_, hrest, -⟩ := Checked.bind_eq_ok.mp hrun
    refine ⟨(toISOString_eq_ok.mp hstart).2.1, ?_⟩
    rcases hnext.mp ⟨_, hrest⟩ with hdone | ⟨-, hbound⟩
    · rw [hlast hdone]
      exact (toISOString_eq_ok.mp hwindowEnd).2.2
    · exact hbound
  · rintro ⟨hlow, hhigh⟩
    have hbound : windowStartMs + settlementWindowMs ≤ 8640000000000000 := hend.trans hhigh
    have hlater : windowStartMs ≤ windowStartMs + settlementWindowMs := by omega
    have hstart : windowStartMs ≤ 8640000000000000 := hlater.trans hbound
    obtain ⟨rest, hrest⟩ := hnext.mpr (.inr ⟨hlow.trans hlater, hhigh⟩)
    rw [toISOString_eq_ok.mpr ⟨rfl, hlow, hstart⟩,
      toISOString_eq_ok.mpr ⟨rfl, hlow.trans hlater, hbound⟩, hrest]
    exact ⟨_, rfl⟩
termination_by (endMs - windowStartMs).toNat

end Loop

/-! ### The whole period -/

variable {endMs amount : Int}

/-- Tranches that split an amount exactly over the settlement windows of a period. -/
structure SplitsExactly (startMs endMs amountUnits : Int) (tranches : List SettlementTranche) :
    Prop where
  nonneg : ∀ t ∈ tranches, 0 ≤ t.amountUnits
  sum : (tranches.map (·.amountUnits)).sum = amountUnits
  consecutive : ∀ (i : Nat) (t : SettlementTranche), tranches[i]? = some t →
    t.windowStart = startMs + i * 2592000000 ∧ t.windowEnd = t.windowStart + 2592000000
  covered : ∀ instant, startMs ≤ instant → instant < endMs →
    ∃ t ∈ tranches, t.windowStart ≤ instant ∧ instant < t.windowEnd
  touched : ∀ t ∈ tranches, t.windowStart < endMs
  settled : ∀ t ∈ tranches, ∀ instant, t.windowStart ≤ instant → instant < t.windowEnd →
    sellerSettlementWindow startMs instant = ⟨t.windowStart, t.windowEnd⟩

theorem Splits.nonneg {windowStartMs : Int} (h : Splits endMs windowStartMs amount tranches) :
    ∀ t ∈ tranches, 0 ≤ t.amountUnits := by
  induction h with
  | last => exact nofun
  | cons _ _ _ hunits _ ih =>
    rintro t (_ | ⟨_, ht⟩)
    · exact hunits
    · exact ih t ht

theorem Splits.sum {windowStartMs : Int} (h : Splits endMs windowStartMs amount tranches) :
    (tranches.map (·.amountUnits)).sum = amount := by
  induction h with
  | last _ hamount => exact hamount.symm
  | cons _ _ _ _ _ ih =>
    rw [List.map_cons, List.sum_cons, ih]
    exact add_sub_cancel ..

theorem Splits.consecutive {windowStartMs : Int} (h : Splits endMs windowStartMs amount tranches)
    (i : Nat) (t : SettlementTranche) (ht : tranches[i]? = some t) :
    t.windowStart = windowStartMs + i * 2592000000 ∧
      t.windowEnd = t.windowStart + 2592000000 ∧ t.windowStart < endMs := by
  induction h generalizing i with
  | last => simp at ht
  | cons hlt hstart hend _ _ ih =>
    cases i with
    | zero =>
      obtain rfl := Option.some.inj ht
      exact ⟨by simpa using hstart, by rw [hend, hstart]; rfl, hstart ▸ hlt⟩
    | succ i =>
      obtain ⟨hfirst, hrest⟩ := ih i ht
      refine ⟨?_, hrest⟩
      rw [hfirst, Int.add_assoc]
      simp only [settlementWindowMs]
      congr 1
      push_cast
      omega

theorem Splits.covered {windowStartMs : Int} (h : Splits endMs windowStartMs amount tranches)
    {instant : Int} (hstart : windowStartMs ≤ instant) (hend : instant < endMs) :
    ∃ t ∈ tranches, t.windowStart ≤ instant ∧ instant < t.windowEnd := by
  induction h with
  | last hle => omega
  | @cons windowStartMs _ tranche rest _ hfirst hlast _ _ ih =>
    rcases Int.lt_or_le instant (windowStartMs + settlementWindowMs) with hinside | hlater
    · refine ⟨tranche, List.mem_cons_self, ?_, ?_⟩
      · rw [hfirst]
        exact hstart
      · rw [hlast]
        exact hinside
    · obtain ⟨t, ht, hinside⟩ := ih hlater
      exact ⟨t, List.mem_cons_of_mem _ ht, hinside⟩

/-- The window of a tranche is the settlement window of every instant inside it. -/
theorem sellerSettlementWindow_of_inside {instant : Int} (i : Nat)
    (hlow : startMs + i * 2592000000 ≤ instant)
    (hhigh : instant < startMs + i * 2592000000 + 2592000000) :
    sellerSettlementWindow startMs instant =
      ⟨startMs + i * 2592000000, startMs + i * 2592000000 + 2592000000⟩ := by
  have hindex : max 0 ((instant - startMs) / 2592000000) = (i : Int) := by omega
  have hlast : startMs + ((i : Int) + 1) * 2592000000 =
      startMs + i * 2592000000 + 2592000000 := by omega
  simp only [sellerSettlementWindow]
  rw [hindex, hlast]

theorem Splits.exactly {amountUnits : Int} (h : Splits endMs startMs amountUnits tranches) :
    SplitsExactly startMs endMs amountUnits tranches where
  nonneg := h.nonneg
  sum := h.sum
  consecutive i t ht := ⟨(h.consecutive i t ht).1, (h.consecutive i t ht).2.1⟩
  covered _ hstart hend := h.covered hstart hend
  touched t ht := by
    obtain ⟨i, hi⟩ := List.getElem?_of_mem ht
    exact (h.consecutive i t hi).2.2
  settled t ht instant hlow hhigh := by
    obtain ⟨i, hi⟩ := List.getElem?_of_mem ht
    obtain ⟨hstart, hend, -⟩ := h.consecutive i t hi
    rw [hend, hstart] at hhigh ⊢
    rw [hstart] at hlow
    exact sellerSettlementWindow_of_inside i hlow hhigh

section Period

variable {startMs endMs amountUnits : Int}

theorem progress_start (hperiod : startMs < endMs) (hamount : 0 < amountUnits) :
    Progress startMs endMs amountUnits startMs 0 :=
  ⟨hamount, Int.le_refl _, Int.le_refl _, fun _ => by simp, fun hdone => by omega⟩

theorem prepaidTranches_eq_ok (hperiod : startMs < endMs) (hamount : 0 < amountUnits) :
    prepaidTranches ⟨startMs, some endMs⟩ amountUnits = .ok tranches ↔
      ∃ total, tranchesFrom endMs (endMs - startMs) amountUnits startMs 0 =
        .ok (tranches, total) := by
  have hvalid : ¬(endMs ≤ startMs ∨ amountUnits ≤ 0) := by omega
  simp only [prepaidTranches, if_neg hvalid]
  constructor
  · intro hrun
    obtain ⟨⟨result, total⟩, hloop, hrun⟩ := Checked.bind_eq_ok.mp hrun
    obtain ⟨-, htotal⟩ := tranchesFrom_splits (progress_start hperiod hamount) hloop
    rw [if_neg (not_not.mpr htotal)] at hrun
    obtain rfl := Except.ok.inj hrun
    exact ⟨total, hloop⟩
  · rintro ⟨total, hloop⟩
    obtain ⟨-, htotal⟩ := tranchesFrom_splits (progress_start hperiod hamount) hloop
    rw [hloop]
    simp [htotal, Bind.bind, Except.bind, Pure.pure, Except.pure]

theorem prepaidSellerSettlementTranches_eq (hperiod : startMs < endMs) (hamount : 0 < amountUnits)
    (hsafe : IsSafeInteger amountUnits) :
    prepaidSellerSettlementTranches ⟨startMs, some endMs⟩ amountUnits =
      prepaidTranches ⟨startMs, some endMs⟩ amountUnits := by
  have hvalid : ¬(endMs ≤ startMs ∨ amountUnits ≤ 0) := by omega
  have hseller : ¬(¬IsSafeInteger amountUnits ∨ amountUnits ≤ 0) := by
    rintro (hlarge | hneg)
    · exact hlarge hsafe
    · omega
  simp only [prepaidSellerSettlementTranches, prepaidTranches, if_neg hvalid, if_neg hseller,
    if_neg (Int.not_le.mpr hperiod)]
  rw [sellerTranchesFrom_eq hsafe (progress_start hperiod hamount)]

/-- **The tranches of prepaid revenue.**  They are computed unless a window ends after the last
date, they split the amount exactly over the settlement windows of the period, and both packages
compute the same. -/
theorem prepaidTranches_exact (startMs endMs amountUnits : Int) (hperiod : startMs < endMs)
    (hamount : 0 < amountUnits) :
    (∀ tranches, prepaidTranches ⟨startMs, some endMs⟩ amountUnits = .ok tranches →
      SplitsExactly startMs endMs amountUnits tranches) ∧
    ((∃ tranches, prepaidTranches ⟨startMs, some endMs⟩ amountUnits = .ok tranches) ↔
      -8640000000000000 ≤ startMs ∧
        (sellerSettlementWindow startMs (endMs - 1)).endAt ≤ 8640000000000000) ∧
    (IsSafeInteger amountUnits →
      prepaidSellerSettlementTranches ⟨startMs, some endMs⟩ amountUnits =
        prepaidTranches ⟨startMs, some endMs⟩ amountUnits) := by
  refine ⟨fun tranches hrun => ?_, ?_, prepaidSellerSettlementTranches_eq hperiod hamount⟩
  · obtain ⟨total, hloop⟩ := (prepaidTranches_eq_ok hperiod hamount).mp hrun
    have hsplits := (tranchesFrom_splits (progress_start hperiod hamount) hloop).1
    rw [Int.sub_zero] at hsplits
    exact hsplits.exactly
  · change _ ↔ _ ∧ settlementWindowEnd startMs (endMs - 1) ≤ 8640000000000000
    rw [← tranchesFrom_returns hperiod]
    constructor
    · rintro ⟨tranches, hrun⟩
      obtain ⟨total, hloop⟩ := (prepaidTranches_eq_ok hperiod hamount).mp hrun
      exact ⟨_, hloop⟩
    · rintro ⟨⟨tranches, total⟩, hloop⟩
      exact ⟨tranches, (prepaidTranches_eq_ok hperiod hamount).mpr ⟨total, hloop⟩⟩

/-- A hundred units over seventy days. -/
theorem prepaidTranches_exact_seventyDays :
    0 < 6048000000 ∧ (0 : Int) < 100 ∧
      (∃ tranches, prepaidTranches ⟨0, some 6048000000⟩ 100 = .ok tranches ∧
        SplitsExactly 0 6048000000 100 tranches) ∧
      prepaidSellerSettlementTranches ⟨0, some 6048000000⟩ 100 =
        prepaidTranches ⟨0, some 6048000000⟩ 100 := by
  obtain ⟨hexact, hreturns, hsame⟩ := prepaidTranches_exact 0 6048000000 100 (by decide) (by decide)
  obtain ⟨tranches, hrun⟩ := hreturns.mpr (by decide)
  exact ⟨by decide, by decide, ⟨tranches, hrun, hexact tranches hrun⟩, hsame (by decide)⟩

end Period

end Frely.Application
