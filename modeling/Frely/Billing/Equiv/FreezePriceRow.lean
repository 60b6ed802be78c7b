import Frely.Billing.Admission
import Frely.Billing.Equiv.FrozenPriceProfile

/-!
# The protected and the claimless price

A protected admission freezes the prices of one tier (`freezePriceRow`), a claimless one freezes
the whole row and selects the tier when the usage is known (`encodeFrozenPriceProfile`,
`selectFrozenPriceProfile`).  Where no two enabled tiers of one service tier start at the same
count, both find the covering tier that starts highest, and fail together
(`freezePriceRow_eq_selectFrozenPriceProfile`).  Neither depends on the order of the tiers, nor on
the collation.
-/

namespace Frely.Billing

open Checked StableSort

/-- A price row as the catalogue stores it: enabled and in range, its tiers of the two service
tiers, with keys and bounds in range, and no two enabled ones of one service tier start at the same
count. -/
structure InvocationPriceProfileInput.Catalogued (row : InvocationPriceProfileInput) : Prop where
  status : row.status = "enabled"
  base : row.toFrozenPriceUnits.InRange
  serviceTier : ∀ tier ∈ row.tiers, tier.serviceTier = "standard" ∨ tier.serviceTier = "priority"
  tiers : ∀ tier ∈ row.tiers, tier.Valid
  distinct : (row.tiers.filter (·.status = "enabled")).Pairwise fun a b =>
    a.serviceTier = b.serviceTier → a.minInputTokens ≠ b.minInputTokens

/-- The row with its enabled tiers alone. -/
def InvocationPriceProfileInput.enabled (row : InvocationPriceProfileInput) :
    InvocationPriceProfileInput :=
  { row with tiers := row.tiers.filter (·.status = "enabled") }

variable {row : InvocationPriceProfileInput} {inputTokens : Int}

namespace InvocationPriceProfileInput.Catalogued

theorem enabledTiers (h : row.Catalogued) : row.enabled.EnabledTiers where
  status _ htier := of_decide_eq_true (List.mem_filter.mp htier).2
  serviceTier tier htier := h.serviceTier tier (List.mem_filter.mp htier).1

theorem accepted (h : row.Catalogued) : row.enabled.Accepted where
  status := h.status
  base := h.base
  tiers tier htier := h.tiers tier (List.mem_filter.mp htier).1

/-- The order of the tiers does not matter. -/
theorem perm (h : row.Catalogued) {tiers : List InvocationPriceProfileTierInput}
    (hperm : tiers.Perm row.tiers) : { row with tiers := tiers }.Catalogued where
  status := h.status
  base := h.base
  serviceTier tier htier := h.serviceTier tier (hperm.mem_iff.mp htier)
  tiers tier htier := h.tiers tier (hperm.mem_iff.mp htier)
  distinct := by
    have hswap : ∀ {a b : InvocationPriceProfileTierInput},
        (a.serviceTier = b.serviceTier → a.minInputTokens ≠ b.minInputTokens) →
          b.serviceTier = a.serviceTier → b.minInputTokens ≠ a.minInputTokens :=
      fun hne hsame heq => hne hsame.symm heq.symm
    exact (hperm.filter (·.status = "enabled")).symm.pairwise h.distinct hswap

end InvocationPriceProfileInput.Catalogued

/-! ### The tier that starts highest -/

/-- Which tier starts higher. -/
def compareStarts (left right : InvocationPriceProfileTierInput) : Ordering :=
  compare right.minInputTokens left.minInputTokens

instance : Std.TransCmp compareStarts :=
  transCmp_map (fun a b : Int => compare b a) InvocationPriceProfileTierInput.minInputTokens

theorem compareStarts_ne_eq {left right : InvocationPriceProfileTierInput}
    (h : left.minInputTokens ≠ right.minInputTokens) : compareStarts left right ≠ .eq := by
  intro heq
  have hsame : compare right.minInputTokens left.minInputTokens = .eq := heq
  exact h (compare_eq_iff_eq.mp hsame).symm

/-- The enabled tiers of one service tier that cover a count. -/
def coveringTiers (tiers : List InvocationPriceProfileTierInput) (inputTokens : Int)
    (serviceTier : String) : List InvocationPriceProfileTierInput :=
  (tiers.filter (tierCovers inputTokens)).filter (·.serviceTier = serviceTier)

theorem mostSpecificTier_eq (tiers : List InvocationPriceProfileTierInput) (serviceTier : String) :
    mostSpecificTier tiers inputTokens serviceTier =
      firstBy compareStarts (coveringTiers tiers inputTokens serviceTier) :=
  head?_sortBy _

/-- Enabled tiers that pass a test within one service tier do not tie. -/
theorem InvocationPriceProfileInput.Catalogued.pairwise_starts (h : row.Catalogued)
    {p : InvocationPriceProfileTierInput → Bool}
    {serviceTier : String} (henabled : ∀ tier ∈ row.tiers, p tier → tier.status = "enabled")
    (hservice : ∀ tier ∈ row.tiers, p tier → tier.serviceTier = serviceTier) :
    (row.tiers.filter p).Pairwise fun a b => a.minInputTokens ≠ b.minInputTokens := by
  have hfilter : row.tiers.filter p = (row.tiers.filter (·.status = "enabled")).filter p := by
    rw [List.filter_filter]
    refine List.filter_congr fun tier htier => ?_
    by_cases hp : p tier
    · simp [hp, henabled tier htier hp]
    · simp [hp]
  rw [hfilter]
  refine (List.Pairwise.filter p h.distinct).imp_of_mem ?_
  intro a b ha hb hne
  have hmem : ∀ {tier}, tier ∈ (row.tiers.filter (·.status = "enabled")).filter p →
      tier.serviceTier = serviceTier := by
    intro tier htier
    obtain ⟨htier, hp⟩ := List.mem_filter.mp htier
    exact hservice tier (List.mem_filter.mp htier).1 hp
  exact hne ((hmem ha).trans (hmem hb).symm)

theorem coveringTiers_pairwise (h : row.Catalogued) (serviceTier : String) :
    (coveringTiers row.tiers inputTokens serviceTier).Pairwise fun a b =>
      a.minInputTokens ≠ b.minInputTokens := by
  unfold coveringTiers
  rw [List.filter_filter]
  have hservice : ∀ tier ∈ row.tiers, decide (tier.serviceTier = serviceTier) = true ∧
      tierCovers inputTokens tier = true → tier.serviceTier = serviceTier := by
    intro tier _ hp
    exact of_decide_eq_true hp.1
  refine h.pairwise_starts ?_ (by simpa using hservice)
  intro tier _ hp
  simp only [tierCovers, Bool.and_eq_true, decide_eq_true_eq] at hp
  exact hp.2.1.1

/-- The tier that starts highest does not depend on the order of the tiers. -/
theorem mostSpecificTier_perm (h : row.Catalogued) {tiers : List InvocationPriceProfileTierInput}
    (hperm : tiers.Perm row.tiers) (serviceTier : String) :
    mostSpecificTier tiers inputTokens serviceTier =
      mostSpecificTier row.tiers inputTokens serviceTier := by
  rw [mostSpecificTier_eq, mostSpecificTier_eq]
  refine (firstBy_perm ((hperm.filter _).filter _).symm ?_).symm
  exact (coveringTiers_pairwise h serviceTier).imp compareStarts_ne_eq

/-- A parsed profile matches the covering tier that starts highest, whatever the collation. -/
theorem matching_of_catalogued (localeCompare : String → String → Ordering) (h : row.Catalogued)
    (serviceTier : ProfileServiceTier) :
    (parsedProfile localeCompare row.enabled).matching localeCompare serviceTier inputTokens =
      (mostSpecificTier row.tiers inputTokens serviceTier.text).map parsedTier := by
  set cmp := fun a b => compareMatchingTiers localeCompare (parsedTier a) (parsedTier b)
  set order := fun a b => compareFrozenTiers localeCompare (tierDocument a) (tierDocument b)
  set p : InvocationPriceProfileTierInput → Bool := fun tier =>
    tier.storedServiceTier = serviceTier && tier.covers inputTokens
  have hfilter : row.enabled.tiers.filter p =
      coveringTiers row.tiers inputTokens serviceTier.text := by
    unfold coveringTiers InvocationPriceProfileInput.enabled
    rw [List.filter_filter, List.filter_filter]
    refine List.filter_congr fun tier htier => ?_
    have hword : decide (tier.storedServiceTier = serviceTier) =
        decide (tier.serviceTier = serviceTier.text) := by
      unfold InvocationPriceProfileTierInput.storedServiceTier
      rcases h.serviceTier tier htier with hword | hword <;> rw [hword] <;>
        cases serviceTier <;> decide
    simp only [p, tierCovers, InvocationPriceProfileTierInput.covers, hword]
    cases decide (tier.status = "enabled") <;>
      cases decide (tier.serviceTier = serviceTier.text) <;>
      simp
  have hperm : ((sortBy order row.enabled.tiers).filter p).Perm
      (coveringTiers row.tiers inputTokens serviceTier.text) := by
    rw [← hfilter]
    exact (perm_sortBy _).filter p
  have hdistinct := @coveringTiers_pairwise _ inputTokens h serviceTier.text
  have hdistinct' : ((sortBy order row.enabled.tiers).filter p).Pairwise fun a b =>
      a.minInputTokens ≠ b.minInputTokens :=
    hperm.symm.pairwise hdistinct fun hne => hne.symm
  -- where starts differ, keys are not compared
  have hcongr : firstBy cmp ((sortBy order row.enabled.tiers).filter p) =
      firstBy compareStarts ((sortBy order row.enabled.tiers).filter p) := by
    refine firstBy_congr (hdistinct'.imp fun {a b} hne => ?_)
    have hne' : compare b.minInputTokens a.minInputTokens ≠ .eq := compareStarts_ne_eq hne
    change (compare b.minInputTokens a.minInputTokens).then _ = compare b.minInputTokens _
    cases hcompare : compare b.minInputTokens a.minInputTokens with
    | lt => rfl
    | eq => exact absurd hcompare hne'
    | gt => rfl
  rw [FrozenPriceProfile.matching, head?_sortBy, parsedProfile, List.filter_map, firstBy_map,
    mostSpecificTier_eq]
  change Option.map parsedTier (firstBy cmp ((sortBy order row.enabled.tiers).filter p)) = _
  rw [hcongr, firstBy_perm hperm (hdistinct'.imp compareStarts_ne_eq)]

/-! ### The base price -/

/-- The base price covers the counts below every enabled standard tier. -/
theorem baseCoversStandardInput_eq (h : row.Catalogued) :
    (sortBy (fun left right => compare left.minInputTokens right.minInputTokens)
      (row.tiers.filter fun tier => tier.status = "enabled" &&
        tier.serviceTier = "standard")).head?.all
        (inputTokens < ·.minInputTokens) = decide (row.enabled.BelowStandard inputTokens) := by
  have htrans : Std.TransCmp fun left right : InvocationPriceProfileTierInput =>
      compare left.minInputTokens right.minInputTokens :=
    transCmp_map (fun a b : Int => compare a b) InvocationPriceProfileTierInput.minInputTokens
  rw [head?_sortBy, Bool.eq_iff_iff, decide_eq_true_eq]
  set standard := row.tiers.filter fun tier =>
    tier.status = "enabled" && tier.serviceTier = "standard"
  have hmem : ∀ tier, tier ∈ standard ↔
      tier ∈ row.enabled.tiers ∧ tier.storedServiceTier = .standard := by
    intro tier
    simp only [standard, InvocationPriceProfileInput.enabled, List.mem_filter, Bool.and_eq_true,
      decide_eq_true_eq, and_assoc]
    refine and_congr_right fun htier => and_congr_right fun _ => ?_
    unfold InvocationPriceProfileTierInput.storedServiceTier
    rcases h.serviceTier tier htier with hword | hword <;> rw [hword] <;> decide
  have hbelow : row.enabled.BelowStandard inputTokens ↔
      ∀ tier ∈ standard, inputTokens < tier.minInputTokens := by
    constructor
    · intro hall tier htier
      exact hall tier ((hmem tier).mp htier).1 ((hmem tier).mp htier).2
    · intro hall tier htier hstandard
      exact hall tier ((hmem tier).mpr ⟨htier, hstandard⟩)
  rw [hbelow]
  cases hfirst : firstBy (fun left right : InvocationPriceProfileTierInput =>
      compare left.minInputTokens right.minInputTokens) standard with
  | none =>
    have hempty := firstBy_eq_none_iff.mp hfirst
    simp [hempty]
  | some first =>
    have hleast := isLE_of_firstBy hfirst
    simp only [Option.all_some, decide_eq_true_eq]
    constructor
    · intro hlt tier htier
      have hle : first.minInputTokens ≤ tier.minInputTokens :=
        Int.isLE_compare.mp (hleast tier htier)
      omega
    · intro hall
      exact hall first (firstBy_mem hfirst)

/-! ### Both paths -/

theorem encodeFrozenPriceProfile_enabled (localeCompare : String → String → Ordering) :
    encodeFrozenPriceProfile localeCompare row =
      encodeFrozenPriceProfile localeCompare row.enabled := by
  unfold encodeFrozenPriceProfile InvocationPriceProfileInput.enabled
  simp only [List.filter_filter, Bool.and_self]

/-- The tier and the base price that a count may be priced at, in either path. -/
inductive Priced (row : InvocationPriceProfileInput) (inputTokens : Int)
    (requested : ProfileServiceTier) : Option InvocationPriceProfileTierInput → Prop where
  | tier (tier : InvocationPriceProfileTierInput)
      (hfound : mostSpecificTier row.tiers inputTokens requested.text = some tier) :
      Priced row inputTokens requested (some tier)
  | base (hstandard : requested = .standard)
      (hnone : mostSpecificTier row.tiers inputTokens requested.text = none)
      (hbelow : row.enabled.BelowStandard inputTokens) : Priced row inputTokens requested none

/-- The price of a protected admission. -/
def frozenPrice (row : InvocationPriceProfileInput)
    (tier : Option InvocationPriceProfileTierInput) : FrozenPriceRow :=
  let units := (tier.map (·.toFrozenPriceUnits)).getD row.toFrozenPriceUnits
  let serviceTier := (tier.map (·.serviceTier)).getD "standard"
  let tierKey := (tier.map (·.tierKey)).getD "legacy_flat"
  ⟨units, serviceTier, tierKey, encodeFrozenPriceUnits units serviceTier tierKey⟩

theorem freezePriceRow_eq_ok_iff (h : row.Catalogued) {requested : ProfileServiceTier}
    {price : FrozenPriceRow} :
    freezePriceRow row inputTokens requested.text = .ok price ↔
      ∃ tier, Priced row inputTokens requested tier ∧ price = frozenPrice row tier := by
  unfold freezePriceRow
  simp only [baseCoversStandardInput_eq h, bind_eq_ok, rejectIf_eq_ok, pure_eq_ok, Except.ok.injEq]
  constructor
  · rintro ⟨-, -, -, hpriority, -, hcovered, hprice⟩
    cases hfound : mostSpecificTier row.tiers inputTokens requested.text with
    | some tier =>
      rw [hfound] at hprice
      exact ⟨some tier, .tier tier hfound, hprice.symm⟩
    | none =>
      cases requested with
      | priority => exact absurd ⟨by decide, hfound⟩ hpriority
      | standard =>
        have hfound' : mostSpecificTier row.tiers inputTokens "standard" = none := hfound
        rw [hfound, hfound'] at hprice
        have hbelow : row.enabled.BelowStandard inputTokens := by
          by_contra hnot
          exact hcovered ⟨rfl, hfound', by simpa using hnot⟩
        exact ⟨none, .base rfl hfound hbelow, hprice.symm⟩
  · rintro ⟨tier, hpriced, rfl⟩
    refine ⟨(), not_not.mpr h.status, (), ?_, (), ?_, ?_⟩
    · rintro ⟨hword, hnone⟩
      cases hpriced with
      | tier tier hfound => cases hnone.symm.trans hfound
      | base hstandard => exact hword (hstandard ▸ rfl)
    · rintro ⟨hword, hnone, hnot⟩
      cases hpriced with
      | tier tier hfound =>
        rw [hword] at hfound
        cases hnone.symm.trans hfound
      | base hstandard hnone' hbelow => exact hnot (by simpa using hbelow)
    · cases hpriced with
      | tier tier hfound =>
        rw [hfound]
        rfl
      | base hstandard hnone hbelow =>
        subst hstandard
        have hnone' : mostSpecificTier row.tiers inputTokens "standard" = none := hnone
        rw [hnone, hnone']
        rfl

/-- The selection of a claimless settlement. -/
def selectedPrice (row : InvocationPriceProfileInput)
    (tier : Option InvocationPriceProfileTierInput) : SelectedFrozenPriceProfile :=
  let units := (tier.map (·.toFrozenPriceUnits)).getD row.toFrozenPriceUnits
  let serviceTier := (tier.map (·.storedServiceTier)).getD .standard
  let tierKey := (tier.map (·.tierKey)).getD "short_context"
  ⟨units, serviceTier, tierKey, encodeFrozenPriceUnits units serviceTier.text tierKey⟩

theorem normalizedProfileServiceTier_text (requested : ProfileServiceTier) :
    normalizedProfileServiceTier requested.text = requested := by
  cases requested <;> decide

theorem selectFrozenPriceProfile_eq_ok_iff (localeCompare : String → String → Ordering)
    (h : row.Catalogued) (hinput : FitsInt64 inputTokens) {requested : ProfileServiceTier}
    {selected : SelectedFrozenPriceProfile} :
    (encodeFrozenPriceProfile localeCompare row >>= fun document =>
      selectFrozenPriceProfile localeCompare document inputTokens requested.text
        (requested = .priority)) = .ok selected ↔
      ∃ tier, Priced row inputTokens requested tier ∧ selected = selectedPrice row tier := by
  have hencode := (encodeFrozenPriceProfile_eq_ok_iff localeCompare h.enabledTiers).mpr
    ⟨h.accepted, rfl⟩
  have hparse := parseFrozenPriceProfile_profileDocument localeCompare h.accepted
  change _ = Except.ok (parsedProfile localeCompare row.enabled) at hparse
  have hassert : assertNonNegative inputTokens "inputTokens" = .ok () :=
    assertNonNegative_eq_ok_iff.mpr hinput
  -- what is encoded is parsed back
  rw [encodeFrozenPriceProfile_enabled, hencode, bind_ok]
  simp only [selectFrozenPriceProfile, hassert, hparse, bind_ok, matching_of_catalogued _ h,
    parsedProfile_belowStandard, normalizedProfileServiceTier_text]
  cases hfound : mostSpecificTier row.tiers inputTokens requested.text with
  | some tier =>
    rw [rejectIf_of_not (by simp), bind_ok]
    have hpriced : ∀ other, Priced row inputTokens requested other ↔ other = some tier := by
      intro other
      constructor
      · rintro (⟨found, hother⟩ | ⟨-, hnone, -⟩)
        · exact hother.symm.trans hfound
        · cases hnone.symm.trans hfound
      · rintro rfl
        exact .tier tier hfound
    simp only [hpriced, exists_eq_left]
    exact ⟨fun heq => (Except.ok.inj heq).symm, fun heq => congrArg Except.ok heq.symm⟩
  | none =>
    cases requested with
    -- without a tier the base price is for the standard service only
    | priority =>
      rw [rejectIf_of (by simp)]
      refine iff_of_false (fun heq => by cases heq) ?_
      rintro ⟨_, ⟨tier, hother⟩ | ⟨hstandard, -, -⟩, -⟩
      · cases hfound.symm.trans hother
      · cases hstandard
    | standard =>
      have hfound' : mostSpecificTier row.tiers inputTokens ProfileServiceTier.standard.text =
          none := hfound
      rw [rejectIf_of_not (by simp), bind_ok, hfound']
      by_cases hbelow : row.enabled.BelowStandard inputTokens
      · simp only [hbelow, Option.map_none, decide_true, if_true]
        constructor
        · intro heq
          exact ⟨none, .base rfl hfound hbelow, (Except.ok.inj heq).symm⟩
        · rintro ⟨_, ⟨tier, hother⟩ | ⟨-, -, -⟩, rfl⟩
          · cases hfound.symm.trans hother
          · rfl
      · simp only [hbelow, Option.map_none, decide_false]
        refine iff_of_false (fun heq => by cases heq) ?_
        rintro ⟨_, ⟨tier, hother⟩ | ⟨-, -, hbelow'⟩, -⟩
        · cases hfound.symm.trans hother
        · exact hbelow hbelow'

/-- What a count is priced at does not depend on the order of the tiers. -/
theorem Priced.perm (h : row.Catalogued) {tiers : List InvocationPriceProfileTierInput}
    (hperm : tiers.Perm row.tiers) {requested : ProfileServiceTier}
    {tier : Option InvocationPriceProfileTierInput} :
    Priced { row with tiers := tiers } inputTokens requested tier ↔
      Priced row inputTokens requested tier := by
  have hsame := @mostSpecificTier_perm _ inputTokens h _ hperm requested.text
  have hbelow : InvocationPriceProfileInput.BelowStandard
      (InvocationPriceProfileInput.enabled { row with tiers := tiers }) inputTokens ↔
        row.enabled.BelowStandard inputTokens := by
    have hmem : ∀ {other}, other ∈ tiers.filter (·.status = "enabled") ↔
        other ∈ row.tiers.filter (·.status = "enabled") := (hperm.filter _).mem_iff
    exact ⟨fun hall other hother => hall other (hmem.mpr hother),
      fun hall other hother => hall other (hmem.mp hother)⟩
  constructor
  · intro hpriced
    cases hpriced with
    | tier tier hfound => exact .tier tier (hsame.symm.trans hfound)
    | base hstandard hnone hlow => exact .base hstandard (hsame.symm.trans hnone) (hbelow.mp hlow)
  · intro hpriced
    cases hpriced with
    | tier tier hfound => exact .tier tier (hsame.trans hfound)
    | base hstandard hnone hlow => exact .base hstandard (hsame.trans hnone) (hbelow.mpr hlow)

/-- Each path gives the same price for the same tiers in another order, if it gives one. -/
def OrderIndependent {ε α : Type} (row : InvocationPriceProfileInput)
    (price : InvocationPriceProfileInput → Except ε α) : Prop :=
  ∀ tiers : List InvocationPriceProfileTierInput, tiers.Perm row.tiers →
    (price { row with tiers := tiers }).toOption = (price row).toOption

/-- **Protected and claimless prices agree.** -/
theorem freezePriceRow_eq_selectFrozenPriceProfile (localeCompare : String → String → Ordering)
    (row : InvocationPriceProfileInput) (inputTokens : Int) (requested : ProfileServiceTier)
    (h : row.Catalogued) (hinput : FitsInt64 inputTokens) :
    let frozen := fun row => freezePriceRow row inputTokens requested.text
    let selected := fun row => encodeFrozenPriceProfile localeCompare row >>= fun document =>
      selectFrozenPriceProfile localeCompare document inputTokens requested.text
        (requested = .priority)
    ((∃ price, frozen row = .ok price) ↔ ∃ profile, selected row = .ok profile) ∧
      (∀ price profile, frozen row = .ok price → selected row = .ok profile →
        price.units = profile.units ∧ price.serviceTier = profile.serviceTier.text) ∧
      OrderIndependent row frozen ∧ OrderIndependent row selected := by
  intro frozen selected
  have hfrozen := @freezePriceRow_eq_ok_iff row inputTokens h requested
  have hselected := @selectFrozenPriceProfile_eq_ok_iff row inputTokens localeCompare h hinput
    requested
  refine ⟨?_, ?_, ?_, ?_⟩
  · constructor
    · rintro ⟨price, hprice⟩
      obtain ⟨tier, hpriced, -⟩ := hfrozen.mp hprice
      exact ⟨_, hselected.mpr ⟨tier, hpriced, rfl⟩⟩
    · rintro ⟨profile, hprofile⟩
      obtain ⟨tier, hpriced, -⟩ := hselected.mp hprofile
      exact ⟨_, hfrozen.mpr ⟨tier, hpriced, rfl⟩⟩
  · intro price profile hprice hprofile
    obtain ⟨tier, hpriced, rfl⟩ := hfrozen.mp hprice
    obtain ⟨tier', hpriced', rfl⟩ := hselected.mp hprofile
    -- the tier is the same one, and a catalogued tier names its service tier
    cases hpriced with
    | tier tier hfound =>
      cases hpriced' with
      | tier other hother =>
        cases hfound.symm.trans hother
        refine ⟨rfl, ?_⟩
        have hmem : tier ∈ row.tiers := by
          rw [mostSpecificTier_eq] at hfound
          exact (List.mem_filter.mp (List.mem_filter.mp (firstBy_mem hfound)).1).1
        change tier.serviceTier = tier.storedServiceTier.text
        unfold InvocationPriceProfileTierInput.storedServiceTier
        rcases h.serviceTier tier hmem with hword | hword <;> rw [hword] <;> decide
      | base hstandard hnone hbelow => cases hnone.symm.trans hfound
    | base hstandard hnone hbelow =>
      cases hpriced' with
      | tier other hother => cases hnone.symm.trans hother
      | base => exact ⟨rfl, rfl⟩
  · -- the tiers in another order price the same
    intro tiers hperm
    refine toOption_eq_of_iff fun price => ?_
    have hother := @freezePriceRow_eq_ok_iff { row with tiers := tiers } inputTokens (h.perm hperm)
      requested price
    simp only [frozen, hother, hfrozen, Priced.perm h hperm]
    rfl
  · intro tiers hperm
    refine toOption_eq_of_iff fun profile => ?_
    have hother := @selectFrozenPriceProfile_eq_ok_iff { row with tiers := tiers } inputTokens
      localeCompare (h.perm hperm) hinput requested profile
    simp only [selected, hother, hselected, Priced.perm h hperm]
    rfl

/-- A row with two standard tiers, the second of them for long inputs. -/
def twoTierPrice : InvocationPriceProfileInput where
  inputPriceUnitsPer1M := 1
  cachedInputPriceUnitsPer1M := 1
  cacheWritePriceUnitsPer1M := none
  outputPriceUnitsPer1M := 1
  status := "enabled"
  tiers := [⟨⟨2, 2, none, 2⟩, "enabled", "standard", "long", 200, none⟩,
    ⟨⟨3, 3, none, 3⟩, "enabled", "standard", "short", 10, some 199⟩]

theorem twoTierPrice_catalogued : twoTierPrice.Catalogued where
  status := rfl
  base := ⟨by decide, by decide, by decide, by decide⟩
  serviceTier := by decide
  tiers := by
    intro tier htier
    simp only [twoTierPrice, List.mem_cons, List.not_mem_nil, or_false] at htier
    rcases htier with rfl | rfl <;>
      exact ⟨by decide, by decide, by decide, by decide,
        ⟨by decide, by decide, by decide, by decide⟩⟩
  distinct := by decide

theorem freezePriceRow_eq_selectFrozenPriceProfile_twoTierPrice :
    let frozen := fun row => freezePriceRow row 250 ProfileServiceTier.standard.text
    let selected := fun row => encodeFrozenPriceProfile compare row >>= fun document =>
      selectFrozenPriceProfile compare document 250 ProfileServiceTier.standard.text
        (ProfileServiceTier.standard = .priority)
    ((∃ price, frozen twoTierPrice = .ok price) ↔
        ∃ profile, selected twoTierPrice = .ok profile) ∧
      (∀ price profile, frozen twoTierPrice = .ok price → selected twoTierPrice = .ok profile →
        price.units = profile.units ∧ price.serviceTier = profile.serviceTier.text) ∧
      OrderIndependent twoTierPrice frozen ∧ OrderIndependent twoTierPrice selected :=
  freezePriceRow_eq_selectFrozenPriceProfile compare twoTierPrice 250 .standard
    twoTierPrice_catalogued (by decide)

end Frely.Billing
