import Frely.Billing.Equiv.FrozenPriceProfile
import Frely.Pricing.SelectPrice

/-!
# Quotes against settlements

`selectPriceForUsage` quotes a token count at the covering tier with the *lowest* lower bound
(`quotedUnits_eq`), while the frozen profile of the same row is settled at the covering tier with
the *highest* one (`settledUnits_of_accepted`).  The two agree on a row whose tiers do not
overlap; `samePrice_iff` says for every row exactly when they do.  The pricing package also takes
the requested word `fast` for the priority tier, which the frozen profile does not.
-/

namespace Frely.Pricing

open Checked StableSort Billing

/-! ### A price row as the pricing package reads it -/

/-- A frozen tier as the other package has it. -/
def quotedTier (tier : InvocationPriceProfileTierInput) : PriceTierLike Int where
  serviceTier := some tier.serviceTier
  tierKey := tier.tierKey
  minInputTokens := tier.minInputTokens
  maxInputTokens := tier.maxInputTokens
  inputPer1M := tier.inputPriceUnitsPer1M
  cachedInputPer1M := tier.cachedInputPriceUnitsPer1M
  cacheWritePer1M := some tier.cacheWritePriceUnitsPer1M
  outputPer1M := tier.outputPriceUnitsPer1M
  status := some tier.status

/-- A frozen price as the other package has it. -/
def quotedPrice (row : InvocationPriceProfileInput) : PriceProfile Int where
  inputPer1M := row.inputPriceUnitsPer1M
  cachedInputPer1M := row.cachedInputPriceUnitsPer1M
  cacheWritePer1M := some row.cacheWritePriceUnitsPer1M
  outputPer1M := row.outputPriceUnitsPer1M
  tiers := some (row.tiers.map quotedTier)

/-- The four unit prices of a selected tier. -/
def SelectedPriceTier.units (tier : SelectedPriceTier Int) : FrozenPriceUnits where
  inputPriceUnitsPer1M := tier.inputPer1M
  cachedInputPriceUnitsPer1M := tier.cachedInputPer1M
  cacheWritePriceUnitsPer1M := tier.cacheWritePer1M
  outputPriceUnitsPer1M := tier.outputPer1M

/-- The service tier of the pricing package for one of a frozen profile. -/
def priceServiceTier : ProfileServiceTier → PriceServiceTier
  | .standard => .standard
  | .priority => .priority

/-- The service tier a quote is asked for. -/
def quotedServiceTier (requested : String) : ProfileServiceTier :=
  if normalizedWord requested = "priority" ∨ normalizedWord requested = "fast" then .priority
  else .standard

section Quote

variable {row : InvocationPriceProfileInput} {inputTokens : Int}

theorem normalizeRuntimePriceServiceTier_eq (requested : String) :
    normalizeRuntimePriceServiceTier (some requested) =
      priceServiceTier (quotedServiceTier requested) := by
  simp only [normalizeRuntimePriceServiceTier, quotedServiceTier, Option.getD_some]
  split_ifs <;> rfl

theorem normalizeStoredPriceServiceTier_eq {tier : InvocationPriceProfileTierInput}
    (h : tier.serviceTier = "standard" ∨ tier.serviceTier = "priority") :
    normalizeStoredPriceServiceTier (some tier.serviceTier) =
      priceServiceTier tier.storedServiceTier := by
  unfold InvocationPriceProfileTierInput.storedServiceTier
  rcases h with h | h <;> rw [h] <;> decide

theorem priceServiceTier_injective {a b : ProfileServiceTier} :
    priceServiceTier a = priceServiceTier b ↔ a = b := by
  cases a <;> cases b <;> decide

variable (localeCompare : String → String → Ordering)

/-- The order in which covering tiers are preferred by a quote: the lowest lower bound first. -/
def compareQuotedTiers (left right : InvocationPriceProfileTierInput) : Ordering :=
  (compare left.minInputTokens right.minInputTokens).then
    (localeCompare left.tierKey right.tierKey)

/-- The covering tier with the lowest lower bound, ties by key. -/
def lowestCovering (row : InvocationPriceProfileInput) (inputTokens : Int)
    (serviceTier : ProfileServiceTier) : Option InvocationPriceProfileTierInput :=
  firstBy (compareQuotedTiers localeCompare) (row.covering serviceTier inputTokens)

theorem compareQuotedTiers_transCmp [Std.TransCmp localeCompare] :
    Std.TransCmp (compareQuotedTiers localeCompare) := by
  have hkey : Std.TransCmp fun a b : InvocationPriceProfileTierInput =>
      localeCompare a.tierKey b.tierKey :=
    transCmp_map localeCompare InvocationPriceProfileTierInput.tierKey
  have hmin : Std.TransCmp fun a b : InvocationPriceProfileTierInput =>
      compare a.minInputTokens b.minInputTokens :=
    transCmp_map (fun a b : Int => compare a b) InvocationPriceProfileTierInput.minInputTokens
  exact inferInstanceAs (Std.TransCmp (compareLex _ _))

/-- The enabled tiers of a row, as the pricing package sorts them. -/
theorem enabledTiers_quotedPrice (hrow : row.EnabledTiers) (serviceTier : ProfileServiceTier) :
    enabledTiers localeCompare (quotedPrice row) (priceServiceTier serviceTier) =
      (sortBy (compareQuotedTiers localeCompare)
          (row.tiers.filter (·.storedServiceTier = serviceTier))).map
        fun tier => (quotedTier tier).selected (priceServiceTier serviceTier) := by
  have hfilter : row.tiers.filter ((fun tier : PriceTierLike Int =>
      decide (normalizeStoredPriceServiceTier tier.serviceTier = priceServiceTier serviceTier) &&
        decide (normalizeStatus tier.status = .enabled)) ∘ quotedTier) =
      row.tiers.filter (·.storedServiceTier = serviceTier) := by
    refine List.filter_congr fun tier htier => ?_
    have hstatus : normalizeStatus (some tier.status) = .enabled := by
      rw [hrow.status tier htier]
      decide
    have hword := normalizeStoredPriceServiceTier_eq (hrow.serviceTier tier htier)
    simp only [Function.comp_apply, quotedTier, hstatus, hword, priceServiceTier_injective,
      decide_true, Bool.and_true]
  rw [enabledTiers, quotedPrice, Option.getD_some, List.filter_map, hfilter, List.map_map,
    sortBy_map]
  rfl

variable [Std.TransCmp localeCompare]

variable (inputTokens) in
/-- Searching the sorted tiers finds the covering tier with the lowest lower bound. -/
theorem findTierForInputTokens_enabledTiers (hrow : row.EnabledTiers)
    (serviceTier : ProfileServiceTier) :
    findTierForInputTokens
        (enabledTiers localeCompare (quotedPrice row) (priceServiceTier serviceTier)) inputTokens =
      (lowestCovering localeCompare row (max 0 inputTokens) serviceTier).map
        fun tier => (quotedTier tier).selected (priceServiceTier serviceTier) := by
  have htrans := compareQuotedTiers_transCmp localeCompare
  rw [findTierForInputTokens, enabledTiers_quotedPrice localeCompare hrow, List.find?_map,
    find?_sortBy, List.filter_filter]
  have hcovers : (fun tier : InvocationPriceProfileTierInput =>
      ((fun x : SelectedPriceTier Int => x.covers (max 0 inputTokens)) ∘ fun tier =>
        (quotedTier tier).selected (priceServiceTier serviceTier)) tier &&
        decide (tier.storedServiceTier = serviceTier)) =
      fun tier => decide (tier.storedServiceTier = serviceTier) &&
        tier.covers (max 0 inputTokens) := by
    funext tier
    exact Bool.and_comm _ _
  rw [hcovers]
  rfl

variable (inputTokens) in
/-- The first of the sorted standard tiers starts lowest. -/
theorem belowStandard_iff_of_enabledTiers (hrow : row.EnabledTiers)
    {first : SelectedPriceTier Int} {rest : List (SelectedPriceTier Int)}
    (h : enabledTiers localeCompare (quotedPrice row) .standard = first :: rest) :
    row.BelowStandard inputTokens ↔ inputTokens < first.minInputTokens := by
  have htrans := compareQuotedTiers_transCmp localeCompare
  have htiers := enabledTiers_quotedPrice localeCompare hrow .standard
  have hhead := congrArg List.head? (h.symm.trans htiers)
  rw [List.head?_map, head?_sortBy, List.head?_cons] at hhead
  obtain ⟨lowest, hlowest, rfl⟩ := Option.map_eq_some_iff.mp hhead.symm
  have hmem := List.mem_filter.mp (firstBy_mem hlowest)
  constructor
  · intro hbelow
    exact hbelow lowest hmem.1 (of_decide_eq_true hmem.2)
  · intro hlt tier htier hstandard
    have hle := isLE_of_firstBy hlowest tier
      (List.mem_filter.mpr ⟨htier, decide_eq_true hstandard⟩)
    rw [compareQuotedTiers, Ordering.isLE_then_iff_and] at hle
    have hmin : lowest.minInputTokens ≤ tier.minInputTokens := Int.isLE_compare.mp hle.1
    exact lt_of_lt_of_le hlt hmin

variable (inputTokens) in
omit [Std.TransCmp localeCompare] in
theorem belowStandard_of_enabledTiers_nil (hrow : row.EnabledTiers)
    (h : enabledTiers localeCompare (quotedPrice row) .standard = []) :
    row.BelowStandard inputTokens := by
  have htiers := h.symm.trans (enabledTiers_quotedPrice localeCompare hrow .standard)
  intro tier htier hstandard
  have hmem : tier ∈ sortBy (compareQuotedTiers localeCompare)
      (row.tiers.filter (·.storedServiceTier = .standard)) :=
    mem_sortBy.mpr (List.mem_filter.mpr ⟨htier, decide_eq_true hstandard⟩)
  rw [List.map_eq_nil_iff.mp htiers.symm] at hmem
  exact absurd hmem List.not_mem_nil

omit [Std.TransCmp localeCompare] in
/-- Below every standard tier none of them covers the count. -/
theorem lowestCovering_standard_of_below (h : row.BelowStandard inputTokens) :
    lowestCovering localeCompare row inputTokens .standard = none := by
  rw [lowestCovering, firstBy_eq_none_iff, InvocationPriceProfileInput.covering,
    List.filter_eq_nil_iff]
  intro tier htier
  rw [Bool.and_eq_true, InvocationPriceProfileTierInput.covers, Bool.and_eq_true, not_and]
  intro hstandard hcovers
  have hlt := h tier htier (of_decide_eq_true hstandard)
  exact absurd (of_decide_eq_true hcovers.1) (not_le.mpr hlt)

variable (inputTokens) in
/-- The standard profile quotes the standard price: its implicit first tier covers a count exactly
below every standard tier. -/
theorem findTierForInputTokens_standard (hrow : row.EnabledTiers) :
    (findTierForInputTokens (effectiveServiceTierProfile localeCompare (quotedPrice row) .standard
        true) inputTokens).map (·.units) =
      row.standardUnits (lowestCovering localeCompare row (max 0 inputTokens))
        (max 0 inputTokens) := by
  have hfind := findTierForInputTokens_enabledTiers inputTokens localeCompare
    hrow .standard
  change findTierForInputTokens (enabledTiers localeCompare (quotedPrice row) .standard)
    inputTokens = _ at hfind
  have hzero : 0 ≤ max 0 inputTokens := le_max_left _ _
  rw [effectiveServiceTierProfile, serviceTierProfile]
  simp only [ne_eq, not_true_eq_false, or_self, if_false]
  cases htiers : enabledTiers localeCompare (quotedPrice row) .standard with
  | nil =>
    have hbelow := belowStandard_of_enabledTiers_nil
      (max 0 inputTokens) localeCompare hrow htiers
    have hnone := lowestCovering_standard_of_below localeCompare hbelow
    simp [findTierForInputTokens, implicitStandardTier, SelectedPriceTier.covers,
      InvocationPriceProfileInput.standardUnits, hnone, hbelow, SelectedPriceTier.units,
      quotedPrice, cacheWriteOrInput]
  | cons first rest =>
    have hbelow_iff := belowStandard_iff_of_enabledTiers
      (max 0 inputTokens) localeCompare hrow htiers
    rw [htiers] at hfind
    have hunits : (findTierForInputTokens (first :: rest) inputTokens).map (·.units) =
        (lowestCovering localeCompare row (max 0 inputTokens) .standard).map
          (·.toFrozenPriceUnits) := by
      rw [hfind, Option.map_map]
      rfl
    by_cases hbelow : row.BelowStandard (max 0 inputTokens)
    · -- the implicit tier ends right before the first standard one
      have hlt := hbelow_iff.mp hbelow
      have hnone := lowestCovering_standard_of_below localeCompare hbelow
      have hpos : 0 < first.minInputTokens := lt_of_le_of_lt hzero hlt
      have hle : max 0 inputTokens ≤ first.minInputTokens - 1 := by omega
      simp only [if_pos hpos, findTierForInputTokens, List.find?_cons, SelectedPriceTier.covers,
        implicitStandardTier, Option.all_some, decide_eq_true hzero, decide_eq_true hle,
        Bool.and_self, InvocationPriceProfileInput.standardUnits, hnone, if_pos hbelow]
      rfl
    · have hge : first.minInputTokens ≤ max 0 inputTokens := not_lt.mp (hbelow_iff.not.mp hbelow)
      have hskip : (findTierForInputTokens
          (if 0 < first.minInputTokens then
            implicitStandardTier (quotedPrice row) (some (first.minInputTokens - 1)) ::
              (first :: rest)
          else first :: rest) inputTokens) =
          findTierForInputTokens (first :: rest) inputTokens := by
        split_ifs with hpos
        · have hnot : ¬max 0 inputTokens ≤ first.minInputTokens - 1 := by omega
          rw [findTierForInputTokens, List.find?_cons_of_neg]
          · rfl
          · rw [SelectedPriceTier.covers, implicitStandardTier, Option.all_some,
              decide_eq_false hnot, Bool.and_false]
            exact Bool.false_ne_true
        · rfl
      rw [hskip, hunits, InvocationPriceProfileInput.standardUnits, if_neg hbelow]
      simp

variable (inputTokens) in
/-- A requested priority profile has no implicit tier. -/
theorem findTierForInputTokens_priority (hrow : row.EnabledTiers) :
    findTierForInputTokens (effectiveServiceTierProfile localeCompare (quotedPrice row) .priority
        false) inputTokens =
      (lowestCovering localeCompare row (max 0 inputTokens) .priority).map
        fun tier => (quotedTier tier).selected .priority := by
  have hfind := findTierForInputTokens_enabledTiers inputTokens localeCompare
    hrow .priority
  rw [effectiveServiceTierProfile, serviceTierProfile, if_pos (.inl (by decide))]
  exact hfind

/-- **The quoted price**: a quote takes the covering tier with the lowest lower bound. -/
theorem quotedUnits_eq (hrow : row.EnabledTiers) (requested : String) (required : Bool) :
    ((selectPriceForUsage localeCompare (quotedPrice row) inputTokens (some requested)
        required).toOption.map (·.selectedTier.units)) =
      row.pricedUnits (lowestCovering localeCompare row (max 0 inputTokens))
        (quotedServiceTier requested) required (max 0 inputTokens) := by
  have hstandard := findTierForInputTokens_standard inputTokens localeCompare hrow
  have hpriority := findTierForInputTokens_priority inputTokens localeCompare hrow
  set choice := lowestCovering localeCompare row (max 0 inputTokens)
  unfold effectiveServiceTierProfile at hstandard hpriority
  simp only [selectPriceForUsage, selectPrice, normalizeRuntimePriceServiceTier_eq]
  cases quotedServiceTier requested with
  | standard =>
    rw [pricedUnits_standard, ← hstandard]
    simp only [priceServiceTier, if_true]
    rw [rejectIf_of_not (by simp), bind_ok]
    cases findTierForInputTokens (serviceTierProfile localeCompare (· - 1) (quotedPrice row)
      .standard true) inputTokens <;> rfl
  | priority =>
    simp only [priceServiceTier, reduceCtorEq, if_false, hpriority]
    cases hchoice : choice .priority with
    | none =>
      rw [pricedUnits_priority_of_none hchoice, ← hstandard]
      by_cases hrequired : required = true
      · -- the required tier is missing: both stop
        rw [rejectIf_of (by simp [hrequired]), if_pos hrequired]
        rfl
      · rw [rejectIf_of_not (by simp [hrequired]), bind_ok, if_neg hrequired]
        cases findTierForInputTokens (serviceTierProfile localeCompare (· - 1) (quotedPrice row)
          .standard true) inputTokens <;> rfl
    | some tier =>
      rw [rejectIf_of_not (by simp), bind_ok, pricedUnits_priority_of_some hchoice]
      rfl

end Quote

/-! ### Agreement -/

section Agreement

variable (localeCompare : String → String → Ordering) (row : InvocationPriceProfileInput)
  (inputTokens : Int) (requested : String) (required : Bool)

/-- The quote and the settlement of a usage both fail or take the same four unit prices. -/
def SamePrice : Prop :=
  (selectPriceForUsage localeCompare (quotedPrice row) inputTokens (some requested)
      required).toOption.map (·.selectedTier.units) =
    (encodeFrozenPriceProfile localeCompare row >>= fun document =>
      selectFrozenPriceProfile localeCompare document inputTokens requested required).toOption.map
      (·.units)

/-- No covering tier of the asked service tier exists, although one is required. -/
def RequiredTierMissing : Prop :=
  required ∧ quotedServiceTier requested = .priority ∧ row.covering .priority inputTokens = []

/-- No enabled tier covers the count, and the base price does not apply either. -/
def NoStandardPrice : Prop :=
  row.covering .standard inputTokens = [] ∧ ¬row.BelowStandard inputTokens

/-- The service tier that prices the request: the asked one where it covers the count. -/
def pricingServiceTier : ProfileServiceTier :=
  if quotedServiceTier requested = .priority ∧ row.covering .priority inputTokens ≠ [] then
    .priority
  else .standard

/-- The lowest and the highest covering tier have the same four prices. -/
def OneCoveringPrice (serviceTier : ProfileServiceTier) : Prop :=
  (lowestCovering localeCompare row inputTokens serviceTier).map (·.toFrozenPriceUnits) =
    (highestCovering localeCompare row inputTokens serviceTier).map (·.toFrozenPriceUnits)

/-- When quote and settlement take the same price.

A row the frozen profile refuses must have no quote either.  Otherwise the covering tiers with
the lowest and the highest lower bound must have the same prices; and for the word `fast`, which
only the quote takes for the priority tier, a covering priority tier must have the standard
price. -/
def PricesAgree : Prop :=
  (row.Accepted ∧ FitsInt64 inputTokens →
    if normalizedWord requested = "fast" ∧
        (required ∨ row.covering .priority inputTokens ≠ []) then
      if row.covering .priority inputTokens = [] then NoStandardPrice row inputTokens
      else (lowestCovering localeCompare row inputTokens .priority).map (·.toFrozenPriceUnits) =
        row.standardUnits (highestCovering localeCompare row inputTokens) inputTokens
    else RequiredTierMissing row inputTokens requested required ∨
      OneCoveringPrice localeCompare row inputTokens
        (pricingServiceTier row inputTokens requested)) ∧
  (¬(row.Accepted ∧ FitsInt64 inputTokens) →
    RequiredTierMissing row (max 0 inputTokens) requested required ∨
      (pricingServiceTier row (max 0 inputTokens) requested = .standard ∧
        NoStandardPrice row (max 0 inputTokens)))

variable {row inputTokens requested required}

variable {serviceTier : ProfileServiceTier}

theorem lowestCovering_eq_none_iff :
    lowestCovering localeCompare row inputTokens serviceTier = none ↔
      row.covering serviceTier inputTokens = [] :=
  firstBy_eq_none_iff

theorem highestCovering_eq_none_iff :
    highestCovering localeCompare row inputTokens serviceTier = none ↔
      row.covering serviceTier inputTokens = [] :=
  firstBy_eq_none_iff

/-- Both choices find a tier as soon as one covers the count. -/
theorem exists_covering (h : row.covering serviceTier inputTokens ≠ []) :
    ∃ lowest highest,
      lowestCovering localeCompare row inputTokens serviceTier = some lowest ∧
        highestCovering localeCompare row inputTokens serviceTier = some highest := by
  obtain ⟨lowest, hlowest⟩ := Option.ne_none_iff_exists'.mp
    (mt (lowestCovering_eq_none_iff localeCompare).mp h)
  obtain ⟨highest, hhighest⟩ := Option.ne_none_iff_exists'.mp
    (mt (highestCovering_eq_none_iff localeCompare).mp h)
  exact ⟨lowest, highest, hlowest, hhighest⟩

theorem standardUnits_eq_iff :
    row.standardUnits (lowestCovering localeCompare row inputTokens) inputTokens =
        row.standardUnits (highestCovering localeCompare row inputTokens) inputTokens ↔
      OneCoveringPrice localeCompare row inputTokens .standard := by
  rw [OneCoveringPrice, InvocationPriceProfileInput.standardUnits,
    InvocationPriceProfileInput.standardUnits]
  by_cases hcovering : row.covering .standard inputTokens = []
  · rw [(lowestCovering_eq_none_iff localeCompare).mpr hcovering,
      (highestCovering_eq_none_iff localeCompare).mpr hcovering]
    simp
  · obtain ⟨lowest, highest, hlowest, hhighest⟩ := exists_covering localeCompare hcovering
    rw [hlowest, hhighest]
    simp

theorem noStandardPrice_iff :
    row.standardUnits (highestCovering localeCompare row inputTokens) inputTokens = none ↔
      NoStandardPrice row inputTokens := by
  rw [standardUnits_eq_none_iff, highestCovering_eq_none_iff, NoStandardPrice]

/-- The two choices in one requested service tier. -/
theorem pricedUnits_eq_iff :
    row.pricedUnits (lowestCovering localeCompare row inputTokens) (quotedServiceTier requested)
          required inputTokens =
        row.pricedUnits (highestCovering localeCompare row inputTokens)
          (quotedServiceTier requested) required inputTokens ↔
      RequiredTierMissing row inputTokens requested required ∨
        OneCoveringPrice localeCompare row inputTokens
          (pricingServiceTier row inputTokens requested) := by
  unfold RequiredTierMissing pricingServiceTier
  cases quotedServiceTier requested with
  | standard =>
    rw [pricedUnits_standard, pricedUnits_standard, standardUnits_eq_iff]
    simp
  | priority =>
    by_cases hcovering : row.covering .priority inputTokens = []
    · rw [pricedUnits_priority_of_none ((lowestCovering_eq_none_iff localeCompare).mpr hcovering),
        pricedUnits_priority_of_none ((highestCovering_eq_none_iff localeCompare).mpr hcovering)]
      cases required with
      | true => simp [hcovering]
      | false => simp [hcovering, standardUnits_eq_iff]
    · obtain ⟨lowest, highest, hlowest, hhighest⟩ := exists_covering localeCompare hcovering
      rw [pricedUnits_priority_of_some hlowest, pricedUnits_priority_of_some hhighest]
      simp [hcovering, OneCoveringPrice, hlowest, hhighest]

theorem quotedServiceTier_of_ne_fast (h : normalizedWord requested ≠ "fast") :
    normalizedProfileServiceTier requested = quotedServiceTier requested := by
  unfold normalizedProfileServiceTier quotedServiceTier
  simp only [h, or_false]

theorem quotedServiceTier_of_fast (h : normalizedWord requested = "fast") :
    quotedServiceTier requested = .priority ∧
      normalizedProfileServiceTier requested = .standard := by
  unfold normalizedProfileServiceTier quotedServiceTier
  rw [h]
  exact ⟨by decide, by decide⟩

/-- The word `fast`: a quote in the priority tier, a settlement in the standard one. -/
theorem pricedUnits_fast_iff :
    row.pricedUnits (lowestCovering localeCompare row inputTokens) .priority required
          inputTokens =
        row.pricedUnits (highestCovering localeCompare row inputTokens) .standard required
          inputTokens ↔
      if required ∨ row.covering .priority inputTokens ≠ [] then
        if row.covering .priority inputTokens = [] then NoStandardPrice row inputTokens
        else (lowestCovering localeCompare row inputTokens .priority).map (·.toFrozenPriceUnits) =
          row.standardUnits (highestCovering localeCompare row inputTokens) inputTokens
      else OneCoveringPrice localeCompare row inputTokens .standard := by
  rw [pricedUnits_standard]
  by_cases hcovering : row.covering .priority inputTokens = []
  · rw [pricedUnits_priority_of_none ((lowestCovering_eq_none_iff localeCompare).mpr hcovering)]
    cases required with
    | true =>
      simp only [if_true, hcovering, true_or]
      rw [eq_comm, noStandardPrice_iff]
    | false => simp [hcovering, standardUnits_eq_iff]
  · obtain ⟨lowest, -, hlowest, -⟩ := exists_covering localeCompare hcovering
    rw [pricedUnits_priority_of_some hlowest]
    simp [hcovering, hlowest]

/-- A quote fails when the required tier is missing or nothing prices the count. -/
theorem quotedUnits_eq_none_iff :
    row.pricedUnits (lowestCovering localeCompare row inputTokens) (quotedServiceTier requested)
        required inputTokens = none ↔
      RequiredTierMissing row inputTokens requested required ∨
        (pricingServiceTier row inputTokens requested = .standard ∧
          NoStandardPrice row inputTokens) := by
  have hnone : row.standardUnits (lowestCovering localeCompare row inputTokens) inputTokens =
      none ↔ NoStandardPrice row inputTokens := by
    rw [standardUnits_eq_none_iff, lowestCovering_eq_none_iff, NoStandardPrice]
  unfold RequiredTierMissing pricingServiceTier
  cases quotedServiceTier requested with
  | standard =>
    rw [pricedUnits_standard, hnone]
    simp
  | priority =>
    by_cases hcovering : row.covering .priority inputTokens = []
    · rw [pricedUnits_priority_of_none ((lowestCovering_eq_none_iff localeCompare).mpr hcovering)]
      cases required with
      | true => simp [hcovering]
      | false => simp [hcovering, hnone]
    · obtain ⟨lowest, -, hlowest, -⟩ := exists_covering localeCompare hcovering
      rw [pricedUnits_priority_of_some hlowest]
      simp [hcovering]

/-- **Quote against settlement, exactly.**  For every row of enabled standard and priority tiers,
every token count and every requested service tier, the quote and the settlement both fail or take
the same four unit prices if and only if `PricesAgree`. -/
theorem samePrice_iff [Std.TransCmp localeCompare] (hrow : row.EnabledTiers) :
    SamePrice localeCompare row inputTokens requested required ↔
      PricesAgree localeCompare row inputTokens requested required := by
  unfold SamePrice PricesAgree
  rw [quotedUnits_eq localeCompare hrow]
  by_cases haccepted : row.Accepted ∧ FitsInt64 inputTokens
  · have hmax : max 0 inputTokens = inputTokens := max_eq_right haccepted.2.1
    rw [settledUnits_of_accepted localeCompare hrow haccepted.1 haccepted.2, hmax]
    simp only [haccepted, true_implies, not_true_eq_false, false_implies, and_true]
    by_cases hfast : normalizedWord requested = "fast"
    · obtain ⟨hquoted, hsettled⟩ := quotedServiceTier_of_fast hfast
      rw [hquoted, hsettled, pricedUnits_fast_iff]
      unfold RequiredTierMissing pricingServiceTier
      by_cases hcase : required ∨ row.covering .priority inputTokens ≠ []
      · simp [hfast, hcase]
      · rw [not_or, not_not] at hcase
        simp [hcase.1, hcase.2]
    · rw [quotedServiceTier_of_ne_fast hfast, pricedUnits_eq_iff]
      simp [hfast]
  · rw [settledUnits_of_not_accepted localeCompare hrow haccepted, quotedUnits_eq_none_iff]
    simp only [haccepted, false_implies, not_false_eq_true, true_implies, true_and]

/-- A price whose second standard tier starts inside the first one. -/
def overlappingPrice : InvocationPriceProfileInput where
  inputPriceUnitsPer1M := 1
  cachedInputPriceUnitsPer1M := 1
  cacheWritePriceUnitsPer1M := none
  outputPriceUnitsPer1M := 1
  status := "enabled"
  tiers := [⟨⟨10, 10, none, 10⟩, "enabled", "standard", "base", 0, none⟩,
    ⟨⟨20, 20, none, 20⟩, "enabled", "standard", "long", 100, none⟩]

theorem overlappingPrice_enabledTiers : overlappingPrice.EnabledTiers :=
  ⟨by decide, by decide⟩

theorem quoted_overlappingPrice :
    (selectPriceForUsage compare (quotedPrice overlappingPrice) 150 (some "standard")
      false).toOption.map (·.selectedTier.units) = some ⟨10, 10, none, 10⟩ := by
  decide

theorem settled_overlappingPrice :
    (encodeFrozenPriceProfile compare overlappingPrice >>= fun document =>
      selectFrozenPriceProfile compare document 150 "standard" false).toOption.map
      (·.units) = some ⟨20, 20, none, 20⟩ := by
  decide

theorem samePrice_iff_overlappingPrice :
    ¬PricesAgree compare overlappingPrice 150 "standard" false := by
  intro hagree
  have hsame : SamePrice compare overlappingPrice 150 "standard" false :=
    (samePrice_iff compare overlappingPrice_enabledTiers).mpr hagree
  rw [SamePrice, quoted_overlappingPrice, settled_overlappingPrice] at hsame
  exact absurd hsame (by decide)

/-- A count of 150 tokens is quoted at the tier from 0 and settled at the tier from 100. -/
theorem overlapping_tiers_priced_differently :
    overlappingPrice.EnabledTiers ∧ (overlappingPrice.tiers.map (·.tierKey)).Nodup ∧
      ¬SamePrice compare overlappingPrice 150 "standard" false := by
  refine ⟨overlappingPrice_enabledTiers, by decide, fun hsame => ?_⟩
  rw [SamePrice, quoted_overlappingPrice, settled_overlappingPrice] at hsame
  exact absurd hsame (by decide)

end Agreement

end Frely.Pricing
