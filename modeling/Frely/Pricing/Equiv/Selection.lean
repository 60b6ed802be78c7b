import Frely.Pricing.SelectPrice

/-!
# Which tier a usage is priced with

`selectPriceForUsage` searches the sorted tiers of a service tier; for the standard one the base
price comes first, as a tier that ends below the lowest, unless the bound before the lowest is
rounded up to it.  So only the tiers that cover the count matter, not their order, where at most one
does.
-/

namespace Frely.Pricing

open Checked StableSort

variable {α : Type}

/-- The enabled tiers of one service tier, as they are stored. -/
def storedTiers (price : PriceProfile α) (serviceTier : PriceServiceTier) :
    List (SelectedPriceTier α) :=
  ((price.tiers.getD []).filter fun tier =>
    normalizeStoredPriceServiceTier tier.serviceTier = serviceTier &&
      normalizeStatus tier.status = .enabled).map (·.selected serviceTier)

/-- A count lies below every enabled standard tier. -/
def BelowStandard (price : PriceProfile α) (n : Int) : Prop :=
  ∀ tier ∈ storedTiers price .standard, n < tier.minInputTokens

section Selection

variable (localeCompare : String → String → Ordering) {price : PriceProfile α} {inputTokens : Int}

section Bounds

variable (before : Int → Int)

/-- The tier that a usage is priced with. -/
def pickedTier (price : PriceProfile α) (inputTokens : Int) (serviceTier : Option String)
    (requireServiceTier : Bool) : Option (SelectedPriceTier α) :=
  (selectPrice localeCompare before price inputTokens serviceTier requireServiceTier).toOption.map
    (·.selectedTier)

theorem pickedTier_standard {serviceTier : Option String} (requireServiceTier : Bool)
    (h : normalizeRuntimePriceServiceTier serviceTier = .standard) :
    pickedTier localeCompare before price inputTokens serviceTier requireServiceTier =
      findTierForInputTokens (serviceTierProfile localeCompare before price .standard true)
        inputTokens := by
  simp only [pickedTier, selectPrice, h, if_true]
  rw [rejectIf_of_not (by simp), bind_ok]
  cases findTierForInputTokens (serviceTierProfile localeCompare before price .standard true)
    inputTokens <;> rfl

theorem pickedTier_priority {serviceTier : Option String} (requireServiceTier : Bool)
    (h : normalizeRuntimePriceServiceTier serviceTier = .priority) :
    pickedTier localeCompare before price inputTokens serviceTier requireServiceTier =
      match findTierForInputTokens (enabledTiers localeCompare price .priority) inputTokens with
      | some tier => some tier
      | none =>
        if requireServiceTier then none
        else findTierForInputTokens (serviceTierProfile localeCompare before price .standard true)
          inputTokens := by
  have hprofile : serviceTierProfile localeCompare before price .priority false =
      enabledTiers localeCompare price .priority := by
    rw [serviceTierProfile, if_pos (.inl (by decide))]
  simp only [pickedTier, selectPrice, h, reduceCtorEq, if_false, hprofile]
  cases hfind : findTierForInputTokens (enabledTiers localeCompare price .priority) inputTokens with
  | none =>
    by_cases hrequired : requireServiceTier = true
    · rw [rejectIf_of (by simp [hrequired]), if_pos hrequired]
      rfl
    · rw [rejectIf_of_not (by simp [hrequired]), bind_ok, if_neg hrequired]
      cases findTierForInputTokens (serviceTierProfile localeCompare before price .standard true)
        inputTokens <;> rfl
  | some tier =>
    rw [rejectIf_of_not (by simp), bind_ok]
    rfl

end Bounds

/-- The tier that a usage is priced with where the bounds are safe integers. -/
def selectedTier (price : PriceProfile α) (inputTokens : Int) (serviceTier : Option String)
    (requireServiceTier : Bool) : Option (SelectedPriceTier α) :=
  (selectPriceForUsage localeCompare price inputTokens serviceTier requireServiceTier).toOption.map
    (·.selectedTier)

theorem selectedTier_standard {serviceTier : Option String} (requireServiceTier : Bool)
    (h : normalizeRuntimePriceServiceTier serviceTier = .standard) :
    selectedTier localeCompare price inputTokens serviceTier requireServiceTier =
      findTierForInputTokens (effectiveServiceTierProfile localeCompare price .standard true)
        inputTokens :=
  pickedTier_standard localeCompare (· - 1) requireServiceTier h

theorem selectedTier_priority {serviceTier : Option String} (requireServiceTier : Bool)
    (h : normalizeRuntimePriceServiceTier serviceTier = .priority) :
    selectedTier localeCompare price inputTokens serviceTier requireServiceTier =
      match findTierForInputTokens (enabledTiers localeCompare price .priority) inputTokens with
      | some tier => some tier
      | none =>
        if requireServiceTier then none
        else findTierForInputTokens (effectiveServiceTierProfile localeCompare price .standard true)
          inputTokens :=
  pickedTier_priority localeCompare (· - 1) requireServiceTier h

variable {serviceTier : PriceServiceTier} {tier : SelectedPriceTier α}

theorem mem_enabledTiers :
    tier ∈ enabledTiers localeCompare price serviceTier ↔ tier ∈ storedTiers price serviceTier :=
  mem_sortBy

/-- A tier that is found is stored and covers the count. -/
theorem of_findTierForInputTokens {serviceTier : PriceServiceTier} {tier : SelectedPriceTier α}
    (h : findTierForInputTokens (enabledTiers localeCompare price serviceTier) inputTokens =
      some tier) :
    tier ∈ storedTiers price serviceTier ∧ tier.covers (max 0 inputTokens) = true :=
  ⟨(mem_enabledTiers localeCompare).mp (List.mem_of_find?_eq_some h),
    List.find?_some (p := fun tier : SelectedPriceTier α => tier.covers (max 0 inputTokens)) h⟩

/-- The only tier that covers a count is found. -/
theorem findTierForInputTokens_of_unique {serviceTier : PriceServiceTier}
    {tier : SelectedPriceTier α} (hmem : tier ∈ storedTiers price serviceTier)
    (hcovers : tier.covers (max 0 inputTokens) = true)
    (hunique : ∀ other ∈ storedTiers price serviceTier, other.covers (max 0 inputTokens) = true →
      other = tier) :
    findTierForInputTokens (enabledTiers localeCompare price serviceTier) inputTokens =
      some tier := by
  cases hfind : findTierForInputTokens (enabledTiers localeCompare price serviceTier)
      inputTokens with
  | none =>
    have hnone := List.find?_eq_none.mp hfind tier ((mem_enabledTiers localeCompare).mpr hmem)
    exact absurd hcovers hnone
  | some found =>
    obtain ⟨hfound, hcovers'⟩ := of_findTierForInputTokens localeCompare hfind
    rw [hunique found hfound hcovers']

theorem findTierForInputTokens_eq_none
    (h : ∀ tier ∈ storedTiers price serviceTier, tier.covers (max 0 inputTokens) = false) :
    findTierForInputTokens (enabledTiers localeCompare price serviceTier) inputTokens = none := by
  refine List.find?_eq_none.mpr fun tier htier => ?_
  rw [h tier ((mem_enabledTiers localeCompare).mp htier)]
  exact Bool.false_ne_true

variable {before : Int → Int} {first : SelectedPriceTier α} {rest : List (SelectedPriceTier α)}

/-- The base price is found up to its bound. -/
theorem find_implicitStandardTier
    (htiers : enabledTiers localeCompare price .standard = first :: rest)
    (hpos : 0 < first.minInputTokens) (hle : max 0 inputTokens ≤ before first.minInputTokens) :
    findTierForInputTokens (serviceTierProfile localeCompare before price .standard true)
      inputTokens =
        some (implicitStandardTier price (some (before first.minInputTokens))) := by
  simp only [serviceTierProfile, ne_eq, not_true_eq_false, or_self, if_false]
  rw [htiers]
  dsimp only
  rw [if_pos hpos, findTierForInputTokens, List.find?_cons_of_pos]
  show (decide _ && decide _) = true
  exact Bool.and_eq_true_iff.mpr ⟨decide_eq_true (le_max_left 0 inputTokens), decide_eq_true hle⟩

/-- **Below every standard tier the base price applies.** -/
theorem find_of_below (h : BelowStandard price (max 0 inputTokens))
    (hbefore : ∀ low, max 0 inputTokens < low → max 0 inputTokens ≤ before low) :
    ∃ high, findTierForInputTokens (serviceTierProfile localeCompare before price .standard true)
      inputTokens = some (implicitStandardTier price high) := by
  cases htiers : enabledTiers localeCompare price .standard with
  | nil =>
    simp only [serviceTierProfile, ne_eq, not_true_eq_false, or_self, if_false]
    rw [htiers]
    exact ⟨none, by simp [findTierForInputTokens, implicitStandardTier, SelectedPriceTier.covers]⟩
  | cons first rest =>
    have hfirst : first ∈ storedTiers price .standard := by
      rw [← mem_enabledTiers localeCompare, htiers]
      exact List.mem_cons_self
    have hlt := h first hfirst
    exact ⟨_, find_implicitStandardTier localeCompare htiers (by omega) (hbefore _ hlt)⟩

theorem findStandard_of_below (h : BelowStandard price (max 0 inputTokens)) :
    ∃ high, findTierForInputTokens (effectiveServiceTierProfile localeCompare price .standard true)
      inputTokens = some (implicitStandardTier price high) :=
  find_of_below localeCompare h fun _ hlt => Int.le_sub_one_of_lt hlt

/-- Two prices with the same covering tiers, of which there is at most one, find the same tier. -/
theorem findTierForInputTokens_congr {other : PriceProfile α} {serviceTier : PriceServiceTier}
    (hsame : ∀ tier, tier.covers (max 0 inputTokens) = true →
      (tier ∈ storedTiers price serviceTier ↔ tier ∈ storedTiers other serviceTier))
    (hunique : ∀ a ∈ storedTiers price serviceTier, ∀ b ∈ storedTiers price serviceTier,
      a.covers (max 0 inputTokens) = true → b.covers (max 0 inputTokens) = true → a = b) :
    findTierForInputTokens (enabledTiers localeCompare price serviceTier) inputTokens =
      findTierForInputTokens (enabledTiers localeCompare other serviceTier) inputTokens := by
  cases hfind : findTierForInputTokens (enabledTiers localeCompare price serviceTier)
      inputTokens with
  | none =>
    refine (findTierForInputTokens_eq_none localeCompare fun tier htier => ?_).symm
    by_contra hcovers
    rw [Bool.not_eq_false] at hcovers
    have hmem := (mem_enabledTiers localeCompare).mpr ((hsame tier hcovers).mpr htier)
    exact List.find?_eq_none.mp hfind tier hmem hcovers
  | some tier =>
    obtain ⟨hmem, hcovers⟩ := of_findTierForInputTokens localeCompare hfind
    refine (findTierForInputTokens_of_unique localeCompare ((hsame tier hcovers).mp hmem) hcovers
      fun a ha hcovers' => ?_).symm
    exact hunique a ((hsame a hcovers').mpr ha) tier hmem hcovers' hcovers

section Sorted

variable [Std.TransCmp localeCompare]

theorem compareSelectedTiers_transCmp :
    Std.TransCmp (compareSelectedTiers localeCompare (α := α)) := by
  have hkey : Std.TransCmp fun a b : SelectedPriceTier α => localeCompare a.tierKey b.tierKey :=
    transCmp_map localeCompare SelectedPriceTier.tierKey
  have hmin : Std.TransCmp fun a b : SelectedPriceTier α =>
      compare a.minInputTokens b.minInputTokens :=
    transCmp_map (fun a b : Int => compare a b) SelectedPriceTier.minInputTokens
  exact inferInstanceAs (Std.TransCmp (compareLex _ _))

/-- The first of the sorted tiers starts lowest. -/
theorem min_le_of_enabledTiers (h : enabledTiers localeCompare price serviceTier = first :: rest) :
    ∀ tier ∈ storedTiers price serviceTier, first.minInputTokens ≤ tier.minInputTokens := by
  have htrans := compareSelectedTiers_transCmp localeCompare (α := α)
  have hhead : firstBy (compareSelectedTiers localeCompare) (storedTiers price serviceTier) =
      some first := by
    rw [← head?_sortBy]
    exact congrArg List.head? h
  intro tier htier
  have hle := isLE_of_firstBy hhead tier htier
  rw [compareSelectedTiers, Ordering.isLE_then_iff_and] at hle
  exact Int.isLE_compare.mp hle.1

/-- From the lowest standard tier on, the base price is out where its bound is. -/
theorem find_of_not_below {before : Int → Int} (h : ¬BelowStandard price (max 0 inputTokens))
    (hbefore : ∀ first ∈ storedTiers price .standard,
      (∀ tier ∈ storedTiers price .standard, first.minInputTokens ≤ tier.minInputTokens) →
      before first.minInputTokens < max 0 inputTokens) :
    findTierForInputTokens (serviceTierProfile localeCompare before price .standard true)
      inputTokens =
        findTierForInputTokens (enabledTiers localeCompare price .standard) inputTokens := by
  simp only [serviceTierProfile, ne_eq, not_true_eq_false, or_self, if_false]
  cases htiers : enabledTiers localeCompare price .standard with
  | nil =>
    refine absurd (fun tier htier => ?_) h
    rw [← mem_enabledTiers localeCompare, htiers] at htier
    exact absurd htier List.not_mem_nil
  | cons first rest =>
    have hfirst : first ∈ storedTiers price .standard := by
      rw [← mem_enabledTiers localeCompare, htiers]
      exact List.mem_cons_self
    have hlt := hbefore first hfirst (min_le_of_enabledTiers localeCompare htiers)
    dsimp only
    split_ifs with hpos
    · rw [findTierForInputTokens, List.find?_cons_of_neg]
      · rfl
      · simp only [SelectedPriceTier.covers, implicitStandardTier, Option.all_some,
          Bool.and_eq_true, decide_eq_true_eq]
        omega
    · rfl

theorem findStandard_of_not_below (h : ¬BelowStandard price (max 0 inputTokens)) :
    findTierForInputTokens (effectiveServiceTierProfile localeCompare price .standard true)
      inputTokens =
        findTierForInputTokens (enabledTiers localeCompare price .standard) inputTokens := by
  refine find_of_not_below localeCompare h fun first hfirst hle => ?_
  by_contra hlt
  refine h fun tier htier => ?_
  have := hle tier htier
  omega

end Sorted

end Selection

end Frely.Pricing
