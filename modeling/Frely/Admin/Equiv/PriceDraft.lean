import Frely.Admin.PriceDraft
import Frely.Lib.Ranges
import Frely.Pricing.Equiv.Selection

/-!
# Accepted drafts price every usage

The tiers that `validatePriceDraft` accepts have proper ranges which, sorted, follow each other
without overlap or gap, and the last standard one has no end (`AcceptedTiers`).  So each count from
the first standard tier on is in exactly one of them.  The pricing package selects that one, except
for the count that the first starts at where the number before it is rounded up to it
(`selectedTier_of_accepted_iff`).
-/

namespace Frely.Admin

open Checked StableSort Ranges

variable {round : Rat → Option Rat} {IsCount : Int → Prop}

/-- The token counts of a tier. -/
def NumericPriceTierPayload.range (tier : NumericPriceTierPayload) : Range :=
  ⟨tier.minInputTokens, tier.maxInputTokens⟩

/-- What the range checks say about the tiers of a payload. -/
structure AcceptedTiers (IsCount : Int → Prop) (tiers : List NumericPriceTierPayload) : Prop where
  proper : ∀ tier ∈ tiers, 0 ≤ tier.minInputTokens ∧ tier.range.Proper
  chain : ∀ serviceTier, (serviceTiers tiers serviceTier).IsChain
    fun a b => a.range.Meets IsCount b.range
  unbounded : ∀ tier ∈ (serviceTiers tiers .standard).getLast?, tier.maxInputTokens = none

/-- No count lies between an integer and the number after it. -/
def NextNumber (round : Rat → Option Rat) (IsCount : Int → Prop) : Prop :=
  ∀ high low : Int, 0 ≤ high → round (high + 1) = some (low : Rat) →
    ∀ n, IsCount n → high < n → low ≤ n

variable {serviceTier : PriceServiceTier} {tier : NumericPriceTierPayload}

theorem mem_serviceTiers {tiers : List NumericPriceTierPayload} :
    tier ∈ serviceTiers tiers serviceTier ↔ tier ∈ tiers ∧ tier.serviceTier = serviceTier := by
  rw [serviceTiers, mem_sortBy, List.mem_filter, decide_eq_true_eq]

/-! ### The checks -/

variable {low : Int} {text label : String} {payload : NumericPricePayload}

theorem meets_of_neighbourError (hnext : NextNumber round IsCount)
    {previous current : NumericPriceTierPayload} (hnonneg : 0 ≤ previous.minInputTokens)
    (hproper : previous.range.Proper) (h : neighbourError round serviceTier previous current = []) :
    previous.range.Meets IsCount current.range := by
  unfold neighbourError at h
  cases hmax : previous.maxInputTokens with
  | none =>
    rw [hmax] at h
    exact absurd h (List.cons_ne_nil _ _)
  | some high =>
    rw [hmax] at h
    dsimp only at h
    split_ifs at h with hoverlap hgap
    · have hhigh : 0 ≤ high := hnonneg.trans (hproper high hmax)
      exact ⟨high, hmax, Int.not_le.mp hoverlap, hnext _ _ hhigh (not_not.mp hgap)⟩

theorem chain_of_neighbourErrors (hnext : NextNumber round IsCount) :
    ∀ {tiers : List NumericPriceTierPayload},
      (∀ tier ∈ tiers, 0 ≤ tier.minInputTokens ∧ tier.range.Proper) →
      neighbourErrors round serviceTier tiers = [] →
      tiers.IsChain fun a b => a.range.Meets IsCount b.range
  | [], _, _ => .nil
  | [_], _, _ => .singleton _
  | previous :: _ :: _, hproper, h => by
    rw [neighbourErrors, List.append_eq_nil_iff] at h
    obtain ⟨hnonneg, hprevious⟩ := hproper previous List.mem_cons_self
    exact List.isChain_cons_cons.mpr
      ⟨meets_of_neighbourError hnext hnonneg hprevious h.1,
        chain_of_neighbourErrors hnext (fun tier htier => hproper tier (.tail _ htier)) h.2⟩

theorem nonneg_of_tokenBoundary (h : tokenBoundary round text = some low) : 0 ≤ low :=
  of_decide_eq_true (Option.filter_eq_some_iff.mp h).2

theorem tokenBoundary_of_parse (h : (parseRequiredTokenBoundary round text label).1 = some low) :
    tokenBoundary round text = some low := by
  unfold parseRequiredTokenBoundary at h
  split_ifs at h
  split at h
  · cases h
  · next hparsed =>
      rw [hparsed]
      exact h

theorem proper_of_validateTier {draft : PriceTierDraft} {tier : NumericPriceTierPayload}
    (htier : (validateTier round draft).1 = some tier)
    (herrors : (validateTier round draft).2 = []) :
    tier.serviceTier = draft.serviceTier ∧ draft.priceDisplays.all isBlank = false ∧
      tokenBoundary round draft.minInputTokensDisplay = some tier.minInputTokens ∧
      tier.range.Proper := by
  unfold validateTier at htier herrors
  split_ifs at htier herrors with hall hany
  unfold validateFilledTier at htier herrors
  dsimp only at htier herrors
  simp only [List.append_eq_nil_iff] at herrors
  split at htier
  · rename_i prices low hprices hlow
    obtain rfl := Option.some.inj htier
    refine ⟨rfl, Bool.eq_false_iff.mpr hall, tokenBoundary_of_parse hlow, ?_⟩
    intro high hhigh
    have hrange := herrors.2
    have hmax : (parseOptionalTokenBoundary round draft.maxInputTokensDisplay
      (draft.label ++ " maximum input tokens")).1 = some high := hhigh
    rw [hlow, hmax] at hrange
    dsimp only at hrange
    split_ifs at hrange with hlt
    exact Int.not_lt.mp hlt
  · exact absurd htier nofun

/-- **What an accepted draft saves.** -/
theorem acceptedTiers (hnext : NextNumber round IsCount) {draft : PriceDraft} {errors : List String}
    (h : validatePriceDraft round draft = ⟨some payload, errors⟩) :
    payload.tiers.getD [] = draft.tiers.filterMap (fun tier => (validateTier round tier).1) ∧
      (∀ tier ∈ draft.tiers, (validateTier round tier).2 = []) ∧
      AcceptedTiers IsCount (payload.tiers.getD []) := by
  unfold validatePriceDraft at h
  dsimp only at h
  split at h
  · rename_i prices herrors hprices
    obtain rfl := Option.some.inj (PriceDraftValidation.mk.inj h).1
    simp only [List.append_eq_nil_iff] at herrors
    obtain ⟨⟨-, htierErrors⟩, hranges⟩ := herrors
    have hnoErrors := List.flatMap_eq_nil_iff.mp htierErrors
    have htiers : ((if draft.tiers.filterMap (fun tier => (validateTier round tier).1) =
      [] then none
        else some (draft.tiers.filterMap fun tier => (validateTier round tier).1)).getD [] :
          List NumericPriceTierPayload) =
        draft.tiers.filterMap fun tier => (validateTier round tier).1 := by
      split_ifs with hempty
      · exact hempty.symm
      · rfl
    refine ⟨htiers, hnoErrors, ?_⟩
    dsimp only
    rw [htiers]
    -- no error for either service tier means no error between neighbours
    have hservice : ∀ serviceTier, validateServiceTier round
        (draft.tiers.filterMap fun tier => (validateTier round tier).1) serviceTier = [] := by
      intro serviceTier
      refine List.flatMap_eq_nil_iff.mp hranges serviceTier ?_
      cases serviceTier <;> decide
    have hproper : ∀ tier ∈ draft.tiers.filterMap fun tier => (validateTier round tier).1,
        0 ≤ tier.minInputTokens ∧ tier.range.Proper := by
      intro tier htier
      obtain ⟨tierDraft, hdraft, htier⟩ := List.mem_filterMap.mp htier
      obtain ⟨-, -, hlow, hproper⟩ := proper_of_validateTier htier (hnoErrors tierDraft hdraft)
      exact ⟨nonneg_of_tokenBoundary hlow, hproper⟩
    refine ⟨hproper, ?_, ?_⟩
    · intro serviceTier
      refine chain_of_neighbourErrors hnext (fun tier htier => ?_)
        (List.append_eq_nil_iff.mp (hservice serviceTier)).1
      exact hproper tier (mem_serviceTiers.mp htier).1
    · intro tier htier
      by_contra hbounded
      have herror := (List.append_eq_nil_iff.mp (hservice .standard)).2
      rw [if_pos ⟨rfl, tier, htier, hbounded⟩] at herror
      exact absurd herror (List.cons_ne_nil _ _)
  · exact absurd (PriceDraftValidation.mk.inj h).1 nofun

theorem nextNumber_some : NextNumber some fun _ => True := by
  intro high low _ hnext n _ hlt
  have hlow : high + 1 = low := by exact_mod_cast Option.some.inj hnext
  omega

/-! ### The saved tiers as the pricing package stores them -/

variable {n : Int}

/-- The service tier of the pricing package. -/
def PriceServiceTier.stored : PriceServiceTier → Pricing.PriceServiceTier
  | standard => .standard
  | priority => .priority

theorem PriceServiceTier.stored_injective {a b : PriceServiceTier} :
    a.stored = b.stored ↔ a = b := by
  cases a <;> cases b <;> decide

theorem normalizeStoredPriceServiceTier_text (serviceTier : PriceServiceTier) :
    Pricing.normalizeStoredPriceServiceTier (some serviceTier.text) = serviceTier.stored := by
  cases serviceTier <;> decide

/-- A saved tier as it is selected. -/
def NumericPriceTierPayload.selected (tier : NumericPriceTierPayload) :
    Pricing.SelectedPriceTier Rat :=
  tier.like.selected tier.serviceTier.stored

theorem mem_storedTiers (serviceTier : PriceServiceTier) {tier : Pricing.SelectedPriceTier Rat} :
    tier ∈ Pricing.storedTiers payload.profile serviceTier.stored ↔
      ∃ saved ∈ payload.tiers.getD [], saved.serviceTier = serviceTier ∧ tier = saved.selected := by
  have htiers : payload.profile.tiers.getD [] = (payload.tiers.getD []).map (·.like) := by
    rw [NumericPricePayload.profile]
    cases payload.tiers <;> rfl
  simp only [Pricing.storedTiers, htiers, List.mem_map, List.mem_filter, Bool.and_eq_true,
    decide_eq_true_eq]
  constructor
  · rintro ⟨_, ⟨⟨saved, hsaved, rfl⟩, hservice, -⟩, rfl⟩
    have hservice : Pricing.normalizeStoredPriceServiceTier (some saved.serviceTier.text) =
      serviceTier.stored := hservice
    rw [normalizeStoredPriceServiceTier_text, PriceServiceTier.stored_injective] at hservice
    exact ⟨saved, hsaved, hservice, by rw [NumericPriceTierPayload.selected, hservice]⟩
  · rintro ⟨saved, hsaved, rfl, rfl⟩
    exact ⟨saved.like, ⟨⟨saved, hsaved, rfl⟩, normalizeStoredPriceServiceTier_text _, rfl⟩,
      rfl⟩

theorem covers_selected : tier.selected.covers n = true ↔ tier.range.Contains n := by
  change (decide (tier.minInputTokens ≤ n) && tier.maxInputTokens.all (n ≤ ·)) = true ↔
    tier.minInputTokens ≤ n ∧ ∀ high ∈ tier.maxInputTokens, n ≤ high
  simp only [Bool.and_eq_true, decide_eq_true_eq, Option.all_eq_true, Option.mem_def]

theorem belowStandard_iff :
    Pricing.BelowStandard payload.profile n ↔
      ∀ tier ∈ payload.tiers.getD [], tier.serviceTier = .standard → n < tier.minInputTokens := by
  constructor
  · intro h tier htier hservice
    exact h tier.selected ((mem_storedTiers .standard).mpr ⟨tier, htier, hservice, rfl⟩)
  · intro h tier htier
    obtain ⟨saved, hsaved, hservice, rfl⟩ := (mem_storedTiers .standard).mp htier
    exact h saved hsaved hservice

/-! ### Selection -/

/-- The tier that prices a count in a service tier: the only saved one whose range contains it. -/
structure IsTierFor (payload : NumericPricePayload) (serviceTier : PriceServiceTier) (n : Int)
    (tier : Pricing.SelectedPriceTier Rat) (saved : NumericPriceTierPayload) : Prop where
  mem : saved ∈ payload.tiers.getD []
  ofServiceTier : saved.serviceTier = serviceTier
  contains : saved.range.Contains n
  unique : ∀ other ∈ payload.tiers.getD [], other.serviceTier = serviceTier →
    other.range.Contains n → other = saved
  selected : tier = saved.selected

/-- The standard price of a count: the base price below the first standard tier, else the standard
tier whose range contains the count. -/
inductive IsStandardPrice (payload : NumericPricePayload) (n : Int) :
    Pricing.SelectedPriceTier Rat → Prop where
  | base (high : Option Int) :
      (∀ tier ∈ payload.tiers.getD [], tier.serviceTier = .standard → n < tier.minInputTokens) →
      IsStandardPrice payload n (Pricing.implicitStandardTier payload.profile high)
  | tier {tier : Pricing.SelectedPriceTier Rat} {saved : NumericPriceTierPayload} :
      IsTierFor payload .standard n tier saved → IsStandardPrice payload n tier

section Accepted

variable (localeCompare : String → String → Ordering) {payload : NumericPricePayload}
  {inputTokens : Int}

theorem isTierFor_of_find (h : AcceptedTiers IsCount (payload.tiers.getD []))
    (serviceTier : PriceServiceTier) {tier : Pricing.SelectedPriceTier Rat}
    (hfind : Pricing.findTierForInputTokens
      (Pricing.enabledTiers localeCompare payload.profile serviceTier.stored) inputTokens =
        some tier) :
    ∃ saved, IsTierFor payload serviceTier (max 0 inputTokens) tier saved := by
  obtain ⟨hmem, hcovers⟩ := Pricing.of_findTierForInputTokens localeCompare hfind
  obtain ⟨saved, hsaved, hservice, rfl⟩ := (mem_storedTiers serviceTier).mp hmem
  have hcontains := covers_selected.mp hcovers
  refine ⟨saved, hsaved, hservice, hcontains, ?_, rfl⟩
  intro other hother hservice' hcontains'
  have hproper : ∀ a ∈ serviceTiers (payload.tiers.getD []) serviceTier, a.range.Proper :=
    fun a ha => (h.proper a (mem_serviceTiers.mp ha).1).2
  exact eq_of_contains hproper (h.chain serviceTier) (mem_serviceTiers.mpr ⟨hother, hservice'⟩)
    (mem_serviceTiers.mpr ⟨hsaved, hservice⟩) hcontains' hcontains

/-- From the first standard tier on, some standard tier covers the count. -/
theorem exists_covers (h : AcceptedTiers IsCount (payload.tiers.getD [])) (hn : IsCount n)
    (hstart : ¬Pricing.BelowStandard payload.profile n) :
    ∃ tier ∈ Pricing.storedTiers payload.profile .standard, tier.covers n = true := by
  rw [belowStandard_iff] at hstart
  push Not at hstart
  obtain ⟨tier, htier, hservice, hlow⟩ := hstart
  have hproper : ∀ a ∈ serviceTiers (payload.tiers.getD []) .standard, a.range.Proper :=
    fun a ha => (h.proper a (mem_serviceTiers.mp ha).1).2
  have hmem := mem_serviceTiers.mpr ⟨htier, hservice⟩
  obtain ⟨covering, hcovering, hcontains⟩ :=
    exists_contains (h.chain .standard) h.unbounded hn
      (exists_head_low_le hproper (h.chain .standard) hmem hlow)
  obtain ⟨hmem, hservice⟩ := mem_serviceTiers.mp hcovering
  exact ⟨covering.selected, (mem_storedTiers .standard).mpr
    ⟨covering, hmem, hservice, rfl⟩, covers_selected.mpr hcontains⟩

/-! ### Numbers of the form -/

/-- The integers that are numbers of the language. -/
def IsNumber (n : Int) : Prop := Double.nearest n = n

theorem nextNumber_double : NextNumber Double.round IsNumber := by
  intro high low hnonneg hnext n hn hlt
  have hnearest := Double.nearest_of_round hnext
  have hle : ((high : Rat) + 1) ≤ n := by exact_mod_cast hlt
  have hmono := Double.nearest_mono (by positivity) hle
  rw [hnearest, hn] at hmono
  exact_mod_cast hmono

theorem IsNumber.max_zero (h : IsNumber n) : IsNumber (max 0 n) := by
  rcases max_choice 0 n with hmax | hmax
  · rw [hmax]
    exact Double.nearest_intCast (by decide)
  · rw [hmax]
    exact h

theorem isNumber_of_tokenBoundary (h : tokenBoundary Double.round text = some low) :
    IsNumber low := by
  obtain ⟨hinteger, -⟩ := Option.filter_eq_some_iff.mp h
  cases hnumber : number text with
  | finite value =>
    rw [hnumber, JsNumber.rounded] at hinteger
    cases hround : Double.round value with
    | none =>
      rw [hround] at hinteger
      cases hinteger
    | some rounded =>
      rw [hround] at hinteger
      dsimp only [JsNumber.integer?] at hinteger
      split_ifs at hinteger with hden
      obtain rfl := Option.some.inj hinteger
      rw [IsNumber, (Rat.den_eq_one_iff rounded).mp hden, ← Double.nearest_of_round hround,
        Double.nearest_nearest]
  | infinite negative =>
    rw [hnumber] at hinteger
    cases hinteger
  | nan =>
    rw [hnumber] at hinteger
    cases hinteger

theorem le_numberBefore (hn : IsNumber n) (hnonneg : 0 ≤ n) (h : n < low) :
    n ≤ numberBefore low := by
  have hle : (n : Rat) ≤ ((low - 1 : Int) : Rat) := by exact_mod_cast Int.le_sub_one_of_lt h
  have hmono := Double.nearest_mono (by exact_mod_cast hnonneg) hle
  rw [hn, ← Double.floor_nearest_intCast] at hmono
  rw [numberBefore, ← Int.cast_one, ← Int.cast_sub]
  exact_mod_cast hmono

/-- A bound of up to 53 bits is after the number before it. -/
theorem numberBefore_lt (hnonneg : 0 ≤ low) (h : low ≤ 2 ^ 53) : numberBefore low < low := by
  have hnearest : Double.nearest ((low - 1 : Int) : Rat) = ((low - 1 : Int) : Rat) :=
    Double.nearest_intCast (by omega)
  rw [numberBefore, ← Int.cast_one, ← Int.cast_sub, hnearest, Int.floor_intCast]
  omega

/-! ### The lowest bound -/

/-- A standard tier of the draft starts at a number. -/
def PriceDraft.StandardFrom (draft : PriceDraft) (low : Int) : Prop :=
  ∃ tier ∈ draft.tiers, tier.serviceTier = .standard ∧ tier.priceDisplays.all isBlank = false ∧
    tokenBoundary Double.round tier.minInputTokensDisplay = some low

theorem exists_parseConfiguredPrice {value : String} {allowUnavailable : Bool}
    (h : (parseConfiguredPrice round value label allowUnavailable).2 = []) :
    ∃ price, (parseConfiguredPrice round value label allowUnavailable).1 = some price ∧
      (allowUnavailable = false → price ≠ none) := by
  unfold parseConfiguredPrice at h ⊢
  by_cases hblank : isBlank value = true
  · rw [if_pos hblank] at h
    exact absurd h (List.cons_ne_nil _ _)
  rw [if_neg hblank] at h ⊢
  by_cases hword : (allowUnavailable && decide
      ((trimmed value.toList).map Char.toLower = "unavailable".toList)) = true
  · rw [if_pos hword]
    exact ⟨none, rfl, fun hnot => absurd ((Bool.and_eq_true_iff.mp hword).1.symm.trans hnot) nofun⟩
  rw [if_neg hword] at h ⊢
  dsimp only at h ⊢
  split at h
  · next parsed hparsed =>
      by_cases hnegative : parsed < 0
      · rw [if_pos hnegative] at h
        exact absurd h (List.cons_ne_nil _ _)
      · rw [if_neg hnegative]
        exact ⟨some parsed, rfl, fun _ => nofun⟩
  · exact absurd h (List.cons_ne_nil _ _)

theorem exists_parseConfiguredPrices {input cachedInput cacheWrite output : String}
    (h : (parseConfiguredPrices round input cachedInput cacheWrite output label).2 = []) :
    ∃ prices, (parseConfiguredPrices round input cachedInput cacheWrite output label).1 =
      some prices := by
  unfold parseConfiguredPrices at h ⊢
  simp only [List.append_eq_nil_iff] at h
  obtain ⟨⟨⟨hinput, hcached⟩, hwrite⟩, houtput⟩ := h
  obtain ⟨input, hinput, hinputSome⟩ := exists_parseConfiguredPrice hinput
  obtain ⟨cached, hcached, hcachedSome⟩ := exists_parseConfiguredPrice hcached
  obtain ⟨write, hwrite, -⟩ := exists_parseConfiguredPrice hwrite
  obtain ⟨output, houtput, houtputSome⟩ := exists_parseConfiguredPrice houtput
  obtain ⟨input, rfl⟩ := Option.ne_none_iff_exists'.mp (hinputSome rfl)
  obtain ⟨cached, rfl⟩ := Option.ne_none_iff_exists'.mp (hcachedSome rfl)
  obtain ⟨output, rfl⟩ := Option.ne_none_iff_exists'.mp (houtputSome rfl)
  dsimp only
  rw [hinput, hcached, hwrite, houtput]
  exact ⟨_, rfl⟩

/-- The saved standard tiers start where those of the draft do. -/
theorem standardFrom_iff {draft : PriceDraft} {errors : List String}
    (h : validatePriceDraft Double.round draft = ⟨some payload, errors⟩) :
    draft.StandardFrom low ↔
      ∃ saved ∈ payload.tiers.getD [], saved.serviceTier = .standard ∧
        saved.minInputTokens = low := by
  obtain ⟨htiers, hnoErrors, -⟩ := acceptedTiers nextNumber_double h
  rw [htiers]
  constructor
  · rintro ⟨tier, htier, hservice, hfilled, hlow⟩
    have herrors := hnoErrors tier htier
    cases hsaved : (validateTier Double.round tier).1 with
    | some saved =>
      obtain ⟨hservice', -, hlow', -⟩ := proper_of_validateTier hsaved herrors
      exact ⟨saved, List.mem_filterMap.mpr ⟨tier, htier, hsaved⟩, hservice'.trans hservice,
        Option.some.inj (hlow'.symm.trans hlow)⟩
    | none =>
      exfalso
      unfold validateTier at hsaved herrors
      rw [hfilled] at hsaved herrors
      simp only [Bool.false_eq_true, if_false] at hsaved herrors
      split_ifs at hsaved herrors
      unfold validateFilledTier at hsaved herrors
      simp only [List.append_eq_nil_iff] at herrors
      obtain ⟨prices, hprices⟩ := exists_parseConfiguredPrices herrors.1.1.1
      have hmin : (parseRequiredTokenBoundary Double.round tier.minInputTokensDisplay
          (tier.label ++ " minimum input tokens")).1 = some low := by
        have hnone := herrors.1.1.2
        unfold parseRequiredTokenBoundary at hnone ⊢
        rw [hlow] at hnone ⊢
        split_ifs at hnone ⊢
        rfl
      dsimp only at hsaved
      rw [hprices, hmin] at hsaved
      cases hsaved
  · rintro ⟨saved, hmem, hservice, rfl⟩
    obtain ⟨tier, htier, hsaved⟩ := List.mem_filterMap.mp hmem
    obtain ⟨hservice', hfilled, hlow, -⟩ := proper_of_validateTier hsaved (hnoErrors tier htier)
    exact ⟨tier, htier, hservice'.symm.trans hservice, hfilled, hlow⟩

/-! ### When the right tier is selected -/

/-- Every count gets its standard price under the standard service tier. -/
def PricesEveryCount (payload : NumericPricePayload) : Prop :=
  ∀ inputTokens, IsNumber inputTokens → ∀ serviceTier requireServiceTier,
    Pricing.normalizeRuntimePriceServiceTier serviceTier = .standard →
    ∃ tier, Pricing.pickedTier localeCompare numberBefore payload.profile inputTokens serviceTier
        requireServiceTier = some tier ∧ IsStandardPrice payload (max 0 inputTokens) tier

/-- Below the first standard tier. -/
theorem isStandardPrice_of_below (hn : IsNumber inputTokens)
    (h : Pricing.BelowStandard payload.profile (max 0 inputTokens)) :
    ∃ tier, Pricing.findTierForInputTokens
      (Pricing.serviceTierProfile localeCompare numberBefore payload.profile .standard true)
        inputTokens = some tier ∧ IsStandardPrice payload (max 0 inputTokens) tier := by
  obtain ⟨high, hfind⟩ := Pricing.find_of_below localeCompare h fun low hlt =>
    le_numberBefore hn.max_zero (le_max_left 0 inputTokens) hlt
  exact ⟨_, hfind, .base high (belowStandard_iff.mp h)⟩

/-- Under priority a tier that covers the count is selected, a priority tier if there is one. -/
theorem covers_of_priority (haccepted : AcceptedTiers IsCount (payload.tiers.getD []))
    {serviceTier : Option String} {requireServiceTier : Bool}
    (hservice : Pricing.normalizeRuntimePriceServiceTier serviceTier = .priority)
    {tier : Pricing.SelectedPriceTier Rat}
    (htier : Pricing.pickedTier localeCompare numberBefore payload.profile inputTokens serviceTier
      requireServiceTier = some tier) :
    tier.covers (max 0 inputTokens) = true ∧
      ((∃ saved, IsTierFor payload .priority (max 0 inputTokens) tier saved) ∨
        ∀ saved ∈ payload.tiers.getD [], saved.serviceTier = .priority →
          ¬saved.range.Contains (max 0 inputTokens)) := by
  rw [Pricing.pickedTier_priority localeCompare numberBefore requireServiceTier hservice] at htier
  cases hfind : Pricing.findTierForInputTokens
      (Pricing.enabledTiers localeCompare payload.profile .priority) inputTokens with
  | some found =>
    rw [hfind] at htier
    obtain rfl := Option.some.inj htier
    exact ⟨(Pricing.of_findTierForInputTokens localeCompare hfind).2,
      .inl (isTierFor_of_find localeCompare haccepted .priority hfind)⟩
  | none =>
    rw [hfind] at htier
    dsimp only at htier
    split_ifs at htier
    refine ⟨List.find?_some
      (p := fun tier : Pricing.SelectedPriceTier Rat => tier.covers (max 0 inputTokens)) htier,
      .inr fun saved hsaved hpriority hcontains => ?_⟩
    have hstored := (mem_storedTiers .priority).mpr ⟨saved, hsaved, hpriority, rfl⟩
    have hnone := List.find?_eq_none.mp hfind saved.selected
      ((Pricing.mem_enabledTiers localeCompare).mpr hstored)
    exact hnone (covers_selected.mpr hcontains)

variable [Std.TransCmp localeCompare]

/-- From the first standard tier on, where the base price ends before it. -/
theorem isStandardPrice_of_not_below (haccepted : AcceptedTiers IsNumber (payload.tiers.getD []))
    (hn : IsNumber inputTokens)
    (hfirst : ∀ first ∈ Pricing.storedTiers payload.profile .standard,
      (∀ tier ∈ Pricing.storedTiers payload.profile .standard,
        first.minInputTokens ≤ tier.minInputTokens) →
      numberBefore first.minInputTokens < first.minInputTokens)
    (h : ¬Pricing.BelowStandard payload.profile (max 0 inputTokens)) :
    ∃ tier, Pricing.findTierForInputTokens
      (Pricing.serviceTierProfile localeCompare numberBefore payload.profile .standard true)
        inputTokens = some tier ∧ IsStandardPrice payload (max 0 inputTokens) tier := by
  rw [Pricing.find_of_not_below localeCompare h]
  · obtain ⟨covering, hmem, hcovers⟩ := exists_covers haccepted hn.max_zero h
    cases hfind : Pricing.findTierForInputTokens
        (Pricing.enabledTiers localeCompare payload.profile .standard) inputTokens with
    | none =>
      have hnone := List.find?_eq_none.mp hfind covering
        ((Pricing.mem_enabledTiers localeCompare).mpr hmem)
      exact absurd hcovers hnone
    | some tier =>
      obtain ⟨saved, hsaved⟩ := isTierFor_of_find localeCompare haccepted .standard hfind
      exact ⟨tier, rfl, .tier hsaved⟩
  · intro first hmem hle
    unfold Pricing.BelowStandard at h
    push Not at h
    obtain ⟨tier, htier, hlow⟩ := h
    exact lt_of_lt_of_le (hfirst first hmem hle) ((hle tier htier).trans hlow)

/-- At the lowest bound itself the base price must be out. -/
theorem numberBefore_lt_of_pricesEveryCount (hprices : PricesEveryCount localeCompare payload)
    {saved : NumericPriceTierPayload} (hsaved : saved ∈ payload.tiers.getD [])
    (hservice : saved.serviceTier = .standard)
    (hleast : ∀ other ∈ payload.tiers.getD [], other.serviceTier = .standard →
      saved.minInputTokens ≤ other.minInputTokens)
    (hnumber : IsNumber saved.minInputTokens) (hnonneg : 0 ≤ saved.minInputTokens) :
    numberBefore saved.minInputTokens < saved.minInputTokens := by
  by_contra hle
  have hpos : 0 < saved.minInputTokens := by
    refine lt_of_le_of_ne hnonneg fun hzero => hle ?_
    rw [← hzero]
    exact numberBefore_lt (le_refl 0) (by decide)
  obtain ⟨tier, htier, hprice⟩ := hprices _ hnumber none false (by decide)
  rw [Pricing.pickedTier_standard localeCompare numberBefore false (by decide)] at htier
  rw [max_eq_right hnonneg] at hprice
  have hstored : saved.selected ∈ Pricing.storedTiers payload.profile .standard :=
    (mem_storedTiers .standard).mpr ⟨saved, hsaved, hservice, rfl⟩
  cases htiers : Pricing.enabledTiers localeCompare payload.profile .standard with
  | nil =>
    rw [← Pricing.mem_enabledTiers localeCompare, htiers] at hstored
    exact absurd hstored List.not_mem_nil
  | cons first rest =>
    have hfirst : first.minInputTokens = saved.minInputTokens := by
      have hmem : first ∈ Pricing.storedTiers payload.profile .standard := by
        rw [← Pricing.mem_enabledTiers localeCompare, htiers]
        exact List.mem_cons_self
      obtain ⟨other, hother, hservice', rfl⟩ := (mem_storedTiers .standard).mp hmem
      exact le_antisymm (Pricing.min_le_of_enabledTiers localeCompare htiers _ hstored)
        (hleast other hother hservice')
    have hcovers : max 0 saved.minInputTokens ≤ numberBefore first.minInputTokens := by
      rw [max_eq_right hnonneg, hfirst]
      exact Int.not_lt.mp hle
    rw [Pricing.find_implicitStandardTier localeCompare htiers (hfirst.symm ▸ hpos) hcovers]
      at htier
    cases hprice with
    | base high hbelow => exact absurd (hbelow saved hsaved hservice) (Int.lt_irrefl _)
    | @tier _ found hfound =>
      have hzero : 0 = found.minInputTokens := congrArg Pricing.SelectedPriceTier.minInputTokens
        ((Option.some.inj htier).trans hfound.selected)
      have hlowest := hleast found hfound.mem hfound.ofServiceTier
      omega

/-- **Accepted drafts price every usage** under the standard service tier exactly if the number
before their lowest standard bound is below it.  Under priority the tier that is selected contains
the count, and it is the priority tier that does if there is one. -/
theorem selectedTier_of_accepted_iff {draft : PriceDraft} {errors : List String}
    (h : validatePriceDraft Double.round draft = ⟨some payload, errors⟩) :
    (PricesEveryCount localeCompare payload ↔
      ∀ low, IsLeast {low | draft.StandardFrom low} low → numberBefore low < low) ∧
    ∀ inputTokens serviceTier requireServiceTier,
      Pricing.normalizeRuntimePriceServiceTier serviceTier = .priority →
      ∀ tier, Pricing.pickedTier localeCompare numberBefore payload.profile inputTokens serviceTier
          requireServiceTier = some tier →
        tier.covers (max 0 inputTokens) = true ∧
          ((∃ saved, IsTierFor payload .priority (max 0 inputTokens) tier saved) ∨
            ∀ saved ∈ payload.tiers.getD [], saved.serviceTier = .priority →
              ¬saved.range.Contains (max 0 inputTokens)) := by
  have haccepted := (acceptedTiers nextNumber_double h).2.2
  refine ⟨⟨?_, ?_⟩, fun inputTokens serviceTier requireServiceTier hservice tier htier =>
    covers_of_priority localeCompare haccepted hservice htier⟩
  · intro hprices low hlow
    obtain ⟨saved, hsaved, hservice, rfl⟩ := (standardFrom_iff h).mp hlow.1
    obtain ⟨tier, -, -, -, hboundary⟩ := hlow.1
    exact numberBefore_lt_of_pricesEveryCount localeCompare hprices hsaved hservice
      (fun other hother hservice' =>
        hlow.2 ((standardFrom_iff h).mpr ⟨other, hother, hservice', rfl⟩))
      (isNumber_of_tokenBoundary hboundary) (nonneg_of_tokenBoundary hboundary)
  · intro hfirst inputTokens hn serviceTier requireServiceTier hservice
    rw [Pricing.pickedTier_standard localeCompare numberBefore requireServiceTier hservice]
    by_cases hbelow : Pricing.BelowStandard payload.profile (max 0 inputTokens)
    · exact isStandardPrice_of_below localeCompare hn hbelow
    · refine isStandardPrice_of_not_below localeCompare haccepted hn (fun first hmem hle => ?_)
        hbelow
      obtain ⟨saved, hsaved, hservice, rfl⟩ := (mem_storedTiers .standard).mp hmem
      refine hfirst _ ⟨(standardFrom_iff h).mpr ⟨saved, hsaved, hservice, rfl⟩, ?_⟩
      intro low hlow
      obtain ⟨other, hother, hservice', rfl⟩ := (standardFrom_iff h).mp hlow
      exact hle other.selected ((mem_storedTiers .standard).mpr ⟨other, hother, hservice', rfl⟩)

/-- A draft with a base price and one standard tier. -/
def longContextDraft (minInputTokensDisplay : String) : PriceDraft where
  inputPerMillionDisplay := "1.25"
  cachedInputPerMillionDisplay := "0.125"
  cacheWritePerMillionDisplay := "Unavailable"
  outputPerMillionDisplay := "10"
  tiers :=
    [⟨.standard, "long_context", minInputTokensDisplay, "", "2.5", "0.25", "unavailable", "15"⟩,
      ⟨.priority, "short_context", "0", "", "", "", "", ""⟩]

def longContextPayload (minInputTokens : Int) : NumericPricePayload where
  inputPer1M := 5 / 4
  cachedInputPer1M := 1 / 8
  cacheWritePer1M := none
  outputPer1M := 10
  tiers := some [⟨.standard, "long_context", minInputTokens, none, 5 / 2, 1 / 4, none, 15⟩]

theorem validatePriceDraft_longContextDraft :
    validatePriceDraft Double.round (longContextDraft "200000") =
        ⟨some (longContextPayload 200000), []⟩ ∧
      validatePriceDraft Double.round (longContextDraft "9007199254740996") =
        ⟨some (longContextPayload 9007199254740996), []⟩ := by
  decide +kernel

theorem pricesEveryCount_longContext : PricesEveryCount compare (longContextPayload 200000) := by
  have h := validatePriceDraft_longContextDraft.1
  refine (selectedTier_of_accepted_iff compare h).1.mpr fun low hlow => ?_
  obtain ⟨saved, hsaved, -, rfl⟩ := (standardFrom_iff h).mp hlow.1
  obtain rfl := List.mem_singleton.mp hsaved
  exact numberBefore_lt (by decide) (by decide)

/-- The bound before `2 ^ 53 + 4` is rounded up to it, so that the base price is selected there. -/
theorem longContext_not_selected :
    ¬∀ (draft : PriceDraft) (payload : NumericPricePayload) (errors : List String),
      validatePriceDraft Double.round draft = ⟨some payload, errors⟩ →
      PricesEveryCount compare payload := by
  intro hall
  obtain ⟨tier, htier, hprice⟩ := hall _ _ _ validatePriceDraft_longContextDraft.2
    9007199254740996 (by unfold IsNumber; decide +kernel) none false (by decide)
  have hpicked : Pricing.pickedTier compare numberBefore
      (longContextPayload 9007199254740996).profile 9007199254740996 none false =
        some (Pricing.implicitStandardTier (longContextPayload 9007199254740996).profile
          (some 9007199254740996)) := by
    decide +kernel
  obtain rfl := Option.some.inj (htier.symm.trans hpicked)
  cases hprice with
  | base high hbelow => exact absurd (hbelow _ List.mem_cons_self rfl) (by decide)
  | @tier _ found hfound =>
    obtain rfl := List.mem_singleton.mp hfound.mem
    exact absurd (congrArg Pricing.SelectedPriceTier.minInputTokens hfound.selected) (by decide)

end Accepted

end Frely.Admin
