import Frely.Admin.Equiv.PriceDraft
import Frely.Admin.PlanModel
import Frely.Core.Equiv.Numbers

/-!
# Opening and saving a price

The draft of a price is accepted tier by tier and gives the tiers it was made of, except the
enabled standard tier `short_context` from zero on (`isBase`): the editor shows the base price in
its place.  So what usages are charged stays the same exactly when such a tier has the base price
(`samePrices_iff`).
-/

namespace Frely.Admin

open Checked StableSort Ranges

/-! ### Texts that the draft is made of -/

variable {n : Int}

/-- A price that can be written and read back. -/
structure IsWritten (value : Rat) : Prop where
  nonneg : 0 ≤ value
  decimals : HasDecimals 6 value

section Texts

variable {value : Rat} {label : String} {allowUnavailable : Bool}

theorem integer_of_den (h : value.den = 1) : value = value.num := by
  exact ((Rat.den_eq_one_iff value).mp h).symm

theorem draftNumber_plain (h : IsWritten value) :
    IsPlain (draftNumber value).toList ∧ (draftNumber value).toList ≠ [] := by
  unfold draftNumber
  split_ifs with hinteger
  · exact toString_plain (Rat.num_nonneg.mpr h.nonneg)
  · rw [String.toList_ofList]
    exact toFixed_plain (by decide) h.nonneg h.decimals

theorem number_draftNumber (h : IsWritten value) : number (draftNumber value) = .finite value := by
  unfold draftNumber
  split_ifs with hinteger
  · rw [number_toString (Rat.num_nonneg.mpr h.nonneg), integer_of_den hinteger]
    rfl
  · exact number_toFixed (by decide) h.nonneg h.decimals

theorem isBlank_draftNumber (h : IsWritten value) : isBlank (draftNumber value) = false :=
  isBlank_of_plain (draftNumber_plain h).1 (draftNumber_plain h).2

/-- A plain text is not the word for an unavailable price. -/
theorem ne_unavailable {text : String} (hplain : IsPlain text.toList) :
    (trimmed text.toList).map Char.toLower ≠ "unavailable".toList := by
  rw [hplain.trimmed]
  intro heq
  cases htext : text.toList with
  | nil =>
    rw [htext] at heq
    exact absurd heq (by decide)
  | cons first rest =>
    rw [htext] at heq hplain
    have hfirst : first.toLower = 'u' := (List.cons.inj heq).1
    rcases hplain first List.mem_cons_self with hdigit | rfl
    · have hlower : first.toLower = first := by
        unfold Char.toLower
        rw [dif_neg]
        rw [Char.isDigit_iff_toNat] at hdigit
        rintro ⟨hupper, -⟩
        have hlow : 65 ≤ first.toNat := UInt32.le_iff_toNat_le.mp hupper
        have hhigh : first.toNat ≤ 57 := hdigit.2
        omega
      rw [hlower] at hfirst
      rw [hfirst] at hdigit
      exact absurd hdigit (by decide)
    · exact absurd hfirst (by decide)

theorem parseConfiguredPrice_draftNumber (h : IsWritten value) :
    parseConfiguredPrice some (draftNumber value) label allowUnavailable =
      (some (some value), []) := by
  have hblank : ¬isBlank (draftNumber value) = true := by
    rw [isBlank_draftNumber h]
    exact Bool.false_ne_true
  have hword : ¬(allowUnavailable && decide
      ((trimmed (draftNumber value).toList).map Char.toLower = "unavailable".toList)) = true := by
    rw [decide_eq_false (ne_unavailable (draftNumber_plain h).1), Bool.and_false]
    exact Bool.false_ne_true
  unfold parseConfiguredPrice
  rw [if_neg hblank, if_neg hword, JsNumber.rounded_some, number_draftNumber h]
  exact if_neg (not_lt.mpr h.nonneg)

theorem parseConfiguredPrice_draftNullablePrice {value : Option Rat}
    (h : ∀ price ∈ value, IsWritten price) :
    parseConfiguredPrice some (draftNullablePrice value) label true = (some value, []) := by
  cases value with
  | none =>
    unfold parseConfiguredPrice draftNullablePrice
    rw [if_neg (by decide), if_pos (by decide)]
  | some price =>
    simp only [draftNullablePrice]
    exact parseConfiguredPrice_draftNumber (h price rfl)

theorem isBlank_draftNullablePrice {value : Option Rat} (h : ∀ price ∈ value, IsWritten price) :
    isBlank (draftNullablePrice value) = false := by
  cases value with
  | none => decide
  | some price =>
    simp only [draftNullablePrice]
    exact isBlank_draftNumber (h price rfl)

theorem tokenBoundary_toString (h : 0 ≤ n) :
    isBlank (toString n) = false ∧ tokenBoundary some (toString n) = some n := by
  obtain ⟨hplain, hne⟩ := toString_plain h
  refine ⟨isBlank_of_plain hplain hne, ?_⟩
  rw [tokenBoundary, number_toString h, JsNumber.rounded_some]
  simp [JsNumber.integer?, h]

end Texts

/-! ### Tiers through the draft -/

variable {tier : PriceTierLike}

/-- The token counts of a stored tier. -/
def PriceTierLike.range (tier : PriceTierLike) : Range :=
  ⟨tier.minInputTokens, tier.maxInputTokens⟩

/-- The four prices of a stored tier. -/
def PriceTierLike.units (tier : PriceTierLike) : UnitPrices :=
  ⟨tier.inputPer1M, tier.cachedInputPer1M, tier.cacheWritePer1M, tier.outputPer1M⟩

/-- The four base prices of a stored price. -/
def PriceRecordLike.units (price : PriceRecordLike) : UnitPrices :=
  ⟨price.inputPer1M, price.cachedInputPer1M, price.cacheWritePer1M, price.outputPer1M⟩

/-- Unit prices that can be written and read back. -/
structure UnitPrices.AreWritten (units : UnitPrices) : Prop where
  input : IsWritten units.inputPer1M
  cachedInput : IsWritten units.cachedInputPer1M
  cacheWrite : ∀ price ∈ units.cacheWritePer1M, IsWritten price
  output : IsWritten units.outputPer1M

/-- A tier that survives the draft. -/
structure PriceTierLike.Survives (tier : PriceTierLike) : Prop where
  written : tier.units.AreWritten
  nonneg : 0 ≤ tier.minInputTokens
  proper : tier.range.Proper

/-- The tier that is saved for a loaded one. -/
def PriceTierLike.saved (tier : PriceTierLike) : NumericPriceTierPayload where
  serviceTier := draftServiceTier tier.serviceTier
  tierKey := tier.tierKey
  minInputTokens := tier.minInputTokens
  maxInputTokens := tier.maxInputTokens
  inputPer1M := tier.inputPer1M
  cachedInputPer1M := tier.cachedInputPer1M
  cacheWritePer1M := tier.cacheWritePer1M
  outputPer1M := tier.outputPer1M

theorem parseConfiguredPrices_written {units : UnitPrices} (h : units.AreWritten)
    (label : String) :
    parseConfiguredPrices some (draftNumber units.inputPer1M) (draftNumber units.cachedInputPer1M)
      (draftNullablePrice units.cacheWritePer1M) (draftNumber units.outputPer1M) label =
        (some units, []) := by
  unfold parseConfiguredPrices
  rw [parseConfiguredPrice_draftNumber h.input, parseConfiguredPrice_draftNumber h.cachedInput,
    parseConfiguredPrice_draftNullablePrice h.cacheWrite, parseConfiguredPrice_draftNumber h.output]
  rfl

theorem parseRequiredTokenBoundary_toString (h : 0 ≤ n) (label : String) :
    parseRequiredTokenBoundary some (toString n) label = (some n, []) := by
  obtain ⟨hblank, hboundary⟩ := tokenBoundary_toString h
  unfold parseRequiredTokenBoundary
  rw [hblank, if_neg Bool.false_ne_true, hboundary]

theorem parseOptionalTokenBoundary_toString (h : 0 ≤ n) (label : String) :
    parseOptionalTokenBoundary some (toString n) label = (some n, []) := by
  obtain ⟨hblank, hboundary⟩ := tokenBoundary_toString h
  unfold parseOptionalTokenBoundary
  rw [hblank, if_neg Bool.false_ne_true, hboundary]

/-- The display of an upper bound is read back. -/
theorem parseOptionalTokenBoundary_display (h : tier.Survives) (label : String) :
    parseOptionalTokenBoundary some (tierDraftFromPriceTier tier).maxInputTokensDisplay label =
      (tier.maxInputTokens, []) := by
  unfold tierDraftFromPriceTier
  dsimp only
  cases hmax : tier.maxInputTokens with
  | none =>
    unfold parseOptionalTokenBoundary
    exact if_pos (by decide)
  | some high =>
    have hproper : tier.minInputTokens ≤ high := h.proper high hmax
    exact parseOptionalTokenBoundary_toString (h.nonneg.trans hproper) label

theorem validateFilledTier_eq {draft : PriceTierDraft} {prices : UnitPrices} {low : Int}
    {maxInputTokens : Option Int}
    (hprices : parseConfiguredPrices some draft.inputPer1M draft.cachedInputPer1M
      draft.cacheWritePer1M draft.outputPer1M draft.label = (some prices, []))
    (hmin : parseRequiredTokenBoundary some draft.minInputTokensDisplay
      (draft.label ++ " minimum input tokens") = (some low, []))
    (hmax : parseOptionalTokenBoundary some draft.maxInputTokensDisplay
      (draft.label ++ " maximum input tokens") = (maxInputTokens, []))
    (hproper : ∀ high ∈ maxInputTokens, low ≤ high) :
    validateFilledTier some draft =
      (some ⟨draft.serviceTier, draft.tierKey, low, maxInputTokens, prices.inputPer1M,
        prices.cachedInputPer1M, prices.cacheWritePer1M, prices.outputPer1M⟩, []) := by
  unfold validateFilledTier
  rw [hprices, hmin, hmax]
  cases maxInputTokens with
  | none => rfl
  | some high =>
    have hrange : ¬high < low := Int.not_lt.mpr (hproper high rfl)
    dsimp only
    rw [if_neg hrange]
    rfl

/-- **A loaded tier is accepted as it was.** -/
theorem validateTier_tierDraft (h : tier.Survives) :
    validateTier some (tierDraftFromPriceTier tier) = (some tier.saved, []) := by
  have hinput : isBlank (draftNumber tier.inputPer1M) = false := isBlank_draftNumber h.written.input
  have hcached : isBlank (draftNumber tier.cachedInputPer1M) = false :=
    isBlank_draftNumber h.written.cachedInput
  have hwrite : isBlank (draftNullablePrice tier.cacheWritePer1M) = false :=
    isBlank_draftNullablePrice h.written.cacheWrite
  have houtput : isBlank (draftNumber tier.outputPer1M) = false :=
    isBlank_draftNumber h.written.output
  have hany : (tierDraftFromPriceTier tier).priceDisplays.any isBlank = false := by
    simp only [PriceTierDraft.priceDisplays, tierDraftFromPriceTier, List.any_cons, List.any_nil,
      hinput, hcached, hwrite, houtput, Bool.or_false]
  have hall : (tierDraftFromPriceTier tier).priceDisplays.all isBlank = false := by
    simp only [PriceTierDraft.priceDisplays, tierDraftFromPriceTier, List.all_cons, hinput,
      Bool.false_and]
  have hprices : parseConfiguredPrices some (tierDraftFromPriceTier tier).inputPer1M
      (tierDraftFromPriceTier tier).cachedInputPer1M (tierDraftFromPriceTier tier).cacheWritePer1M
      (tierDraftFromPriceTier tier).outputPer1M (tierDraftFromPriceTier tier).label =
        (some tier.units, []) := by
    simp only [tierDraftFromPriceTier]
    exact parseConfiguredPrices_written h.written _
  have hmin := parseRequiredTokenBoundary_toString h.nonneg
    ((tierDraftFromPriceTier tier).label ++ " minimum input tokens")
  have hmax := parseOptionalTokenBoundary_display h
    ((tierDraftFromPriceTier tier).label ++ " maximum input tokens")
  unfold validateTier
  rw [hall, hany, if_neg Bool.false_ne_true, if_neg Bool.false_ne_true,
    validateFilledTier_eq hprices hmin hmax h.proper]
  rfl

/-! ### The saved payload -/

/-- The tiers that a price is selected from. -/
def enabledTiers (price : PriceRecordLike) : List PriceTierLike :=
  (price.tiers.getD []).filter (·.isEnabled)

/-- A price whose texts are read back: the enabled tiers survive and the base price is written. -/
structure PriceRecordLike.Survives (price : PriceRecordLike) : Prop where
  written : price.units.AreWritten
  tiers : ∀ tier ∈ enabledTiers price, tier.Survives

theorem mem_enabledTierLikes {price : PriceRecordLike} :
    tier ∈ enabledTierLikes price.tiers ↔ tier ∈ enabledTiers price ∧ tier.isBase = false := by
  rw [enabledTierLikes, List.mem_filter, Bool.not_eq_true']
  rfl

section Saved

variable (localeCompare : String → String → Ordering) {price : PriceRecordLike}
  {payload : NumericPricePayload} {errors : List String}

/-- The tiers of the draft: the loaded ones, and perhaps an empty one. -/
theorem mem_draftTiers {tier : PriceTierDraft}
    (h : tier ∈ (createPriceDraftFromEnabled some localeCompare (some price)).tiers) :
    tier ∈ (enabledTierLikes price.tiers).map tierDraftFromPriceTier ∨
      tier = createTierDraft .priority "short_context" := by
  have hmem := mem_sortBy.mp h
  split_ifs at hmem
  · exact .inl hmem
  · rcases List.mem_append.mp hmem with hmem | hmem
    · exact .inl hmem
    · exact .inr (List.mem_singleton.mp hmem)

theorem mem_draftTiers_of_mem (h : tier ∈ enabledTierLikes price.tiers) :
    tierDraftFromPriceTier tier ∈
      (createPriceDraftFromEnabled some localeCompare (some price)).tiers := by
  have hmem := List.mem_map_of_mem (f := tierDraftFromPriceTier) h
  refine mem_sortBy.mpr ?_
  split_ifs
  · exact hmem
  · exact List.mem_append_left _ hmem

/-- **The tiers that are saved** are the enabled ones except those shown as the base price. -/
theorem mem_savedTiers (hprice : price.Survives)
    (h : validatePriceDraft some (createPriceDraftFromEnabled some localeCompare (some price)) =
      ⟨some payload, errors⟩) {saved : NumericPriceTierPayload} :
    saved ∈ payload.tiers.getD [] ↔
      ∃ tier ∈ enabledTiers price, tier.isBase = false ∧ saved = tier.saved := by
  rw [(acceptedTiers nextNumber_some h).1, List.mem_filterMap]
  constructor
  · rintro ⟨draft, hdraft, hsaved⟩
    rcases mem_draftTiers localeCompare hdraft with hloaded | rfl
    · obtain ⟨tier, htier, rfl⟩ := List.mem_map.mp hloaded
      obtain ⟨henabled, hbase⟩ := mem_enabledTierLikes.mp htier
      rw [validateTier_tierDraft (hprice.tiers tier henabled)] at hsaved
      exact ⟨tier, henabled, hbase, (Option.some.inj hsaved).symm⟩
    · have hempty : (validateTier some (createTierDraft .priority "short_context")).1 = none := by
        decide
      rw [hempty] at hsaved
      exact absurd hsaved nofun
  · rintro ⟨tier, htier, hbase, rfl⟩
    refine ⟨tierDraftFromPriceTier tier,
      mem_draftTiers_of_mem localeCompare (mem_enabledTierLikes.mpr ⟨htier, hbase⟩), ?_⟩
    rw [validateTier_tierDraft (hprice.tiers tier htier)]

/-- **The base price that is saved** is the one of the price. -/
theorem savedUnits (hprice : price.Survives)
    (h : validatePriceDraft some (createPriceDraftFromEnabled some localeCompare (some price)) =
      ⟨some payload, errors⟩) :
    (⟨payload.inputPer1M, payload.cachedInputPer1M, payload.cacheWritePer1M,
      payload.outputPer1M⟩ : UnitPrices) = price.units := by
  have hbase : parseConfiguredPrices some
      (createPriceDraftFromEnabled some localeCompare (some price)).inputPerMillionDisplay
      (createPriceDraftFromEnabled some localeCompare (some price)).cachedInputPerMillionDisplay
      (createPriceDraftFromEnabled some localeCompare (some price)).cacheWritePerMillionDisplay
      (createPriceDraftFromEnabled some localeCompare (some price)).outputPerMillionDisplay
      "standard / short_context" = (some price.units, []) :=
    parseConfiguredPrices_written hprice.written _
  unfold validatePriceDraft at h
  rw [hbase] at h
  dsimp only at h
  split at h
  · rename_i prices _ hprices
    obtain rfl := Option.some.inj hprices
    obtain rfl := Option.some.inj (PriceDraftValidation.mk.inj h).1
    rfl
  · exact absurd (PriceDraftValidation.mk.inj h).1 nofun

end Saved

/-! ### What the profile check says -/

variable {tiers : List PriceTierLike}

theorem negativePrice_eq_none {inputPer1M cachedInputPer1M outputPer1M : Rat} :
    negativePrice inputPer1M cachedInputPer1M outputPer1M = none ↔
      0 ≤ inputPer1M ∧ 0 ≤ cachedInputPer1M ∧ 0 ≤ outputPer1M := by
  simp [negativePrice, List.findSome?_eq_none_iff]

theorem isNegativeCacheWrite_eq_false {cacheWritePer1M : Option Rat}
    (h : ¬isNegativeCacheWrite cacheWritePer1M = true) : ∀ price ∈ cacheWritePer1M, 0 ≤ price := by
  rintro price rfl
  by_contra hnegative
  exact h (decide_eq_true (Rat.not_le.mp hnegative))

/-- The prices of a tier or a price are not negative. -/
structure UnitPrices.AreNonneg (units : UnitPrices) : Prop where
  input : 0 ≤ units.inputPer1M
  cachedInput : 0 ≤ units.cachedInputPer1M
  cacheWrite : ∀ price ∈ units.cacheWritePer1M, 0 ≤ price
  output : 0 ≤ units.outputPer1M

theorem of_profileTierError {seenTierKeys : List String}
    (h : profileTierError seenTierKeys tier = none) :
    tier.units.AreNonneg ∧ 0 ≤ tier.minInputTokens ∧ tier.range.Proper := by
  unfold profileTierError at h
  iterate 3
    split at h
    · exact absurd h nofun
  split at h
  · exact absurd h nofun
  · rename_i hrange
    simp only [Bool.not_eq_true', Bool.not_eq_false, PriceTierLike.hasValidRange, Bool.and_eq_true,
      decide_eq_true_eq, Option.all_eq_true] at hrange
    split at h
    · exact absurd h nofun
    · rename_i hprices
      split_ifs at h with hwrite
      obtain ⟨hinput, hcached, houtput⟩ := negativePrice_eq_none.mp hprices
      exact ⟨⟨hinput, hcached, isNegativeCacheWrite_eq_false hwrite, houtput⟩, hrange.1, hrange.2⟩

theorem of_profileTierErrors {seenTierKeys : List String}
    (h : profileTierErrors seenTierKeys tiers = none) :
    ∀ tier ∈ tiers,
      tier.units.AreNonneg ∧ 0 ≤ tier.minInputTokens ∧ tier.range.Proper := by
  induction tiers generalizing seenTierKeys with
  | nil =>
    intro tier htier
    exact absurd htier List.not_mem_nil
  | cons tier rest ih =>
    obtain ⟨hfirst, hrest⟩ := Option.or_eq_none_iff.mp h
    rintro other hother
    rcases List.mem_cons.mp hother with rfl | hother
    · exact of_profileTierError hfirst
    · exact ih hrest other hother

theorem chain_of_profileRangeError {serviceTier : String} :
    ∀ {expectedMin : Int}, profileRangeError serviceTier expectedMin tiers = none →
      tiers.IsChain (fun a b => a.range.Meets (fun _ => True) b.range) ∧
        ∀ first ∈ tiers.head?, first.minInputTokens = expectedMin := by
  induction tiers with
  | nil =>
    intro expectedMin _
    exact ⟨.nil, fun first hfirst => absurd hfirst (by simp)⟩
  | cons tier rest ih =>
    intro expectedMin h
    rw [profileRangeError] at h
    by_cases hmin : tier.minInputTokens ≠ expectedMin
    · rw [if_pos hmin] at h
      exact absurd h nofun
    rw [if_neg hmin] at h
    have hstart : ∀ first ∈ (tier :: rest).head?, first.minInputTokens = expectedMin := by
      rintro _ ⟨⟩
      exact not_not.mp hmin
    refine ⟨?_, hstart⟩
    cases hmax : tier.maxInputTokens with
    | none =>
      rw [hmax] at h
      dsimp only at h
      split_ifs at h with hlast
      rw [not_not.mp hlast]
      exact .singleton _
    | some high =>
      rw [hmax] at h
      obtain ⟨hchain, hnext⟩ := ih h
      cases rest with
      | nil => exact .singleton _
      | cons next rest =>
        exact List.isChain_cons_cons.mpr ⟨Range.meets_of_succ _ hmax (hnext next rfl), hchain⟩

/-- What the check of a profile says about its prices and its standard tiers. -/
structure ValidProfile (localeCompare : String → String → Ordering) (units : UnitPrices)
    (tiers : List PriceTierLike) : Prop where
  base : units.AreNonneg
  each : ∀ tier ∈ tiers, tier.units.AreNonneg ∧ 0 ≤ tier.minInputTokens ∧ tier.range.Proper
  chain : (profileTiers localeCompare tiers "standard").IsChain
    fun a b => a.range.Meets (fun _ => True) b.range
  unbounded : ∀ tier ∈ (profileTiers localeCompare tiers "standard").getLast?,
    tier.maxInputTokens = none

theorem mem_profileTiers {localeCompare : String → String → Ordering} {serviceTier : String} :
    tier ∈ profileTiers localeCompare tiers serviceTier ↔
      tier ∈ tiers ∧ tier.profileServiceTier = serviceTier := by
  rw [profileTiers, mem_sortBy, List.mem_filter, decide_eq_true_eq]

theorem validProfile {localeCompare : String → String → Ordering} {profile : PriceRecordLike}
    (h : validatePriceProfile localeCompare profile = none) :
    ValidProfile localeCompare profile.units (profile.tiers.getD []) := by
  unfold validatePriceProfile at h
  dsimp only at h
  split at h
  · exact absurd h nofun
  · rename_i hprices
    split_ifs at h with hwrite
    obtain ⟨htiers, hservices⟩ := Option.or_eq_none_iff.mp h
    obtain ⟨hinput, hcached, houtput⟩ := negativePrice_eq_none.mp hprices
    have hstandard : profileTiers localeCompare (profile.tiers.getD []) "standard" = [] ∨
        profileServiceTierError localeCompare (profile.tiers.getD []) "standard" = none := by
      rw [or_iff_not_imp_left]
      intro hne
      obtain ⟨tier, htier⟩ := List.exists_mem_of_ne_nil _ hne
      obtain ⟨hmem, hservice⟩ := mem_profileTiers.mp htier
      refine List.findSome?_eq_none_iff.mp hservices "standard" (List.mem_eraseDups.mpr ?_)
      exact List.mem_map.mpr ⟨tier, hmem, hservice⟩
    have hbase : profile.units.AreNonneg :=
      ⟨hinput, hcached, isNegativeCacheWrite_eq_false hwrite, houtput⟩
    rcases hstandard with hempty | hvalid
    · refine ⟨hbase, of_profileTierErrors htiers, ?_, ?_⟩
      · rw [hempty]
        exact .nil
      · rw [hempty]
        exact fun tier htier => absurd htier (by simp)
    · obtain ⟨hrange, hlast⟩ := Option.or_eq_none_iff.mp hvalid
      refine ⟨hbase, of_profileTierErrors htiers, (chain_of_profileRangeError hrange).1, ?_⟩
      intro tier htier
      by_contra hbounded
      rw [if_pos ⟨by decide, tier, htier, hbounded⟩] at hlast
      exact absurd hlast nofun

/-! ### The price that is opened -/

/-- Unit prices with at most six digits after the point. -/
structure UnitPrices.HaveDecimals (units : UnitPrices) : Prop where
  input : HasDecimals 6 units.inputPer1M
  cachedInput : HasDecimals 6 units.cachedInputPer1M
  cacheWrite : ∀ price ∈ units.cacheWritePer1M, HasDecimals 6 price
  output : HasDecimals 6 units.outputPer1M

theorem UnitPrices.areWritten {units : UnitPrices} (hnonneg : units.AreNonneg)
    (hdecimals : units.HaveDecimals) : units.AreWritten :=
  ⟨⟨hnonneg.input, hdecimals.input⟩, ⟨hnonneg.cachedInput, hdecimals.cachedInput⟩,
    fun price hprice => ⟨hnonneg.cacheWrite price hprice, hdecimals.cacheWrite price hprice⟩,
    ⟨hnonneg.output, hdecimals.output⟩⟩

/-- An enabled price whose tiers are standard or priority ones, pass the profile check and have
prices with at most six decimals.  A tier is enabled, or disabled for the pricing package too. -/
structure IsOpened (localeCompare : String → String → Ordering) (price : PriceRecordLike) :
    Prop where
  status : ∀ tier ∈ price.tiers.getD [],
    tier.isEnabled = true ∨ Pricing.normalizeStatus tier.status = .disabled
  serviceTier : ∀ tier ∈ enabledTiers price,
    tier.serviceTier = none ∨ tier.serviceTier = some "standard" ∨
      tier.serviceTier = some "priority"
  valid : validatePriceProfile localeCompare { price with tiers := some (enabledTiers price) } =
    none
  decimals : price.units.HaveDecimals
  tierDecimals : ∀ tier ∈ enabledTiers price, tier.units.HaveDecimals

section Opened

variable {localeCompare : String → String → Ordering} {price : PriceRecordLike}

theorem IsOpened.profile (h : IsOpened localeCompare price) :
    ValidProfile localeCompare price.units (enabledTiers price) :=
  validProfile h.valid

theorem IsOpened.survives (h : IsOpened localeCompare price) : price.Survives where
  written := UnitPrices.areWritten h.profile.base h.decimals
  tiers tier htier :=
    ⟨UnitPrices.areWritten (h.profile.each tier htier).1 (h.tierDecimals tier htier),
      (h.profile.each tier htier).2.1, (h.profile.each tier htier).2.2⟩

/-- The three readings of a tier's service tier agree. -/
theorem serviceTier_readings {tier : PriceTierLike}
    (h : tier.serviceTier = none ∨ tier.serviceTier = some "standard" ∨
      tier.serviceTier = some "priority") :
    Pricing.normalizeStoredPriceServiceTier tier.serviceTier =
        (draftServiceTier tier.serviceTier).stored ∧
      (tier.profileServiceTier = "standard" ↔ draftServiceTier tier.serviceTier = .standard) ∧
      (tier.isBase = true → draftServiceTier tier.serviceTier = .standard) := by
  unfold PriceTierLike.profileServiceTier PriceTierLike.isBase
  rcases h with h | h | h <;> rw [h]
  · exact ⟨by decide, by decide, fun _ => by decide⟩
  · exact ⟨by decide, by decide, fun _ => by decide⟩
  · refine ⟨by decide, by decide, fun hbase => ?_⟩
    simp only [Option.getD_some, Bool.and_eq_true, decide_eq_true_eq] at hbase
    exact absurd hbase.1.1 (by decide)

theorem isEnabled_normalizeStatus (h : tier.isEnabled = true) :
    Pricing.normalizeStatus tier.status = .enabled := by
  rw [PriceTierLike.isEnabled, Bool.or_eq_true, decide_eq_true_eq, decide_eq_true_eq] at h
  rcases h with h | h <;> rw [h] <;> decide

/-- The tiers that the pricing package stores for the opened price. -/
theorem mem_openedTiers (h : IsOpened localeCompare price) (serviceTier : PriceServiceTier)
    {tier : Pricing.SelectedPriceTier Rat} :
    tier ∈ Pricing.storedTiers price.profile serviceTier.stored ↔
      ∃ opened ∈ enabledTiers price, draftServiceTier opened.serviceTier = serviceTier ∧
        tier = opened.saved.selected := by
  have htiers : price.profile.tiers.getD [] = (price.tiers.getD []).map (·.like) := by
    rw [PriceRecordLike.profile]
    cases price.tiers <;> rfl
  simp only [Pricing.storedTiers, htiers, List.mem_map, List.mem_filter, Bool.and_eq_true,
    decide_eq_true_eq]
  constructor
  · rintro ⟨_, ⟨⟨opened, hopened, rfl⟩, hservice, hstatus⟩, rfl⟩
    have hservice : Pricing.normalizeStoredPriceServiceTier opened.serviceTier =
      serviceTier.stored := hservice
    have hstatus : Pricing.normalizeStatus opened.status = .enabled := hstatus
    have henabled : opened.isEnabled = true := by
      rcases h.status opened hopened with henabled | hdisabled
      · exact henabled
      · rw [hdisabled] at hstatus
        exact absurd hstatus (by decide)
    have hmem : opened ∈ enabledTiers price := List.mem_filter.mpr ⟨hopened, henabled⟩
    rw [(serviceTier_readings (h.serviceTier opened hmem)).1,
      PriceServiceTier.stored_injective] at hservice
    exact ⟨opened, hmem, hservice, by rw [← hservice]; rfl⟩
  · rintro ⟨opened, hopened, rfl, rfl⟩
    obtain ⟨hmem, henabled⟩ := List.mem_filter.mp hopened
    exact ⟨opened.like, ⟨⟨opened, hmem, rfl⟩,
      (serviceTier_readings (h.serviceTier opened hopened)).1,
      isEnabled_normalizeStatus henabled⟩, rfl⟩

theorem covers_saved : tier.saved.selected.covers n = true ↔ tier.range.Contains n :=
  covers_selected

/-- Of the standard tiers at most one contains a count. -/
theorem IsOpened.eq_of_contains (h : IsOpened localeCompare price) {a b : PriceTierLike}
    (ha : a ∈ enabledTiers price) (hb : b ∈ enabledTiers price)
    (hastandard : draftServiceTier a.serviceTier = .standard)
    (hbstandard : draftServiceTier b.serviceTier = .standard) (hna : a.range.Contains n)
    (hnb : b.range.Contains n) : a = b := by
  have hproper : ∀ tier ∈ profileTiers localeCompare (enabledTiers price) "standard",
      tier.range.Proper := fun tier htier =>
    (h.profile.each tier (mem_profileTiers.mp htier).1).2.2
  have hreading := fun tier htier => (serviceTier_readings (h.serviceTier tier htier)).2.1
  exact Ranges.eq_of_contains hproper h.profile.chain
    (mem_profileTiers.mpr ⟨ha, (hreading a ha).mpr hastandard⟩)
    (mem_profileTiers.mpr ⟨hb, (hreading b hb).mpr hbstandard⟩) hna hnb

/-- From the lowest standard tier on, one contains each count. -/
theorem IsOpened.exists_contains (h : IsOpened localeCompare price) {start : PriceTierLike}
    (hstart : start ∈ enabledTiers price)
    (hstandard : draftServiceTier start.serviceTier = .standard) (hlow : start.minInputTokens ≤ n) :
    ∃ tier ∈ enabledTiers price, draftServiceTier tier.serviceTier = .standard ∧
      tier.range.Contains n := by
  have hproper : ∀ tier ∈ profileTiers localeCompare (enabledTiers price) "standard",
      tier.range.Proper := fun tier htier =>
    (h.profile.each tier (mem_profileTiers.mp htier).1).2.2
  have hreading := fun tier htier => (serviceTier_readings (h.serviceTier tier htier)).2.1
  have hmem : start ∈ profileTiers localeCompare (enabledTiers price) "standard" :=
    mem_profileTiers.mpr ⟨hstart, (hreading start hstart).mpr hstandard⟩
  obtain ⟨tier, htier, hcontains⟩ := Ranges.exists_contains h.profile.chain h.profile.unbounded
    trivial (exists_head_low_le hproper h.profile.chain hmem hlow)
  obtain ⟨htier, hservice⟩ := mem_profileTiers.mp htier
  exact ⟨tier, htier, (hreading tier htier).mp hservice, hcontains⟩

/-! ### What usages are charged -/

/-- The four prices of the selected tier. -/
def selectedUnits (tier : Pricing.SelectedPriceTier Rat) : UnitPrices :=
  ⟨tier.inputPer1M, tier.cachedInputPer1M, tier.cacheWritePer1M, tier.outputPer1M⟩

variable {payload : NumericPricePayload} {errors : List String} {inputTokens : Int}

variable (hopened : IsOpened localeCompare price)
  (hsave : validatePriceDraft some (createPriceDraftFromEnabled some localeCompare (some price)) =
    ⟨some payload, errors⟩)

include hopened hsave

/-- The saved tiers as the pricing package stores them. -/
theorem mem_storedSavedTiers (serviceTier : PriceServiceTier)
    {tier : Pricing.SelectedPriceTier Rat} :
    tier ∈ Pricing.storedTiers payload.profile serviceTier.stored ↔
      ∃ opened ∈ enabledTiers price, opened.isBase = false ∧
        draftServiceTier opened.serviceTier = serviceTier ∧ tier = opened.saved.selected := by
  rw [mem_storedTiers]
  constructor
  · rintro ⟨saved, hsaved, hservice, rfl⟩
    obtain ⟨opened, hmem, hbase, rfl⟩ :=
      (mem_savedTiers localeCompare hopened.survives hsave).mp hsaved
    exact ⟨opened, hmem, hbase, hservice, rfl⟩
  · rintro ⟨opened, hmem, hbase, hservice, rfl⟩
    exact ⟨opened.saved, (mem_savedTiers localeCompare hopened.survives hsave).mpr
      ⟨opened, hmem, hbase, rfl⟩, hservice, rfl⟩

omit hopened in
/-- Of the saved tiers of a service tier at most one covers a count. -/
theorem saved_unique (serviceTier : PriceServiceTier) {n : Int} :
    ∀ a ∈ Pricing.storedTiers payload.profile serviceTier.stored,
      ∀ b ∈ Pricing.storedTiers payload.profile serviceTier.stored,
        a.covers n = true → b.covers n = true → a = b := by
  intro a ha b hb hna hnb
  obtain ⟨saved, hsaved, hservice, rfl⟩ := (mem_storedTiers serviceTier).mp ha
  obtain ⟨saved', hsaved', hservice', rfl⟩ := (mem_storedTiers serviceTier).mp hb
  have haccepted := (acceptedTiers nextNumber_some hsave).2.2
  have hproper : ∀ tier ∈ serviceTiers (payload.tiers.getD []) serviceTier, tier.range.Proper :=
    fun tier htier => (haccepted.proper tier (mem_serviceTiers.mp htier).1).2
  rw [Ranges.eq_of_contains hproper (haccepted.chain serviceTier)
    (mem_serviceTiers.mpr ⟨hsaved, hservice⟩) (mem_serviceTiers.mpr ⟨hsaved', hservice'⟩)
    (covers_selected.mp hna) (covers_selected.mp hnb)]

/-- The priority tiers are saved as they are. -/
theorem findPriority_saved :
    Pricing.findTierForInputTokens
        (Pricing.enabledTiers localeCompare payload.profile .priority) inputTokens =
      Pricing.findTierForInputTokens
        (Pricing.enabledTiers localeCompare price.profile .priority) inputTokens := by
  refine Pricing.findTierForInputTokens_congr localeCompare (fun tier _ => ?_)
    (saved_unique hsave .priority)
  change tier ∈ Pricing.storedTiers payload.profile PriceServiceTier.priority.stored ↔
    tier ∈ Pricing.storedTiers price.profile PriceServiceTier.priority.stored
  rw [mem_storedSavedTiers hopened hsave, mem_openedTiers hopened]
  constructor
  · rintro ⟨opened, hmem, -, hservice, rfl⟩
    exact ⟨opened, hmem, hservice, rfl⟩
  · rintro ⟨opened, hmem, hservice, rfl⟩
    refine ⟨opened, hmem, ?_, hservice, rfl⟩
    by_contra hbase
    rw [Bool.not_eq_false] at hbase
    have hstandard := (serviceTier_readings (hopened.serviceTier opened hmem)).2.2 hbase
    rw [hservice] at hstandard
    exact absurd hstandard (by decide)

variable [Std.TransCmp localeCompare]

/-- Where the tier shown as the base price contains the count, the opened price charges that tier
and the saved one the base price. -/
theorem findStandard_of_base {base : PriceTierLike} (hbase : base ∈ enabledTiers price)
    (hisBase : base.isBase = true) (hcontains : base.range.Contains (max 0 inputTokens)) :
    (Pricing.findTierForInputTokens (Pricing.effectiveServiceTierProfile localeCompare
        price.profile .standard true) inputTokens).map selectedUnits = some base.units ∧
      (Pricing.findTierForInputTokens (Pricing.effectiveServiceTierProfile localeCompare
        payload.profile .standard true) inputTokens).map selectedUnits = some price.units := by
  have hstandard := (serviceTier_readings (hopened.serviceTier base hbase)).2.2 hisBase
  have hcovers := covers_saved.mpr hcontains
  have hmem : base.saved.selected ∈ Pricing.storedTiers price.profile .standard :=
    (mem_openedTiers hopened .standard).mpr ⟨base, hbase, hstandard, rfl⟩
  constructor
  · have hstart : ¬Pricing.BelowStandard price.profile (max 0 inputTokens) := by
      intro hbelow
      have hlt : max 0 inputTokens < base.minInputTokens := hbelow _ hmem
      exact absurd hcontains.1 (Int.not_le.mpr hlt)
    rw [Pricing.findStandard_of_not_below localeCompare hstart,
      Pricing.findTierForInputTokens_of_unique localeCompare hmem hcovers]
    · rfl
    · intro other hother hcovers'
      obtain ⟨opened, hopened', hservice, rfl⟩ := (mem_openedTiers hopened .standard).mp hother
      rw [hopened.eq_of_contains hopened' hbase hservice hstandard (covers_saved.mp hcovers')
        hcontains]
  · have hbelow : Pricing.BelowStandard payload.profile (max 0 inputTokens) := by
      by_contra hstart
      obtain ⟨tier, htier, hcovers'⟩ := exists_covers (acceptedTiers nextNumber_some hsave).2.2
        trivial hstart
      obtain ⟨opened, hopened', hnotBase, hservice, rfl⟩ :=
        (mem_storedSavedTiers hopened hsave .standard).mp htier
      rw [hopened.eq_of_contains hopened' hbase hservice hstandard (covers_saved.mp hcovers')
        hcontains, hisBase] at hnotBase
      exact absurd hnotBase (by decide)
    obtain ⟨high, hfind⟩ := Pricing.findStandard_of_below localeCompare hbelow
    rw [hfind, ← savedUnits localeCompare hopened.survives hsave]
    rfl

/-- Everywhere else the standard price is saved as it is. -/
theorem findStandard_saved
    (hnone : ∀ base ∈ enabledTiers price, base.isBase = true →
      ¬base.range.Contains (max 0 inputTokens)) :
    (Pricing.findTierForInputTokens (Pricing.effectiveServiceTierProfile localeCompare
        payload.profile .standard true) inputTokens).map selectedUnits =
      (Pricing.findTierForInputTokens (Pricing.effectiveServiceTierProfile localeCompare
        price.profile .standard true) inputTokens).map selectedUnits := by
  have hsaved {tier} := @mem_storedSavedTiers _ _ _ _ hopened hsave .standard tier
  have hstored {tier} := @mem_openedTiers _ _ hopened .standard tier
  by_cases hbelow : Pricing.BelowStandard price.profile (max 0 inputTokens)
  · have hbelow' : Pricing.BelowStandard payload.profile (max 0 inputTokens) := by
      intro tier htier
      obtain ⟨opened, hmem, -, hservice, rfl⟩ := hsaved.mp htier
      exact hbelow _ (hstored.mpr ⟨opened, hmem, hservice, rfl⟩)
    obtain ⟨high, hfind⟩ := Pricing.findStandard_of_below localeCompare hbelow
    obtain ⟨high', hfind'⟩ := Pricing.findStandard_of_below localeCompare hbelow'
    rw [hfind, hfind', Option.map_some, Option.map_some]
    exact congrArg some (savedUnits localeCompare hopened.survives hsave)
  · -- The standard tiers start by the count, so one of them contains it, and it is saved.
    have hstart : ¬Pricing.BelowStandard payload.profile (max 0 inputTokens) := by
      intro hbelow'
      refine hbelow fun tier htier => ?_
      obtain ⟨opened, hmem, hservice, rfl⟩ := hstored.mp htier
      by_contra hle
      obtain ⟨covering, hcovering, hstandard, hcontains⟩ :=
        hopened.exists_contains hmem hservice (Int.not_lt.mp hle)
      have hnotBase : covering.isBase = false := by
        rw [← Bool.not_eq_true]
        exact fun hbase => hnone covering hcovering hbase hcontains
      have hlt : max 0 inputTokens < covering.minInputTokens :=
        hbelow' _ (hsaved.mpr ⟨covering, hcovering, hnotBase, hstandard, rfl⟩)
      exact absurd hcontains.1 (Int.not_le.mpr hlt)
    rw [Pricing.findStandard_of_not_below localeCompare hbelow,
      Pricing.findStandard_of_not_below localeCompare hstart]
    refine congrArg _ (Pricing.findTierForInputTokens_congr localeCompare (fun tier hcovers => ?_)
      (saved_unique hsave .standard))
    constructor
    · intro htier
      obtain ⟨opened, hmem, -, hservice, rfl⟩ := hsaved.mp htier
      exact hstored.mpr ⟨opened, hmem, hservice, rfl⟩
    · intro htier
      obtain ⟨opened, hmem, hservice, rfl⟩ := hstored.mp htier
      have hnotBase : opened.isBase = false := by
        rw [← Bool.not_eq_true]
        exact fun hbase => hnone opened hmem hbase (covers_saved.mp hcovers)
      exact hsaved.mpr ⟨opened, hmem, hnotBase, hservice, rfl⟩

/-- The standard price is saved as it is when the tier shown as the base price has it. -/
theorem findStandard_same
    (hsame : ∀ tier ∈ enabledTiers price, tier.isBase = true → tier.units = price.units) :
    (Pricing.findTierForInputTokens (Pricing.effectiveServiceTierProfile localeCompare
        payload.profile .standard true) inputTokens).map selectedUnits =
      (Pricing.findTierForInputTokens (Pricing.effectiveServiceTierProfile localeCompare
        price.profile .standard true) inputTokens).map selectedUnits := by
  by_cases hbase : ∃ base ∈ enabledTiers price, base.isBase = true ∧
      base.range.Contains (max 0 inputTokens)
  · obtain ⟨base, hmem, hisBase, hcontains⟩ := hbase
    obtain ⟨hbefore, hafter⟩ := findStandard_of_base hopened hsave hmem hisBase hcontains
    rw [hbefore, hafter, hsame base hmem hisBase]
  · exact findStandard_saved hopened hsave fun base hmem hisBase hcontains =>
      hbase ⟨base, hmem, hisBase, hcontains⟩

omit hopened hsave [Std.TransCmp localeCompare] in
theorem requested_cases (serviceTier : Option String) :
    Pricing.normalizeRuntimePriceServiceTier serviceTier = .standard ∨
      Pricing.normalizeRuntimePriceServiceTier serviceTier = .priority := by
  unfold Pricing.normalizeRuntimePriceServiceTier
  dsimp only
  split_ifs
  · exact .inr rfl
  · exact .inl rfl

/-- **Opening and saving a price** keeps what every usage is charged exactly when an enabled
standard tier `short_context` from zero on has the base price. -/
theorem samePrices_iff :
    (∀ serviceTier requireServiceTier inputTokens,
      (Pricing.selectedTier localeCompare payload.profile inputTokens serviceTier
          requireServiceTier).map selectedUnits =
        (Pricing.selectedTier localeCompare price.profile inputTokens serviceTier
          requireServiceTier).map selectedUnits) ↔
      ∀ tier ∈ enabledTiers price, tier.isBase = true → tier.units = price.units := by
  constructor
  · intro h base hbase hisBase
    have hzero : base.minInputTokens = 0 := by
      simp only [PriceTierLike.isBase, Bool.and_eq_true, decide_eq_true_eq] at hisBase
      exact hisBase.2
    have hcontains : base.range.Contains (max 0 0) := by
      have hlow := Range.contains_low (hopened.profile.each base hbase).2.2
      rwa [show base.range.low = max 0 0 from hzero] at hlow
    obtain ⟨hbefore, hafter⟩ := findStandard_of_base hopened hsave hbase hisBase hcontains
    have hstandard : Pricing.normalizeRuntimePriceServiceTier (some "standard") = .standard := by
      decide
    have hsame := h (some "standard") false 0
    rw [Pricing.selectedTier_standard localeCompare false hstandard,
      Pricing.selectedTier_standard localeCompare false hstandard, hbefore, hafter] at hsame
    exact (Option.some.inj hsame).symm
  · intro hsame serviceTier requireServiceTier inputTokens
    rcases requested_cases serviceTier with hservice | hservice
    · rw [Pricing.selectedTier_standard localeCompare requireServiceTier hservice,
        Pricing.selectedTier_standard localeCompare requireServiceTier hservice]
      exact findStandard_same hopened hsave hsame
    · rw [Pricing.selectedTier_priority localeCompare requireServiceTier hservice,
        Pricing.selectedTier_priority localeCompare requireServiceTier hservice,
        findPriority_saved hopened hsave]
      cases Pricing.findTierForInputTokens
          (Pricing.enabledTiers localeCompare price.profile .priority) inputTokens with
      | some tier => rfl
      | none =>
        dsimp only
        split_ifs
        · rfl
        · exact findStandard_same hopened hsave hsame

end Opened

/-! ### A price with an explicit first tier -/

/-- A price whose tier for every count from zero on has the given input price. -/
def flatPrice (tierInputPer1M : Rat) : PriceRecordLike where
  inputPer1M := 1
  cachedInputPer1M := 1 / 2
  cacheWritePer1M := none
  outputPer1M := 4
  tiers := some [⟨some "standard", "short_context", 0, none, tierInputPer1M, 1 / 2, none, 4,
    some "enabled"⟩]

def flatPayload : NumericPricePayload := ⟨1, 1 / 2, none, 4, none⟩

theorem isOpened_flatPrice {price : Rat} (h : price = 1 ∨ price = 2) :
    IsOpened compare (flatPrice price) := by
  have hone : HasDecimals 6 1 := ⟨1000000, by decide +kernel⟩
  have hhalf : HasDecimals 6 (1 / 2) := ⟨500000, by decide +kernel⟩
  have hfour : HasDecimals 6 4 := ⟨4000000, by decide +kernel⟩
  have hprice : HasDecimals 6 price := by
    rcases h with rfl | rfl
    · exact ⟨1000000, by decide +kernel⟩
    · exact ⟨2000000, by decide +kernel⟩
  refine ⟨?_, ?_, ?_, ⟨hone, hhalf, nofun, hfour⟩, ?_⟩
  · rcases h with rfl | rfl <;> decide +kernel
  · rcases h with rfl | rfl <;> decide +kernel
  · rcases h with rfl | rfl <;> decide +kernel
  · intro tier htier
    obtain rfl := List.mem_singleton.mp (List.mem_filter.mp htier).1
    exact ⟨hprice, hhalf, nofun, hfour⟩

theorem validatePriceDraft_flatPrice {price : Rat} (h : price = 1 ∨ price = 2) :
    validatePriceDraft some (createPriceDraftFromEnabled some compare (some (flatPrice price))) =
      ⟨some flatPayload, []⟩ := by
  rcases h with rfl | rfl <;> decide +kernel

/-- With the base price in the tier, nothing changes. -/
theorem samePrices_iff_flatPrice : IsOpened compare (flatPrice 1) ∧
    ∀ serviceTier requireServiceTier inputTokens,
      (Pricing.selectedTier compare flatPayload.profile inputTokens serviceTier
          requireServiceTier).map selectedUnits =
        (Pricing.selectedTier compare (flatPrice 1).profile inputTokens serviceTier
          requireServiceTier).map selectedUnits :=
  ⟨isOpened_flatPrice (.inl rfl),
    (samePrices_iff (isOpened_flatPrice (.inl rfl)) (validatePriceDraft_flatPrice (.inl rfl))).mpr
      (by decide +kernel)⟩

/-- With another price in the tier, opening and saving charges the base price from then on. -/
theorem savedPrice_changes :
    IsOpened compare (flatPrice 2) ∧
      validatePriceDraft some (createPriceDraftFromEnabled some compare (some (flatPrice 2))) =
        ⟨some flatPayload, []⟩ ∧
      (Pricing.selectedTier compare (flatPrice 2).profile 0 (some "standard") false).map
        selectedUnits = some ⟨2, 1 / 2, none, 4⟩ ∧
      (Pricing.selectedTier compare flatPayload.profile 0 (some "standard") false).map
        selectedUnits = some ⟨1, 1 / 2, none, 4⟩ :=
  ⟨isOpened_flatPrice (.inr rfl), validatePriceDraft_flatPrice (.inr rfl), by decide +kernel,
    by decide +kernel⟩

end Frely.Admin
