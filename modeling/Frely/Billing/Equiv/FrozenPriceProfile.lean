import Frely.Billing.Equiv.InvocationCharge
import Frely.Billing.FrozenPriceProfile

/-!
# Correctness of the frozen price profile

A price row that passes the checks of `encodeFrozenPriceProfile` is read back unchanged
(`parseFrozenPriceProfile_encode`), and `selectFrozenPriceProfile` settles a usage at the tier
with the *highest* lower bound among those that cover its input tokens
(`settledUnits_eq`).  Sorting the stored tiers does not matter (`firstBy_filter_sortBy`): ties of
the final comparison are ties of the stored order.
-/

namespace Frely.Billing

open Checked StableSort

/-! ### Reading amounts back -/

theorem bigintField_decimalString {value : Int} (h : 0 ≤ value) (field : String) :
    bigintField (decimalString value) field = .ok value := by
  obtain ⟨n, rfl⟩ := Int.eq_ofNat_of_zero_le h
  have htext : (decimalString (n : Int)).toList = Nat.toDigits 10 n := by
    simp [decimalString, toString, Int.repr]
  have hdigits : (Nat.toDigits 10 n).all Char.isDigit := by
    rw [List.all_eq_true]
    intro c hc
    exact Nat.isDigit_of_mem_toDigits (by decide) (by decide) hc
  rw [bigintField, htext, rejectIf_of_not, bind_ok, pure_eq_ok, Nat.ofDigitChars_ten_toDigits]
  simp [hdigits, Nat.toDigits_ne_nil]

theorem optionalBigintField_map_decimalString {value : Option Int} (h : ∀ v ∈ value, 0 ≤ v)
    (field : String) : optionalBigintField (value.map decimalString) field = .ok value := by
  cases value with
  | none => rfl
  | some v =>
    simp only [Option.map_some, optionalBigintField, bigintField_decimalString (h v rfl), bind_ok,
      pure_eq_ok]

theorem validatedFrozenUnits_eq_ok_iff {price units : FrozenPriceUnits} :
    validatedFrozenUnits price = .ok units ↔ price.InRange ∧ price = units := by
  simp only [validatedFrozenUnits, bind_eq_ok, rejectIf_eq_ok, not_not, pure_eq_ok, Except.ok.injEq]
  constructor
  · rintro ⟨-, ⟨hi, hc, ho⟩, -, hw, rfl⟩
    exact ⟨⟨hi, hc, hw, ho⟩, rfl⟩
  · rintro ⟨⟨hi, hc, hw, ho⟩, rfl⟩
    exact ⟨(), ⟨hi, hc, ho⟩, (), hw, rfl⟩

theorem validatedFrozenUnits_of_inRange {price : FrozenPriceUnits} (h : price.InRange) :
    validatedFrozenUnits price = .ok price :=
  validatedFrozenUnits_eq_ok_iff.mpr ⟨h, rfl⟩

/-- Unit prices in range survive the round trip through their document. -/
theorem frozenUnitsFrom_document {price : FrozenPriceUnits} (h : price.InRange) :
    frozenUnitsFrom (frozenPriceUnitsDocument price) = .ok price := by
  have hcw : ∀ v ∈ price.cacheWritePriceUnitsPer1M, 0 ≤ v := fun v hv => (h.cacheWrite v hv).1
  simp only [frozenUnitsFrom, parseFrozenPriceUnits, frozenPriceUnitsDocument,
    bigintField_decimalString h.input.1, bigintField_decimalString h.cached.1,
    bigintField_decimalString h.output.1, optionalBigintField_map_decimalString hcw, bind_ok,
    pure_eq_ok, validatedFrozenUnits_of_inRange h]

/-! ### Encoding and parsing -/

/-- The identity and bounds of a tier, as the encoder demands them. -/
structure InvocationPriceProfileTierInput.Valid (tier : InvocationPriceProfileTierInput) :
    Prop where
  key : tier.tierKey ≠ ""
  keyLength : utf16Length tier.tierKey ≤ 100
  minimum : 0 ≤ tier.minInputTokens
  maximum : ∀ maximum ∈ tier.maxInputTokens, tier.minInputTokens ≤ maximum
  units : tier.toFrozenPriceUnits.InRange

/-- The service tier stored with a tier: a price row holds one of the two words. -/
def InvocationPriceProfileTierInput.storedServiceTier (tier : InvocationPriceProfileTierInput) :
    ProfileServiceTier :=
  if tier.serviceTier = "priority" then .priority else .standard

/-- A price row with enabled tiers of the two service tiers. -/
structure InvocationPriceProfileInput.EnabledTiers (row : InvocationPriceProfileInput) :
    Prop where
  status : ∀ tier ∈ row.tiers, tier.status = "enabled"
  serviceTier : ∀ tier ∈ row.tiers, tier.serviceTier = "standard" ∨ tier.serviceTier = "priority"

/-- What the encoder accepts. -/
structure InvocationPriceProfileInput.Accepted (row : InvocationPriceProfileInput) : Prop where
  status : row.status = "enabled"
  base : row.toFrozenPriceUnits.InRange
  tiers : ∀ tier ∈ row.tiers, tier.Valid

section Rows

variable {row : InvocationPriceProfileInput} {tier : InvocationPriceProfileTierInput}

theorem storedProfileServiceTier_eq
    (h : tier.serviceTier = "standard" ∨ tier.serviceTier = "priority") :
    storedProfileServiceTier tier.serviceTier = some tier.storedServiceTier := by
  unfold InvocationPriceProfileTierInput.storedServiceTier
  rcases h with h | h <;> rw [h] <;> decide

/-- The document of a tier. -/
def tierDocument (tier : InvocationPriceProfileTierInput) : FrozenPriceTierDocument where
  serviceTier := tier.storedServiceTier.text
  tierKey := tier.tierKey
  minInputTokens := decimalString tier.minInputTokens
  maxInputTokens := tier.maxInputTokens.map decimalString
  toFrozenPriceUnitsDocument := frozenPriceUnitsDocument tier.toFrozenPriceUnits

/-- A tier as it is read back. -/
def parsedTier (tier : InvocationPriceProfileTierInput) : FrozenPriceTier where
  serviceTier := tier.storedServiceTier
  tierKey := tier.tierKey
  minInputTokens := tier.minInputTokens
  maxInputTokens := tier.maxInputTokens
  units := tier.toFrozenPriceUnits

theorem encodeFrozenPriceTier_eq_ok_iff
    (hword : tier.serviceTier = "standard" ∨ tier.serviceTier = "priority")
    {documents : List FrozenPriceTierDocument} :
    encodeFrozenPriceTier tier = .ok documents ↔ tier.Valid ∧ documents = [tierDocument tier] := by
  simp only [encodeFrozenPriceTier, storedProfileServiceTier_eq hword, bind_eq_ok, rejectIf_eq_ok,
    validatedFrozenUnits_eq_ok_iff, pure_eq_ok, Except.ok.injEq]
  constructor
  · rintro ⟨-, hcheck, units, ⟨hunits, rfl⟩, rfl⟩
    push Not at hcheck
    exact ⟨⟨hcheck.1, hcheck.2.1, hcheck.2.2.1, hcheck.2.2.2, hunits⟩, rfl⟩
  · rintro ⟨⟨hkey, hlength, hmin, hmax, hunits⟩, rfl⟩
    refine ⟨(), ?_, _, ⟨hunits, rfl⟩, rfl⟩
    push Not
    exact ⟨hkey, hlength, hmin, hmax⟩

theorem parseFrozenPriceTier_document (h : tier.Valid) :
    parseFrozenPriceTier (tierDocument tier) = .ok (parsedTier tier) := by
  have hmax : ∀ v ∈ tier.maxInputTokens, 0 ≤ v := fun v hv => h.minimum.trans (h.maximum v hv)
  have hidentity : ¬((tier.storedServiceTier.text ≠ "standard" ∧
      tier.storedServiceTier.text ≠ "priority") ∨ tier.tierKey = "" ∨
      100 < utf16Length tier.tierKey) := by
    have hword : tier.storedServiceTier.text = "standard" ∨
        tier.storedServiceTier.text = "priority" := by
      cases tier.storedServiceTier <;> decide
    have hkey := h.key
    have hlength := h.keyLength
    push Not
    exact ⟨fun hne => hword.resolve_left hne, hkey, hlength⟩
  have hword : (if (tierDocument tier).serviceTier = "priority" then ProfileServiceTier.priority
      else .standard) = tier.storedServiceTier := by
    change (if tier.storedServiceTier.text = "priority" then ProfileServiceTier.priority
      else .standard) = tier.storedServiceTier
    cases tier.storedServiceTier <;> rfl
  have hbounds : ¬∃ maximum ∈ tier.maxInputTokens, maximum < tier.minInputTokens := by
    push Not
    exact h.maximum
  simp only [parseFrozenPriceTier, bind_eq_ok, rejectIf_eq_ok, pure_eq_ok, Except.ok.injEq]
  refine ⟨(), hidentity, _, bigintField_decimalString h.minimum _, _,
    optionalBigintField_map_decimalString hmax _, (), hbounds, _,
    frozenUnitsFrom_document h.units, ?_⟩
  rw [hword]
  rfl

variable (localeCompare : String → String → Ordering)

/-- The document of a price row. -/
def profileDocument (row : InvocationPriceProfileInput) : FrozenPriceProfileDocument where
  schemaVersion := 1
  currency := "USD"
  precision := 6
  base := frozenPriceUnitsDocument row.toFrozenPriceUnits
  tiers := sortBy (compareFrozenTiers localeCompare) (row.tiers.map tierDocument)

theorem encodeFrozenPriceProfile_eq_ok_iff (hrow : row.EnabledTiers)
    {document : FrozenPriceProfileDocument} :
    encodeFrozenPriceProfile localeCompare row = .ok document ↔
      row.Accepted ∧ document = profileDocument localeCompare row := by
  have hfilter : row.tiers.filter (·.status = "enabled") = row.tiers := by
    rw [List.filter_eq_self]
    intro tier htier
    simpa using hrow.status tier htier
  simp only [encodeFrozenPriceProfile, bind_eq_ok, rejectIf_eq_ok, not_not, hfilter,
    validatedFrozenUnits_eq_ok_iff, pure_eq_ok, Except.ok.injEq]
  constructor
  · rintro ⟨-, hstatus, base, ⟨hbase, rfl⟩, documents, hdocuments, rfl⟩
    have htiers : ∀ tier ∈ row.tiers, tier.Valid := by
      intro tier htier
      obtain ⟨d, -, hd⟩ := exists_of_mapM_eq_ok hdocuments tier htier
      exact ((encodeFrozenPriceTier_eq_ok_iff (hrow.serviceTier tier htier)).mp hd).1
    have hmap := mapM_eq_ok fun tier htier =>
      (encodeFrozenPriceTier_eq_ok_iff (hrow.serviceTier tier htier)).mpr ⟨htiers tier htier, rfl⟩
    obtain rfl := Except.ok.inj (hmap.symm.trans hdocuments)
    refine ⟨⟨hstatus, hbase, htiers⟩, ?_⟩
    rw [profileDocument, ← List.flatMap_def, ← List.map_eq_flatMap]
  · rintro ⟨⟨hstatus, hbase, htiers⟩, rfl⟩
    have hmap := mapM_eq_ok fun tier htier =>
      (encodeFrozenPriceTier_eq_ok_iff (hrow.serviceTier tier htier)).mpr ⟨htiers tier htier, rfl⟩
    refine ⟨(), hstatus, _, ⟨hbase, rfl⟩, _, hmap, ?_⟩
    rw [profileDocument, ← List.flatMap_def, ← List.map_eq_flatMap]

/-- **Round trip**: an accepted row is read back with its tiers in the stored order. -/
theorem parseFrozenPriceProfile_profileDocument (h : row.Accepted) :
    parseFrozenPriceProfile (profileDocument localeCompare row) =
      .ok ⟨row.toFrozenPriceUnits, (sortBy (fun a b => compareFrozenTiers localeCompare
        (tierDocument a) (tierDocument b)) row.tiers).map parsedTier⟩ := by
  have hparse := mapM_eq_ok (f := parseFrozenPriceTier ∘ tierDocument) (g := parsedTier)
    (l := sortBy (fun a b => compareFrozenTiers localeCompare (tierDocument a) (tierDocument b))
      row.tiers)
    fun tier htier => parseFrozenPriceTier_document (h.tiers tier (mem_sortBy.mp htier))
  rw [← List.mapM_map] at hparse
  simp only [parseFrozenPriceProfile, profileDocument, sortBy_map, hparse,
    frozenUnitsFrom_document h.base, bind_ok, pure_eq_ok]
  rw [rejectIf_of_not (by decide), bind_ok]

end Rows

/-! ### Which tier settles a usage -/

/-- The tier covers the token count. -/
def InvocationPriceProfileTierInput.covers (tier : InvocationPriceProfileTierInput)
    (inputTokens : Int) : Bool :=
  tier.minInputTokens ≤ inputTokens && tier.maxInputTokens.all (inputTokens ≤ ·)

/-- The tiers of one service tier that cover the token count. -/
def InvocationPriceProfileInput.covering (row : InvocationPriceProfileInput)
    (serviceTier : ProfileServiceTier) (inputTokens : Int) :
    List InvocationPriceProfileTierInput :=
  row.tiers.filter fun tier => tier.storedServiceTier = serviceTier && tier.covers inputTokens

/-- Below every standard tier, or without one, a usage costs the base price. -/
def InvocationPriceProfileInput.BelowStandard (row : InvocationPriceProfileInput)
    (inputTokens : Int) : Prop :=
  ∀ tier ∈ row.tiers, tier.storedServiceTier = .standard → inputTokens < tier.minInputTokens

instance (row : InvocationPriceProfileInput) (inputTokens : Int) :
    Decidable (row.BelowStandard inputTokens) :=
  inferInstanceAs (Decidable (∀ tier ∈ row.tiers, tier.storedServiceTier = .standard →
    inputTokens < tier.minInputTokens))

/-- The price of a token count in the standard service tier, for a choice among the covering
tiers. -/
def InvocationPriceProfileInput.standardUnits (row : InvocationPriceProfileInput)
    (choice : ProfileServiceTier → Option InvocationPriceProfileTierInput) (inputTokens : Int) :
    Option FrozenPriceUnits :=
  (choice .standard).map (·.toFrozenPriceUnits) <|>
    (if row.BelowStandard inputTokens then some row.toFrozenPriceUnits else none)

/-- The price of a token count in a requested service tier: a covering tier of it, else the
standard price unless the requested one is required. -/
def InvocationPriceProfileInput.pricedUnits (row : InvocationPriceProfileInput)
    (choice : ProfileServiceTier → Option InvocationPriceProfileTierInput)
    (requested : ProfileServiceTier) (required : Bool) (inputTokens : Int) :
    Option FrozenPriceUnits :=
  if required ∧ requested = .priority ∧ choice .priority = none then none
  else (choice requested).map (·.toFrozenPriceUnits) <|> row.standardUnits choice inputTokens

section PricedUnits

variable {row : InvocationPriceProfileInput}
  {choice : ProfileServiceTier → Option InvocationPriceProfileTierInput} {inputTokens : Int}
  {required : Bool}

theorem pricedUnits_standard :
    row.pricedUnits choice .standard required inputTokens =
      row.standardUnits choice inputTokens := by
  rw [InvocationPriceProfileInput.pricedUnits, if_neg (by simp),
    InvocationPriceProfileInput.standardUnits]
  cases choice .standard <;> rfl

theorem pricedUnits_priority_of_some {tier : InvocationPriceProfileTierInput}
    (h : choice .priority = some tier) :
    row.pricedUnits choice .priority required inputTokens = some tier.toFrozenPriceUnits := by
  rw [InvocationPriceProfileInput.pricedUnits, if_neg (by simp [h]), h]
  rfl

theorem pricedUnits_priority_of_none (h : choice .priority = none) :
    row.pricedUnits choice .priority required inputTokens =
      if required then none else row.standardUnits choice inputTokens := by
  rw [InvocationPriceProfileInput.pricedUnits, h]
  cases required <;> rfl

theorem standardUnits_eq_none_iff :
    row.standardUnits choice inputTokens = none ↔
      choice .standard = none ∧ ¬row.BelowStandard inputTokens := by
  rw [InvocationPriceProfileInput.standardUnits]
  cases choice .standard with
  | none => by_cases h : row.BelowStandard inputTokens <;> simp [h]
  | some tier => simp

end PricedUnits

section Settlement

variable (localeCompare : String → String → Ordering) (row : InvocationPriceProfileInput)

/-- The covering tier with the highest lower bound, ties by key. -/
def highestCovering (inputTokens : Int) (serviceTier : ProfileServiceTier) :
    Option InvocationPriceProfileTierInput :=
  firstBy (fun a b => compareMatchingTiers localeCompare (parsedTier a) (parsedTier b))
    (row.covering serviceTier inputTokens)

/-- The profile an accepted row is read back as. -/
def parsedProfile : FrozenPriceProfile where
  base := row.toFrozenPriceUnits
  tiers := (sortBy (fun a b => compareFrozenTiers localeCompare (tierDocument a) (tierDocument b))
    row.tiers).map parsedTier

variable {row} {inputTokens : Int}

theorem compareMatchingTiers_transCmp [Std.TransCmp localeCompare] :
    Std.TransCmp (compareMatchingTiers localeCompare) := by
  have hkey : Std.TransCmp fun a b : FrozenPriceTier => localeCompare a.tierKey b.tierKey :=
    transCmp_map localeCompare FrozenPriceTier.tierKey
  have hmin : Std.TransCmp fun a b : FrozenPriceTier =>
      compare b.minInputTokens a.minInputTokens :=
    transCmp_map (fun a b : Int => compare b a) FrozenPriceTier.minInputTokens
  exact inferInstanceAs (Std.TransCmp (compareLex _ _))

variable [Std.TransCmp localeCompare]

/-- Matching a parsed profile finds the covering tier with the highest lower bound. -/
theorem parsedProfile_matching (serviceTier : ProfileServiceTier) :
    (parsedProfile localeCompare row).matching localeCompare serviceTier inputTokens =
      (highestCovering localeCompare row inputTokens serviceTier).map parsedTier := by
  have hself : ∀ a : String, localeCompare a a = .eq := fun a => Std.ReflCmp.compare_self
  have hmatching := compareMatchingTiers_transCmp localeCompare
  have htrans := transCmp_map (compareMatchingTiers localeCompare) parsedTier
  rw [FrozenPriceProfile.matching, head?_sortBy, parsedProfile, List.filter_map, firstBy_map,
    firstBy_filter_sortBy]
  · rfl
  -- two covering tiers that tie in the final order tie in the stored order
  intro a b ha hb htie
  have hservice : a.storedServiceTier = b.storedServiceTier := by
    rw [Function.comp_apply, Bool.and_eq_true] at ha hb
    exact (of_decide_eq_true ha.1).trans (of_decide_eq_true hb.1).symm
  simp only [compareMatchingTiers, Ordering.then_eq_eq, parsedTier,
    Std.LawfulEqCmp.compare_eq_iff_eq] at htie
  simp only [compareFrozenTiers, tierDocument, hservice, htie.1, hself, compareDecimalStrings,
    if_true, Ordering.eq_then, htie.2]
  rfl

variable (inputTokens) in
omit [Std.TransCmp localeCompare] in
/-- A count lies below the lowest bound found exactly when it lies below all bounds. -/
theorem foldl_lowerInput_all (tiers : List FrozenPriceTier) (start : Option Int) :
    (tiers.foldl lowerInput start).all (inputTokens < ·) = true ↔
      start.all (inputTokens < ·) = true ∧ ∀ tier ∈ tiers, inputTokens < tier.minInputTokens := by
  induction tiers generalizing start with
  | nil => simp
  | cons tier tiers ih =>
    rw [List.foldl_cons, ih, List.forall_mem_cons, ← and_assoc]
    refine and_congr_left fun _ => ?_
    cases start with
    | none => simp [lowerInput]
    | some bound =>
      rw [lowerInput]
      split_ifs <;> simp only [Option.all_some, decide_eq_true_eq] <;> omega

omit [Std.TransCmp localeCompare] in
theorem parsedProfile_belowStandard :
    (parsedProfile localeCompare row).firstStandardInput.all (inputTokens < ·) =
      decide (row.BelowStandard inputTokens) := by
  have hfold := foldl_lowerInput_all inputTokens
  rw [Bool.eq_iff_iff, FrozenPriceProfile.firstStandardInput, hfold, decide_eq_true_eq]
  simp only [Option.all_none, true_and, parsedProfile, List.mem_filter, List.mem_map, mem_sortBy,
    decide_eq_true_eq]
  constructor
  · intro h tier htier hstandard
    exact h (parsedTier tier) ⟨⟨tier, htier, rfl⟩, hstandard⟩
  · rintro h _ ⟨⟨tier, htier, rfl⟩, hstandard⟩
    exact h tier htier hstandard

/-- **The settled price**: an accepted profile settles a usage at the covering tier with the
highest lower bound. -/
theorem settledUnits_of_accepted (hrow : row.EnabledTiers) (haccepted : row.Accepted)
    (hinput : FitsInt64 inputTokens) (requested : String) (required : Bool) :
    ((encodeFrozenPriceProfile localeCompare row >>= fun document =>
        selectFrozenPriceProfile localeCompare document inputTokens requested required).toOption.map
      (·.units)) =
      row.pricedUnits (highestCovering localeCompare row inputTokens)
        (normalizedProfileServiceTier requested) required inputTokens := by
  have hencode := (encodeFrozenPriceProfile_eq_ok_iff localeCompare hrow).mpr ⟨haccepted, rfl⟩
  have hparse := parseFrozenPriceProfile_profileDocument localeCompare haccepted
  change _ = Except.ok (parsedProfile localeCompare row) at hparse
  have hassert : assertNonNegative inputTokens "inputTokens" = .ok () :=
    assertNonNegative_eq_ok_iff.mpr hinput
  simp only [hencode, bind_ok, selectFrozenPriceProfile, hassert, hparse,
    parsedProfile_matching, parsedProfile_belowStandard]
  set choice := highestCovering localeCompare row inputTokens
  set wanted := normalizedProfileServiceTier requested
  unfold InvocationPriceProfileInput.pricedUnits
  by_cases hmissing : required ∧ wanted = .priority ∧ choice .priority = none
  · obtain ⟨hrequired, hwanted, hnone⟩ := hmissing
    rw [rejectIf_of ⟨hrequired, hwanted, by rw [hwanted, hnone]; rfl⟩]
    simp [hrequired, hwanted, hnone, Except.toOption]
  · have hfound : ¬(required = true ∧ wanted = .priority ∧
        (choice wanted).map parsedTier = none) := by
      rintro ⟨hrequired, hwanted, hnone⟩
      rw [hwanted, Option.map_eq_none_iff] at hnone
      exact hmissing ⟨hrequired, hwanted, hnone⟩
    rw [if_neg hmissing, rejectIf_of_not hfound, bind_ok]
    unfold InvocationPriceProfileInput.standardUnits
    cases hwanted : choice wanted with
    | some tier => rfl
    | none =>
      cases hstandard : choice .standard with
      | some tier => rfl
      | none =>
        by_cases hbelow : row.BelowStandard inputTokens <;>
          simp [hbelow, Except.toOption, parsedProfile]

omit [Std.TransCmp localeCompare] in
/-- A row the encoder refuses, or a token count out of range, is not settled. -/
theorem settledUnits_of_not_accepted (hrow : row.EnabledTiers)
    (h : ¬(row.Accepted ∧ FitsInt64 inputTokens)) (requested : String) (required : Bool) :
    ((encodeFrozenPriceProfile localeCompare row >>= fun document =>
        selectFrozenPriceProfile localeCompare document inputTokens requested required).toOption.map
      (·.units)) = none := by
  cases hresult : encodeFrozenPriceProfile localeCompare row >>= fun document =>
      selectFrozenPriceProfile localeCompare document inputTokens requested required with
  | error e => rfl
  | ok selected =>
    obtain ⟨document, hencode, hselect⟩ := bind_eq_ok.mp hresult
    obtain ⟨haccepted, -⟩ := (encodeFrozenPriceProfile_eq_ok_iff localeCompare hrow).mp hencode
    obtain ⟨_, hassert, _⟩ := bind_eq_ok.mp hselect
    exact absurd ⟨haccepted, assertNonNegative_eq_ok_iff.mp hassert⟩ h

end Settlement

end Frely.Billing
