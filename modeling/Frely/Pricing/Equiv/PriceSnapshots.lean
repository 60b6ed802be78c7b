import Frely.Pricing.PriceSnapshots
import Mathlib.Tactic.Common

/-!
# Price snapshots and their codec

`decode_encodeBillable`, `decode_encodeCost`: a price is read back from its document exactly when
its texts are not empty, its bounds are integers and its prices finite.
`readable_of_decodeBillable`, `readable_of_decodeCost`: what is read of a document of any version is
such a price, so that the document which is written of it again decodes to the same prices, tiers
and bounds, at version 4.
-/

namespace Frely.Pricing

open Checked

section Codec

variable {ν : Type} {numbers : SnapshotNumbers ν} {value : List (String × Json ν)}
  {key code text : String} {n : ν}

/-! ### Fields -/

variable {test : ν → Bool}

theorem requiredString_eq_ok : requiredString value key code = .ok text ↔
    Json.member? value key = some (.string text) ∧ text ≠ "" := by
  unfold requiredString
  split
  · next field hfield =>
    rw [hfield]
    split
    · next hempty => simp [hempty, eq_comm]
    · next hne =>
      constructor
      · intro h
        cases h
        exact ⟨rfl, hne⟩
      · rintro ⟨h, -⟩
        cases h
        rfl
  · next hother =>
    constructor
    · intro h
      cases h
    · intro h
      exact absurd h.1 (hother text)

theorem requiredNumber_eq_ok {requirement : String} :
    requiredNumber test requirement value key code = .ok n ↔
      Json.member? value key = some (.number n) ∧ test n = true := by
  unfold requiredNumber
  split
  · next field hfield =>
    rw [hfield]
    split
    · next htest =>
      constructor
      · intro h
        cases h
        exact ⟨rfl, htest⟩
      · rintro ⟨h, -⟩
        cases h
        rfl
    · next htest =>
      constructor
      · intro h
        cases h
      · rintro ⟨h, htrue⟩
        cases h
        exact absurd htrue htest
  · next hother =>
    constructor
    · intro h
      cases h
    · intro h
      exact absurd h.1 (hother n)

theorem nullable_eq_ok {requirement : String} {n : Option ν} :
    nullable (requiredNumber test requirement) value key code = .ok n ↔
      Json.member? value key = some (n.elim .null .number) ∧ ∀ m ∈ n, test m = true := by
  unfold nullable
  split
  · next hnull =>
    rw [hnull]
    cases n with
    | none => simp
    | some m => simp
  · next hother =>
    have hmap : some <$> requiredNumber test requirement value key code = .ok n ↔
        ∃ m, requiredNumber test requirement value key code = .ok m ∧ n = some m := by
      cases requiredNumber test requirement value key code with
      | error error => simp
      | ok m => simp [eq_comm]
    rw [hmap]
    cases n with
    | none =>
      constructor
      · rintro ⟨m, -, h⟩
        cases h
      · intro h
        exact absurd h.1 hother
    | some m =>
      constructor
      · rintro ⟨m', hm, h⟩
        cases h
        obtain ⟨hfield, htest⟩ := requiredNumber_eq_ok.mp hm
        refine ⟨hfield, fun m' hm' => ?_⟩
        cases hm'
        exact htest
      · rintro ⟨hfield, htest⟩
        exact ⟨m, requiredNumber_eq_ok.mpr ⟨hfield, htest m rfl⟩, rfl⟩

/-! ### Tiers -/

variable {version : Nat} {tier : PriceTierSnapshot ν} {tiers : List (PriceTierSnapshot ν)}

/-- What the decoder accepts in a tier. -/
structure TierReadable (numbers : SnapshotNumbers ν) (tier : PriceTierSnapshot ν) : Prop where
  serviceTier : tier.serviceTier ≠ ""
  tierKey : tier.tierKey ≠ ""
  minInputTokens : numbers.isInteger tier.minInputTokens = true
  maxInputTokens : ∀ bound ∈ tier.maxInputTokens, numbers.isInteger bound = true
  inputPer1M : numbers.isFinite tier.inputPer1M = true
  cachedInputPer1M : numbers.isFinite tier.cachedInputPer1M = true
  cacheWritePer1M : ∀ price ∈ tier.cacheWritePer1M, numbers.isFinite price = true
  outputPer1M : numbers.isFinite tier.outputPer1M = true

/-- Tiers that the reader accepts. -/
structure TiersReadable (numbers : SnapshotNumbers ν) (tiers : SnapshotTiers ν) : Prop where
  selectedServiceTier : tiers.selectedServiceTier ≠ ""
  selectedTierKey : tiers.selectedTierKey ≠ ""
  selectedTier : TierReadable numbers tiers.selectedTier
  tiers : ∀ tier ∈ tiers.tiers, TierReadable numbers tier

theorem parseSnapshotTier_eq_ok :
    parseSnapshotTier numbers (some (.object value)) code version = .ok tier ↔
      requiredString value "serviceTier" code = .ok tier.serviceTier ∧
      requiredString value "tierKey" code = .ok tier.tierKey ∧
      requiredInteger numbers value "minInputTokens" code = .ok tier.minInputTokens ∧
      nullableInteger numbers value "maxInputTokens" code = .ok tier.maxInputTokens ∧
      requiredFiniteNumber numbers value "inputPer1M" code = .ok tier.inputPer1M ∧
      requiredFiniteNumber numbers value "cachedInputPer1M" code = .ok tier.cachedInputPer1M ∧
      parseCacheWrite numbers value code version = .ok tier.cacheWritePer1M ∧
      requiredFiniteNumber numbers value "outputPer1M" code = .ok tier.outputPer1M := by
  unfold parseSnapshotTier
  simp only [bind_eq_ok, pure_eq_ok, Except.ok.injEq]
  constructor
  · rintro ⟨_, h1, _, h2, _, h3, _, h4, _, h5, _, h6, _, h7, _, h8, rfl⟩
    exact ⟨h1, h2, h3, h4, h5, h6, h7, h8⟩
  · rintro ⟨h1, h2, h3, h4, h5, h6, h7, h8⟩
    exact ⟨_, h1, _, h2, _, h3, _, h4, _, h5, _, h6, _, h7, _, h8, rfl⟩

/-- The price of cache writes is a finite number in every version. -/
theorem isFinite_of_parseCacheWrite {price : Option ν}
    (h : parseCacheWrite numbers value code version = .ok price) :
    ∀ p ∈ price, numbers.isFinite p = true := by
  have hmap : ∀ key, some <$> requiredFiniteNumber numbers value key code = .ok price →
      ∀ p ∈ price, numbers.isFinite p = true := by
    intro key h p hp
    cases hfield : requiredFiniteNumber numbers value key code with
    | error error =>
      rw [hfield] at h
      cases h
    | ok field =>
      rw [hfield] at h
      cases h
      cases hp
      exact (requiredNumber_eq_ok.mp hfield).2
  unfold parseCacheWrite at h
  split at h
  · exact (nullable_eq_ok.mp h).2
  · split at h
    · exact hmap _ h
    · exact hmap _ h

/-- A tier that is read is one that can be written and read again. -/
theorem readable_of_parseSnapshotTier {item : Option (Json ν)}
    (h : parseSnapshotTier numbers item code version = .ok tier) : TierReadable numbers tier := by
  unfold parseSnapshotTier at h
  split at h
  · next record =>
    obtain ⟨h1, h2, h3, h4, h5, h6, h7, h8⟩ := parseSnapshotTier_eq_ok.mp h
    exact ⟨(requiredString_eq_ok.mp h1).2, (requiredString_eq_ok.mp h2).2,
      (requiredNumber_eq_ok.mp h3).2, (nullable_eq_ok.mp h4).2, (requiredNumber_eq_ok.mp h5).2,
      (requiredNumber_eq_ok.mp h6).2, isFinite_of_parseCacheWrite h7,
      (requiredNumber_eq_ok.mp h8).2⟩
  · cases h

theorem readable_of_parseSnapshotTierArray {items : Option (Json ν)}
    (h : parseSnapshotTierArray numbers items code version = .ok tiers) :
    ∀ tier ∈ tiers, TierReadable numbers tier := by
  unfold parseSnapshotTierArray at h
  split at h
  · intro tier htier
    obtain ⟨item, -, hitem⟩ := mem_of_mapM_eq_ok h tier htier
    exact readable_of_parseSnapshotTier hitem
  · cases h

/-! ### Reading what was written -/

theorem numberJson_eq_number : numberJson numbers n = .number n ↔ numbers.isFinite n = true := by
  unfold numberJson
  split
  · next h => exact iff_of_true rfl h
  · next h => exact iff_of_false (fun heq => by cases heq) h

theorem numberJson_and_test (htest : ∀ n, test n = true → numbers.isFinite n = true) :
    some (numberJson numbers n) = some (.number n) ∧ test n = true ↔ test n = true := by
  constructor
  · exact And.right
  · intro h
    exact ⟨congrArg some (numberJson_eq_number.mpr (htest n h)), h⟩

theorem nullableJson_and_test (htest : ∀ n, test n = true → numbers.isFinite n = true)
    {n : Option ν} :
    some (nullableJson numbers n) = some (n.elim .null .number) ∧ (∀ m ∈ n, test m = true) ↔
      ∀ m ∈ n, test m = true := by
  constructor
  · exact And.right
  · intro h
    refine ⟨?_, h⟩
    cases n with
    | none => rfl
    | some m => exact congrArg some (numberJson_eq_number.mpr (htest m (h m rfl)))

theorem parseSnapshotTier_tierJson :
    parseSnapshotTier numbers (some (tierJson numbers tier)) code 4 = .ok tier ↔
      TierReadable numbers tier := by
  have hinteger := numbers.isFinite_of_isInteger
  have hfinite : ∀ n, numbers.isFinite n = true → numbers.isFinite n = true := fun _ => id
  rw [tierJson, parseSnapshotTier_eq_ok, parseCacheWrite, if_pos (Nat.le_refl 4)]
  unfold requiredInteger nullableInteger nullableFiniteNumber requiredFiniteNumber
  simp only [requiredString_eq_ok, requiredNumber_eq_ok, nullable_eq_ok, Json.member?_cons]
  simp only [String.reduceEq, if_true, if_false, numberJson_and_test hinteger,
    numberJson_and_test hfinite, nullableJson_and_test hinteger, nullableJson_and_test hfinite,
    true_and]
  constructor
  · rintro ⟨h1, h2, h3, h4, h5, h6, h7, h8⟩
    exact ⟨h1, h2, h3, h4, h5, h6, h7, h8⟩
  · rintro ⟨h1, h2, h3, h4, h5, h6, h7, h8⟩
    exact ⟨h1, h2, h3, h4, h5, h6, h7, h8⟩

theorem parseSnapshotTierArray_tierJson :
    parseSnapshotTierArray numbers (some (.array (tiers.map (tierJson numbers)))) code 4 =
      .ok tiers ↔ ∀ tier ∈ tiers, TierReadable numbers tier := by
  constructor
  · exact readable_of_parseSnapshotTierArray
  · intro h
    show (tiers.map (tierJson numbers)).mapM
      (fun item => parseSnapshotTier numbers (some item) code 4) = .ok tiers
    induction tiers with
    | nil => rfl
    | cons tier tiers ih =>
      have hfirst : parseSnapshotTier numbers (some (tierJson numbers tier)) code 4 = .ok tier :=
        parseSnapshotTier_tierJson.mpr (h tier List.mem_cons_self)
      have hrest := ih fun tier htier => h tier (List.mem_cons_of_mem _ htier)
      rw [List.map_cons, List.mapM_cons, hfirst, hrest]
      rfl

/-! ### Documents -/

theorem distinct_numberJson (n : ν) : (numberJson numbers n).Distinct := by
  unfold numberJson
  split <;> trivial

theorem distinct_nullableJson (n : Option ν) : (nullableJson numbers n).Distinct := by
  cases n with
  | none => trivial
  | some n => exact distinct_numberJson n

theorem distinct_tierJson (tier : PriceTierSnapshot ν) : (tierJson numbers tier).Distinct := by
  refine ⟨by simp [Json.keys], Json.distinctMembers_iff.mpr ?_⟩
  simp [Json.Distinct, distinct_numberJson, distinct_nullableJson]

/-- A document with these labels is read back as the members that were written. -/
theorem parseSnapshot_snapshotJson {labels : List (String × Json ν)} {tiers : SnapshotTiers ν}
    (syntaxMessage : List Char → String)
    (hkeys : ("v" :: Json.keys labels ++
      ["selectedServiceTier", "selectedTierKey", "selectedTier", "tiers"]).Nodup)
    (hlabels : ∀ label ∈ labels, label.2.Distinct) :
    parseSnapshot numbers syntaxMessage
        (Json.stringify numbers.format (snapshotJson numbers labels tiers)) code =
      .ok (("v", .number (numbers.format.ofNat 4)) :: labels ++
        [("selectedServiceTier", .string tiers.selectedServiceTier),
          ("selectedTierKey", .string tiers.selectedTierKey),
          ("selectedTier", tierJson numbers tiers.selectedTier),
          ("tiers", .array (tiers.tiers.map (tierJson numbers)))]) := by
  have hdistinct : (snapshotJson numbers labels tiers).Distinct := by
    refine ⟨?_, Json.distinctMembers_iff.mpr fun member hmember => ?_⟩
    · simpa [Json.keys] using hkeys
    · have hitems : (Json.array (tiers.tiers.map (tierJson numbers))).Distinct := by
        refine Json.distinctItems_iff.mpr fun item hitem => ?_
        obtain ⟨tier, -, rfl⟩ := List.mem_map.mp hitem
        exact distinct_tierJson tier
      rcases List.mem_append.mp hmember with hmember | hmember
      · rcases List.mem_cons.mp hmember with rfl | hmember
        · trivial
        · exact hlabels member hmember
      · simp only [List.mem_cons, List.not_mem_nil, or_false] at hmember
        rcases hmember with rfl | rfl | rfl | rfl
        · trivial
        · trivial
        · exact distinct_tierJson _
        · exact hitems
  unfold parseSnapshot
  rw [Json.parse_stringify hdistinct]
  rfl

theorem assertVersion_four (rest : List (String × Json ν)) :
    assertVersion numbers (("v", .number (numbers.format.ofNat 4)) :: rest) code = .ok () := by
  refine rejectIf_of_not ?_
  rw [Json.member?_cons, if_pos rfl, Option.bind_some, versionOf, numbers.format.toNat?_ofNat]
  decide

theorem tieredVersion_four :
    tieredVersion numbers (some (.number (numbers.format.ofNat 4))) = some 4 := by
  rw [tieredVersion, numbers.format.toNat?_ofNat]
  decide

variable {syntaxMessage : List Char → String}

/-- A billable price is read back from its document exactly when it is one that can be read. -/
theorem decode_encodeBillable (price : AccessPointPriceLike ν) :
    decodeBillablePriceSnapshot numbers syntaxMessage
        (encodeBillablePriceSnapshot numbers price) =
      .ok (.tiered 4 ⟨price.id, price.accessPointId⟩ (snapshotTiers numbers price.toPriceLike)) ↔
    price.id ≠ "" ∧ price.accessPointId ≠ "" ∧
      TiersReadable numbers (snapshotTiers numbers price.toPriceLike) := by
  generalize htiers : snapshotTiers numbers price.toPriceLike = tiers
  unfold decodeBillablePriceSnapshot encodeBillablePriceSnapshot
  dsimp only
  rw [htiers, parseSnapshot_snapshotJson syntaxMessage (by simp [Json.keys])
    (by simp [Json.Distinct])]
  simp only [bind_ok, List.cons_append, List.nil_append, assertVersion_four, Json.member?_cons,
    String.reduceEq, if_true, if_false, tieredVersion_four]
  simp only [bind_eq_ok, pure_eq_ok, Except.ok.injEq, requiredString_eq_ok, Json.member?_cons,
    String.reduceEq, if_true, if_false, Option.some.injEq, Json.string.injEq]
  constructor
  · rintro ⟨_, hselected, _, ⟨rfl, hid⟩, _, ⟨rfl, hap⟩, _, ⟨rfl, htier⟩, _, ⟨rfl, hkey⟩, _,
      harray, h⟩
    obtain ⟨serviceTier, tierKey, selectedTier, tiers⟩ := tiers
    cases h
    exact ⟨hid, hap, htier, hkey, parseSnapshotTier_tierJson.mp hselected,
      parseSnapshotTierArray_tierJson.mp harray⟩
  · rintro ⟨hid, hap, hreadable⟩
    exact ⟨_, parseSnapshotTier_tierJson.mpr hreadable.selectedTier, _, ⟨rfl, hid⟩, _,
      ⟨rfl, hap⟩, _, ⟨rfl, hreadable.selectedServiceTier⟩, _, ⟨rfl, hreadable.selectedTierKey⟩, _,
      parseSnapshotTierArray_tierJson.mpr hreadable.tiers, rfl⟩

theorem decode_encodeCost (cost : ProviderModelCostLike ν) :
    decodeCostPriceSnapshot numbers syntaxMessage (encodeCostPriceSnapshot numbers cost) =
      .ok (.tiered 4 ⟨cost.id, cost.providerId, cost.providerModelName, cost.source⟩
        (snapshotTiers numbers cost.toPriceLike)) ↔
    cost.id ≠ "" ∧ cost.providerId ≠ "" ∧ cost.providerModelName ≠ "" ∧ cost.source ≠ "" ∧
      TiersReadable numbers (snapshotTiers numbers cost.toPriceLike) := by
  generalize htiers : snapshotTiers numbers cost.toPriceLike = tiers
  unfold decodeCostPriceSnapshot encodeCostPriceSnapshot
  dsimp only
  rw [htiers, parseSnapshot_snapshotJson syntaxMessage (by simp [Json.keys])
    (by simp [Json.Distinct])]
  simp only [bind_ok, List.cons_append, List.nil_append, assertVersion_four, Json.member?_cons,
    String.reduceEq, if_true, if_false, tieredVersion_four]
  simp only [bind_eq_ok, pure_eq_ok, Except.ok.injEq, requiredString_eq_ok, Json.member?_cons,
    String.reduceEq, if_true, if_false, Option.some.injEq, Json.string.injEq]
  constructor
  · rintro ⟨_, hselected, _, ⟨rfl, hid⟩, _, ⟨rfl, hp⟩, _, ⟨rfl, hm⟩, _, ⟨rfl, hsrc⟩, _,
      ⟨rfl, htier⟩, _, ⟨rfl, hkey⟩, _, harray, h⟩
    obtain ⟨serviceTier, tierKey, selectedTier, tiers⟩ := tiers
    cases h
    exact ⟨hid, hp, hm, hsrc, htier, hkey, parseSnapshotTier_tierJson.mp hselected,
      parseSnapshotTierArray_tierJson.mp harray⟩
  · rintro ⟨hid, hp, hm, hsrc, hreadable⟩
    exact ⟨_, parseSnapshotTier_tierJson.mpr hreadable.selectedTier, _, ⟨rfl, hid⟩, _, ⟨rfl, hp⟩, _,
      ⟨rfl, hm⟩, _, ⟨rfl, hsrc⟩, _, ⟨rfl, hreadable.selectedServiceTier⟩, _,
      ⟨rfl, hreadable.selectedTierKey⟩, _, parseSnapshotTierArray_tierJson.mpr hreadable.tiers, rfl⟩

/-! ### Writing again what was read -/

variable {κ : Type}

/-- A tier as the writer is given it. -/
def PriceTierSnapshot.like (tier : PriceTierSnapshot ν) : PriceTierSnapshotLike ν where
  serviceTier := some tier.serviceTier
  tierKey := tier.tierKey
  minInputTokens := tier.minInputTokens
  maxInputTokens := tier.maxInputTokens
  inputPer1M := tier.inputPer1M
  cachedInputPer1M := tier.cachedInputPer1M
  cacheWritePer1M := tier.cacheWritePer1M
  outputPer1M := tier.outputPer1M

namespace PriceSnapshot

def labels : PriceSnapshot ν κ → κ
  | .flat labels _ | .tiered _ labels _ => labels

/-- The price that a snapshot is one of. -/
def priceLike : PriceSnapshot ν κ → PriceLike ν
  | .flat _ prices =>
    { inputPer1M := prices.input
      cachedInputPer1M := prices.cin
      cacheWritePer1M := some prices.cacheWritePer1M
      outputPer1M := prices.out }
  | .tiered _ _ tiers =>
    { inputPer1M := tiers.selectedTier.inputPer1M
      cachedInputPer1M := tiers.selectedTier.cachedInputPer1M
      cacheWritePer1M := tiers.selectedTier.cacheWritePer1M
      outputPer1M := tiers.selectedTier.outputPer1M
      selectedServiceTier := some tiers.selectedServiceTier
      selectedTierKey := some tiers.selectedTierKey
      selectedTier := some tiers.selectedTier.like
      effectiveTiers := some (tiers.tiers.map PriceTierSnapshot.like) }

/-- The price that a snapshot is read back as. -/
def billablePrice (snapshot : PriceSnapshot ν BillableLabels) : AccessPointPriceLike ν :=
  { snapshot.priceLike with id := snapshot.labels.id, accessPointId := snapshot.labels.ap }

/-- The cost that a snapshot is read back as. -/
def cost (snapshot : PriceSnapshot ν CostLabels) : ProviderModelCostLike ν :=
  { snapshot.priceLike with
    id := snapshot.labels.id
    providerId := snapshot.labels.p
    providerModelName := snapshot.labels.m
    source := snapshot.labels.src }

/-- The one tier of flat prices. -/
def tierOfPrices (numbers : SnapshotNumbers ν) (prices : SnapshotPrices ν) :
    PriceTierSnapshot ν where
  serviceTier := "standard"
  tierKey := "short_context"
  minInputTokens := numbers.format.ofNat 0
  maxInputTokens := none
  inputPer1M := prices.input
  cachedInputPer1M := prices.cin
  cacheWritePer1M := some prices.cacheWritePer1M
  outputPer1M := prices.out

/-- The same prices at version 4, where flat ones are one tier without bounds. -/
def atVersionFour (numbers : SnapshotNumbers ν) : PriceSnapshot ν κ → PriceSnapshot ν κ
  | .flat labels prices => .tiered 4 labels
    { selectedServiceTier := "standard"
      selectedTierKey := "short_context"
      selectedTier := tierOfPrices numbers prices
      tiers := [tierOfPrices numbers prices] }
  | .tiered _ labels tiers => .tiered 4 labels tiers

theorem atVersionFour_eq (snapshot : PriceSnapshot ν κ) : snapshot.atVersionFour numbers =
    .tiered 4 snapshot.labels (snapshotTiers numbers snapshot.priceLike) := by
  cases snapshot with
  | flat labels prices => rfl
  | tiered v labels tiers =>
    have htiers : (tiers.tiers.map PriceTierSnapshot.like).map snapshotTier = tiers.tiers := by
      rw [List.map_map]
      exact List.map_id _
    show tiered 4 labels tiers = tiered 4 labels
      ⟨tiers.selectedServiceTier, tiers.selectedTierKey, tiers.selectedTier,
        (tiers.tiers.map PriceTierSnapshot.like).map snapshotTier⟩
    rw [htiers]

end PriceSnapshot

/-- The tiers of what is read can be written and read again. -/
theorem tiersReadable_tiered {v : Nat} {labels : κ} {tiers : SnapshotTiers ν}
    (h : TiersReadable numbers tiers) :
    TiersReadable numbers (snapshotTiers numbers
      (PriceSnapshot.tiered v labels tiers).priceLike) := by
  have heq : PriceSnapshot.tiered 4 labels tiers = .tiered 4 labels
      (snapshotTiers numbers (PriceSnapshot.tiered v labels tiers).priceLike) :=
    (PriceSnapshot.tiered v labels tiers).atVersionFour_eq
  have htiers : tiers = snapshotTiers numbers (PriceSnapshot.tiered v labels tiers).priceLike :=
    (PriceSnapshot.tiered.inj heq).2.2
  rwa [← htiers]

theorem tiersReadable_flat {labels : κ} {prices : SnapshotPrices ν}
    (hinput : numbers.isFinite prices.input = true) (hcin : numbers.isFinite prices.cin = true)
    (hcacheWrite : numbers.isFinite prices.cacheWritePer1M = true)
    (hout : numbers.isFinite prices.out = true) :
    TiersReadable numbers (snapshotTiers numbers (PriceSnapshot.flat labels prices).priceLike) := by
  have hstandard : "standard" ≠ "" := by decide
  have hshort : "short_context" ≠ "" := by decide
  have htier : TierReadable numbers (PriceSnapshot.tierOfPrices numbers prices) := by
    refine ⟨hstandard, hshort, numbers.isInteger_ofNat 0, nofun, hinput, hcin, ?_, hout⟩
    intro price hprice
    cases hprice
    exact hcacheWrite
  refine ⟨hstandard, hshort, htier, fun tier hmem => ?_⟩
  obtain rfl := List.mem_singleton.mp hmem
  exact htier

theorem readable_of_decodeBillable {json : List Char} {snapshot : PriceSnapshot ν BillableLabels}
    (h : decodeBillablePriceSnapshot numbers syntaxMessage json = .ok snapshot) :
    snapshot.labels.id ≠ "" ∧ snapshot.labels.ap ≠ "" ∧
      TiersReadable numbers (snapshotTiers numbers snapshot.priceLike) := by
  unfold decodeBillablePriceSnapshot at h
  dsimp only at h
  obtain ⟨value, -, h⟩ := bind_eq_ok.mp h
  obtain ⟨_, -, h⟩ := bind_eq_ok.mp h
  split at h
  · simp only [bind_eq_ok, pure_eq_ok, Except.ok.injEq, requiredString_eq_ok] at h
    obtain ⟨_, hselected, id, ⟨-, hid⟩, ap, ⟨-, hap⟩, _, ⟨-, htier⟩, _, ⟨-, hkey⟩, _, harray,
      rfl⟩ := h
    exact ⟨hid, hap, tiersReadable_tiered ⟨htier, hkey, readable_of_parseSnapshotTier hselected,
      readable_of_parseSnapshotTierArray harray⟩⟩
  · simp only [bind_eq_ok, pure_eq_ok, Except.ok.injEq, requiredString_eq_ok, requiredFiniteNumber,
      requiredNumber_eq_ok] at h
    obtain ⟨id, ⟨-, hid⟩, ap, ⟨-, hap⟩, _, ⟨-, hinput⟩, _, ⟨-, hcin⟩, _, ⟨-, hcacheWrite⟩, _,
      ⟨-, hout⟩, rfl⟩ := h
    exact ⟨hid, hap, tiersReadable_flat hinput hcin hcacheWrite hout⟩

theorem readable_of_decodeCost {json : List Char} {snapshot : PriceSnapshot ν CostLabels}
    (h : decodeCostPriceSnapshot numbers syntaxMessage json = .ok snapshot) :
    snapshot.labels.id ≠ "" ∧ snapshot.labels.p ≠ "" ∧ snapshot.labels.m ≠ "" ∧
      snapshot.labels.src ≠ "" ∧
      TiersReadable numbers (snapshotTiers numbers snapshot.priceLike) := by
  unfold decodeCostPriceSnapshot at h
  dsimp only at h
  obtain ⟨value, -, h⟩ := bind_eq_ok.mp h
  obtain ⟨_, -, h⟩ := bind_eq_ok.mp h
  split at h
  · simp only [bind_eq_ok, pure_eq_ok, Except.ok.injEq, requiredString_eq_ok] at h
    obtain ⟨_, hselected, _, ⟨-, hid⟩, _, ⟨-, hp⟩, _, ⟨-, hm⟩, _, ⟨-, hsrc⟩, _, ⟨-, htier⟩, _,
      ⟨-, hkey⟩, _, harray, rfl⟩ := h
    exact ⟨hid, hp, hm, hsrc, tiersReadable_tiered ⟨htier, hkey,
      readable_of_parseSnapshotTier hselected, readable_of_parseSnapshotTierArray harray⟩⟩
  · simp only [bind_eq_ok, pure_eq_ok, Except.ok.injEq, requiredString_eq_ok, requiredFiniteNumber,
      requiredNumber_eq_ok] at h
    obtain ⟨_, ⟨-, hid⟩, _, ⟨-, hp⟩, _, ⟨-, hm⟩, _, ⟨-, hinput⟩, _, ⟨-, hcin⟩, _,
      ⟨-, hcacheWrite⟩, _, ⟨-, hout⟩, _, ⟨-, hsrc⟩, rfl⟩ := h
    exact ⟨hid, hp, hm, hsrc, tiersReadable_flat hinput hcin hcacheWrite hout⟩

/-- **Price snapshots survive their codec**: a price that can be read is read back, and what is read
of a document of any version is so. -/
theorem snapshots_survive (numbers : SnapshotNumbers ν) (syntaxMessage : List Char → String) :
    (∀ price : AccessPointPriceLike ν,
      decodeBillablePriceSnapshot numbers syntaxMessage
          (encodeBillablePriceSnapshot numbers price) =
        .ok (.tiered 4 ⟨price.id, price.accessPointId⟩
          (snapshotTiers numbers price.toPriceLike)) ↔
      price.id ≠ "" ∧ price.accessPointId ≠ "" ∧
        TiersReadable numbers (snapshotTiers numbers price.toPriceLike)) ∧
    (∀ cost : ProviderModelCostLike ν,
      decodeCostPriceSnapshot numbers syntaxMessage (encodeCostPriceSnapshot numbers cost) =
        .ok (.tiered 4 ⟨cost.id, cost.providerId, cost.providerModelName, cost.source⟩
          (snapshotTiers numbers cost.toPriceLike)) ↔
      cost.id ≠ "" ∧ cost.providerId ≠ "" ∧ cost.providerModelName ≠ "" ∧ cost.source ≠ "" ∧
        TiersReadable numbers (snapshotTiers numbers cost.toPriceLike)) ∧
    (∀ json snapshot, decodeBillablePriceSnapshot numbers syntaxMessage json = .ok snapshot →
      decodeBillablePriceSnapshot numbers syntaxMessage
          (encodeBillablePriceSnapshot numbers snapshot.billablePrice) =
        .ok (snapshot.atVersionFour numbers)) ∧
    ∀ json snapshot, decodeCostPriceSnapshot numbers syntaxMessage json = .ok snapshot →
      decodeCostPriceSnapshot numbers syntaxMessage
          (encodeCostPriceSnapshot numbers snapshot.cost) =
        .ok (snapshot.atVersionFour numbers) := by
  refine ⟨decode_encodeBillable, decode_encodeCost, fun json snapshot h => ?_,
    fun json snapshot h => ?_⟩
  · rw [snapshot.atVersionFour_eq]
    exact (decode_encodeBillable snapshot.billablePrice).mpr (readable_of_decodeBillable h)
  · rw [snapshot.atVersionFour_eq]
    exact (decode_encodeCost snapshot.cost).mpr (readable_of_decodeCost h)

end Codec

/-! ### Old documents -/

/-- Prices in whole units. -/
def wholeNumbers : SnapshotNumbers Nat where
  format := Json.natFormat
  isFinite _ := true
  isInteger _ := true
  isFinite_of_isInteger _ h := h
  isInteger_ofNat _ := rfl

/-- A document of version 2, which has no price for cache writes. -/
def tieredDocument : List Char :=
  let tier : Json Nat := .object [("serviceTier", .string "standard"),
    ("tierKey", .string "long_context"), ("minInputTokens", .number 200000),
    ("maxInputTokens", .null), ("inputPer1M", .number 6), ("cachedInputPer1M", .number 1),
    ("outputPer1M", .number 22)]
  Json.stringify Json.natFormat (.object [("v", .number 2), ("id", .string "price"),
    ("ap", .string "access-point"), ("selectedServiceTier", .string "standard"),
    ("selectedTierKey", .string "long_context"), ("selectedTier", tier), ("tiers", .array [tier])])

def longContextTier : PriceTierSnapshot Nat where
  serviceTier := "standard"
  tierKey := "long_context"
  minInputTokens := 200000
  maxInputTokens := none
  inputPer1M := 6
  cachedInputPer1M := 1
  cacheWritePer1M := some 6
  outputPer1M := 22

def tieredSnapshot (v : Nat) : PriceSnapshot Nat BillableLabels :=
  .tiered v ⟨"price", "access-point"⟩
    ⟨"standard", "long_context", longContextTier, [longContextTier]⟩

theorem tieredDocument_survives :
    decodeBillablePriceSnapshot wholeNumbers (fun _ => "") (encodeBillablePriceSnapshot wholeNumbers
      (tieredSnapshot 2).billablePrice) = .ok (tieredSnapshot 4) :=
  (snapshots_survive wholeNumbers fun _ => "").2.2.1 tieredDocument (tieredSnapshot 2)
    (by decide +kernel)

/-- An empty identifier is written but not read, and an old version is not written again. -/
theorem snapshots_change :
    (¬∀ price : AccessPointPriceLike Nat,
      decodeBillablePriceSnapshot wholeNumbers (fun _ => "")
          (encodeBillablePriceSnapshot wholeNumbers price) =
        .ok (.tiered 4 ⟨price.id, price.accessPointId⟩
          (snapshotTiers wholeNumbers price.toPriceLike))) ∧
    ¬∀ json snapshot,
      decodeBillablePriceSnapshot wholeNumbers (fun _ => "") json = .ok snapshot →
      decodeBillablePriceSnapshot wholeNumbers (fun _ => "")
        (encodeBillablePriceSnapshot wholeNumbers snapshot.billablePrice) = .ok snapshot := by
  constructor
  · intro h
    have hread := h { (tieredSnapshot 4).billablePrice with id := "" }
    revert hread
    decide +kernel
  · intro h
    have hread := h tieredDocument (tieredSnapshot 2) (by decide +kernel)
    revert hread
    decide +kernel

end Frely.Pricing
