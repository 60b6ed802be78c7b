import Frely.ModelAccess.Equiv.RoutingKernel
import Frely.ModelAccess.RoutingDefinition

/-!
# Normal routing definitions

What `normalizeRoutingDefinition` returns: targets at different positions that refer either to an
AccessPoint or to a model of a provider named like `targetModel`, one for each given target
(`normalizeTargets_eq_ok`), and a configuration that the selector accepts
(`normalizeRoutingDefinition_eq_ok`).
-/

namespace Frely.ModelAccess

open Frely.Postgres Checked StableSort

variable {host : CommandHost}

theorem requiredTrimmed_eq_ok {code name text : String} {value : Option String}
    (h : requiredTrimmed code value name = .ok text) : text ≠ "" := by
  unfold requiredTrimmed at h
  dsimp only at h
  split_ifs at h with hempty
  cases h
  exact hempty

/-! ### Targets -/

variable {targetModel : String} {target : NormalizedRoutingTarget} {candidate : RoutingTargetInput}

/-- A reference of the shape of its type: to an AccessPoint, or to a model by the name that the
source asks for. -/
structure RefersTo (targetModel : String) (type : AccessPointTargetType)
    (targetAccessPointId targetProviderId targetProviderModelName : Option String) : Prop where
  accessPoint : type = .accessPoint → (∃ id, targetAccessPointId = some id ∧ id ≠ "") ∧
    targetProviderId = none ∧ targetProviderModelName = none
  providerModel : type = .providerModel → targetAccessPointId = none ∧
    (∃ id, targetProviderId = some id ∧ id ≠ "") ∧ targetProviderModelName = some targetModel

/-- A target as normalising leaves it. -/
structure NormalTarget (targetModel : String) (target : NormalizedRoutingTarget) : Prop where
  position : IsSafeInteger target.position ∧ 0 ≤ target.position
  reference : RefersTo targetModel target.type target.targetAccessPointId target.targetProviderId
    target.targetProviderModelName

/-- A target keeps the identifier, the position and the status that are given. -/
structure Normalizes (candidate : RoutingTargetInput) (target : NormalizedRoutingTarget) :
    Prop where
  id : target.id = truthy candidate.id
  position : target.position = candidate.position
  status : target.status = candidate.status.getD "enabled"

theorem normalizeReference_eq_ok {index : Nat}
    (h : normalizeReference targetModel index candidate = .ok target) :
    Normalizes candidate target ∧ RefersTo targetModel target.type target.targetAccessPointId
      target.targetProviderId target.targetProviderModelName := by
  unfold normalizeReference at h
  split_ifs at h with htype
  · obtain ⟨id, hid, h⟩ := bind_eq_ok.mp h
    obtain ⟨_, -, h⟩ := bind_eq_ok.mp h
    cases h
    refine ⟨⟨rfl, rfl, rfl⟩, fun _ => ⟨⟨id, rfl, requiredTrimmed_eq_ok hid⟩, rfl, rfl⟩, ?_⟩
    intro hother
    cases hother
  · obtain ⟨_, -, h⟩ := bind_eq_ok.mp h
    obtain ⟨providerId, hproviderId, h⟩ := bind_eq_ok.mp h
    obtain ⟨name, -, h⟩ := bind_eq_ok.mp h
    obtain ⟨_, hname, h⟩ := bind_eq_ok.mp h
    obtain ⟨_, -, h⟩ := bind_eq_ok.mp h
    have hname : name = targetModel := not_not.mp (rejectIf_eq_ok.mp hname)
    cases h
    refine ⟨⟨rfl, rfl, rfl⟩, fun hother => ?_, fun _ => ⟨rfl, ?_, congrArg some hname⟩⟩
    · cases hother
    · exact ⟨providerId, rfl, requiredTrimmed_eq_ok hproviderId⟩

/-- Targets that go with the given ones, at positions and with identifiers of their own. -/
structure AreNormal (targetModel : String) (candidates : List RoutingTargetInput)
    (targets : List NormalizedRoutingTarget) : Prop where
  normal : ∀ target ∈ targets, NormalTarget targetModel target
  normalizes : List.Forall₂ Normalizes candidates targets
  positions : (targets.map NormalizedRoutingTarget.position).Nodup
  ids : (targets.filterMap NormalizedRoutingTarget.id).Nodup

theorem normalizeTargets_eq_ok {candidates : List RoutingTargetInput}
    {targets : List NormalizedRoutingTarget} : ∀ {index : Nat} {ids : List String}
      {positions : List Int},
      normalizeTargets targetModel index ids positions candidates = .ok targets →
      AreNormal targetModel candidates targets ∧
        (∀ target ∈ targets, target.position ∉ positions) ∧
        ∀ target ∈ targets, ∀ id ∈ target.id, id ∉ ids := by
  -- over the candidates, with the positions and identifiers that are taken
  induction candidates generalizing targets with
  | nil =>
    intro index ids positions h
    cases h
    exact ⟨⟨by simp, .nil, .nil, .nil⟩, by simp, by simp⟩
  | cons candidate rest ih =>
    intro index ids positions h
    obtain ⟨_, hsafe, h⟩ := bind_eq_ok.mp h
    obtain ⟨_, hposition, h⟩ := bind_eq_ok.mp h
    obtain ⟨_, hid, h⟩ := bind_eq_ok.mp h
    obtain ⟨target, htarget, h⟩ := bind_eq_ok.mp h
    obtain ⟨others, hothers, h⟩ := bind_eq_ok.mp h
    cases h
    have hsafe := rejectIf_eq_ok.mp hsafe
    have hposition := rejectIf_eq_ok.mp hposition
    have hid := rejectIf_eq_ok.mp hid
    obtain ⟨hnormalizes, hreference⟩ := normalizeReference_eq_ok htarget
    obtain ⟨hnormal, hpositions, hids⟩ := ih hothers
    have hnormalTarget : NormalTarget targetModel target := by
      refine ⟨?_, hreference⟩
      rw [hnormalizes.position]
      exact ⟨not_not.mp fun hunsafe => hsafe (.inl hunsafe), not_lt.mp fun hneg =>
        hsafe (.inr hneg)⟩
    refine ⟨⟨List.forall_mem_cons.mpr ⟨hnormalTarget, hnormal.normal⟩,
      .cons hnormalizes hnormal.normalizes, ?_, ?_⟩, ?_, ?_⟩
    · -- the positions
      rw [List.map_cons, List.nodup_cons]
      refine ⟨fun hmem => ?_, hnormal.positions⟩
      obtain ⟨other, hother, hequal⟩ := List.mem_map.mp hmem
      refine hpositions other hother ?_
      rw [hequal, hnormalizes.position]
      exact List.mem_cons_self
    · -- the identifiers, of the targets that have one
      cases hown : target.id with
      | none => rw [List.filterMap_cons_none hown]; exact hnormal.ids
      | some id =>
        rw [List.filterMap_cons_some hown, List.nodup_cons]
        refine ⟨fun hmem => ?_, hnormal.ids⟩
        obtain ⟨other, hother, hequal⟩ := List.mem_filterMap.mp hmem
        refine hids other hother id hequal ?_
        rw [← hnormalizes.id, hown]
        exact List.mem_cons_self
    · intro other hother
      rcases List.mem_cons.mp hother with rfl | hother
      · rw [hnormalizes.position]
        exact hposition
      · exact fun hmem => hpositions other hother (List.mem_cons_of_mem _ hmem)
    · intro other hother id hown hmem
      rcases List.mem_cons.mp hother with rfl | hother
      · rw [hnormalizes.id] at hown
        exact hid ⟨id, hown, hmem⟩
      · exact hids other hother id hown (List.mem_append_right _ hmem)

/-! ### Definitions -/

/-- A definition in normal form, made of the given one. -/
structure IsNormal (host : CommandHost) (targetModel : String) (input : RoutingDefinitionInput)
    (definition : NormalizedRoutingDefinition) : Prop where
  ruleId : definition.ruleId = input.selectorId
  behaviorVersion : definition.behaviorVersion = input.behaviorVersion
  configJson : definition.configJson = host.canonicalizeConfig definition.config
  targets : ∃ unsorted, AreNormal targetModel input.targets unsorted ∧
    definition.targets = sortTargets host.toHost unsorted
  ne_nil : input.targets ≠ []
  config : normalizeAccessPointSelectorConfig definition.ruleId definition.behaviorVersion
    (configInput input.config) (enabledTargetCount definition.targets) = .ok definition.config

theorem normalizeRoutingDefinition_eq_ok {input : RoutingDefinitionInput}
    {definition : NormalizedRoutingDefinition}
    (h : normalizeRoutingDefinition host input targetModel = .ok definition) :
    IsNormal host targetModel input definition := by
  obtain ⟨_, hnil, h⟩ := bind_eq_ok.mp h
  obtain ⟨unsorted, hunsorted, h⟩ := bind_eq_ok.mp h
  obtain ⟨config, hconfig, h⟩ := bind_eq_ok.mp h
  obtain ⟨overrides, -, h⟩ := bind_eq_ok.mp h
  cases h
  exact ⟨rfl, rfl, rfl, ⟨unsorted, (normalizeTargets_eq_ok hunsorted).1, rfl⟩,
    rejectIf_eq_ok.mp hnil, mapError_eq_ok.mp hconfig⟩

namespace IsNormal

variable {targetModel : String} {input : RoutingDefinitionInput}
  {definition : NormalizedRoutingDefinition}

theorem normalTarget (h : IsNormal host targetModel input definition)
    (htarget : target ∈ definition.targets) : NormalTarget targetModel target := by
  obtain ⟨unsorted, hnormal, hsorted⟩ := h.targets
  rw [hsorted] at htarget
  exact hnormal.normal target (mem_sortBy.mp htarget)

theorem positions (h : IsNormal host targetModel input definition) :
    (definition.targets.map NormalizedRoutingTarget.position).Nodup := by
  obtain ⟨unsorted, hnormal, hsorted⟩ := h.targets
  rw [hsorted]
  exact ((perm_sortBy unsorted).map _).nodup_iff.mpr hnormal.positions

theorem ids (h : IsNormal host targetModel input definition) :
    (definition.targets.filterMap NormalizedRoutingTarget.id).Nodup := by
  obtain ⟨unsorted, hnormal, hsorted⟩ := h.targets
  rw [hsorted]
  exact ((perm_sortBy unsorted).filterMap _).nodup_iff.mpr hnormal.ids

theorem exists_target (h : IsNormal host targetModel input definition)
    (hcandidate : candidate ∈ input.targets) :
    ∃ target ∈ definition.targets, Normalizes candidate target := by
  obtain ⟨unsorted, hnormal, hsorted⟩ := h.targets
  obtain ⟨target, htarget, hnormalizes⟩ := Stateful.exists_right_of_forall₂ hnormal.normalizes
    hcandidate
  exact ⟨target, hsorted ▸ mem_sortBy.mpr htarget, hnormalizes⟩

theorem exists_candidate (h : IsNormal host targetModel input definition)
    (htarget : target ∈ definition.targets) :
    ∃ candidate ∈ input.targets, Normalizes candidate target := by
  obtain ⟨unsorted, hnormal, hsorted⟩ := h.targets
  rw [hsorted] at htarget
  exact Stateful.exists_of_forall₂ hnormal.normalizes (mem_sortBy.mp htarget)

end IsNormal

end Frely.ModelAccess
