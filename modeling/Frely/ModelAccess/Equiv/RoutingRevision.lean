import Frely.ModelAccess.Equiv.RoutingGraph

/-!
# Routing revisions

The revision of an AccessPoint stands for what `compileRule` reads of it (`LocalRouting`): along a
run it never goes down, it only stays when this data stays, and it stays when this data and the
request overrides do (`run_identifies`).  The data of a removed AccessPoint is not read any more: a
removal takes its targets away and leaves the revision.

A revision is raised when the fingerprints differ.  They are computed of the stored targets and of
those that replace them; `fingerprintTargets_perm` makes that independent of the order in which the
database returns rows.
-/

namespace Frely.ModelAccess

open Frely.Postgres Checked Transaction StableSort

variable {host : CommandHost} {store old new : RoutingStore}

/-! ### Local data -/

/-- What a compilation reads of an AccessPoint and its targets. -/
structure LocalRouting where
  exposedModel : String
  targetModel : String
  routingRuleId : String
  routingRuleBehaviorVersion : Int
  routingRuleConfigJson : String
  targets : List RoutingGraphTarget
deriving DecidableEq

/-- What an AccessPoint itself says about routing. -/
def localRouting (host : Host) (accessPoint : RoutingGraphAccessPoint) : LocalRouting where
  exposedModel := accessPoint.exposedModel
  targetModel := accessPoint.targetModel
  routingRuleId := accessPoint.routingRuleId
  routingRuleBehaviorVersion := accessPoint.routingRuleBehaviorVersion
  routingRuleConfigJson := accessPoint.routingRuleConfigJson
  targets := enabledTargets host accessPoint

/-- An enabled target of the graph, by what the fingerprint holds of it. -/
def graphTargetOf (target : FingerprintTarget) : RoutingGraphTarget where
  id := target.id
  type := target.type
  targetAccessPointId := target.targetAccessPointId
  targetProviderModelId := target.targetProviderModelId
  targetProviderId := target.targetProviderId
  targetProviderModelName := target.targetProviderModelName
  position := target.position
  status := "enabled"
  removedAt := none

theorem graphTargetOf_injective : Function.Injective graphTargetOf := by
  intro left right h
  cases left
  cases right
  simp only [graphTargetOf, RoutingGraphTarget.mk.injEq] at h
  simp only [FingerprintTarget.mk.injEq]
  tauto

/-- The target is in use. -/
def isEnabledTarget (target : ResolvedTarget) : Bool :=
  target.status = "enabled" ∧ target.removedAt = none

theorem truthy_nonEmpty (removedAt : Option NonEmptyText) :
    truthy (removedAt.map Subtype.val) = none ↔ removedAt = none := by
  cases removedAt with
  | none => simp [truthy]
  | some text => simp [truthy, text.property]

/-- A compilation reads the targets that the fingerprint is made of, in the same order. -/
theorem enabledTargets_graphAccessPoint (row : AccessPointRow) :
    enabledTargets host.toHost (graphAccessPoint store row) =
      (fingerprintTargets host.toHost (store.targetsOf row.id)).map graphTargetOf := by
  have hfilter : ((store.targetsOf row.id).map graphTarget).filter (fun target =>
      target.status = "enabled" ∧ truthy target.removedAt = none) =
        (((store.targetsOf row.id).filter isEnabledTarget).map fingerprintTarget).map
          graphTargetOf := by
    rw [List.filter_map, List.map_map]
    have hsame : (store.targetsOf row.id).filter ((fun target : RoutingGraphTarget =>
        decide (target.status = "enabled" ∧ truthy target.removedAt = none)) ∘ graphTarget) =
          (store.targetsOf row.id).filter isEnabledTarget := by
      refine List.filter_congr fun target _ => ?_
      exact decide_eq_decide.mpr (and_congr_right fun _ => truthy_nonEmpty target.removedAt)
    rw [hsame]
    refine List.map_congr_left fun target htarget => ?_
    obtain ⟨hstatus, hremoved⟩ := of_decide_eq_true (List.mem_filter.mp htarget).2
    simp [graphTarget, graphTargetOf, fingerprintTarget, hstatus, hremoved]
  unfold enabledTargets fingerprintTargets
  rw [show (graphAccessPoint store row).targets = (store.targetsOf row.id).map graphTarget from rfl,
    hfilter, sortBy_map]
  rfl

/-! ### Orders of targets -/

variable {targets existing : List ResolvedTarget} {row : AccessPointRow} {now : NonEmptyText}
  {providerModelIds : ProviderModelIds}

theorem fingerprintTargets_perm {left right : List ResolvedTarget}
    (hperm : (left.filter isEnabledTarget).Perm (right.filter isEnabledTarget))
    (hpositions : ((left.filter isEnabledTarget).map ResolvedTarget.position).Nodup) :
    fingerprintTargets host.toHost left = fingerprintTargets host.toHost right := by
  refine sortBy_perm FingerprintTarget.position _ (hperm.map fingerprintTarget) ?_
  rw [List.map_map]
  exact hpositions

theorem filter_targetsOf (store : RoutingStore) (id : String) :
    (store.targetsOf id).filter isEnabledTarget =
      (store.unremovedTargetsOf id).filter isEnabledTarget := by
  rw [RoutingStore.unremovedTargetsOf, List.filter_filter]
  refine List.filter_congr fun target _ => ?_
  simp [isEnabledTarget]

/-- The unremoved targets of an AccessPoint are at different positions. -/
def DistinctPositions (store : RoutingStore) (id : String) : Prop :=
  ((store.unremovedTargetsOf id).map ResolvedTarget.position).Nodup

theorem fingerprintTargets_of_perm {id : String}
    (hperm : (store.unremovedTargetsOf id).Perm targets)
    (hpositions : (targets.map ResolvedTarget.position).Nodup) :
    fingerprintTargets host.toHost (store.targetsOf id) =
      fingerprintTargets host.toHost targets := by
  apply fingerprintTargets_perm
  · rw [filter_targetsOf]
    exact hperm.filter _
  · rw [filter_targetsOf]
    have hstored := (hperm.map ResolvedTarget.position).nodup_iff.mpr hpositions
    exact hstored.sublist (List.filter_sublist.map _)

theorem Edited.perm (h : Edited now row targets old new)
    (hnodup : (targets.map ResolvedTarget.id).Nodup) :
    (new.unremovedTargetsOf row.id).Perm targets :=
  (List.perm_ext_iff_of_nodup (.of_map _ (nodup_unremovedTargetsOf new row.id))
    (.of_map _ hnodup)).mpr fun _ => h.mem_unremovedTargetsOf_iff hnodup

theorem Edited.perm_of_ne (h : Edited now row targets old new) {id : String} (hid : id ≠ row.id) :
    (new.unremovedTargetsOf id).Perm (old.unremovedTargetsOf id) :=
  (List.perm_ext_iff_of_nodup (.of_map _ (nodup_unremovedTargetsOf new id))
    (.of_map _ (nodup_unremovedTargetsOf old id))).mpr fun _ => h.mem_unremovedTargetsOf_of_ne hid

theorem map_of_forall₂ {α β γ : Type} {R : α → β → Prop} {f : α → γ} {g : β → γ} {l : List α}
    {m : List β} (h : List.Forall₂ R l m) (hR : ∀ {a b}, R a b → g b = f a) :
    m.map g = l.map f := by
  induction h with
  | nil => rfl
  | cons hab _ ih => rw [List.map_cons, List.map_cons, hR hab, ih]

theorem Resolves.position {freshId : Nat → String} {target : NormalizedRoutingTarget}
    {resolved : ResolvedTarget} (h : Resolves freshId existing providerModelIds target resolved) :
    resolved.position = target.position := by
  obtain ⟨_, -, hnew⟩ := h.eq_new
  rw [hnew]
  rfl

theorem positions_of_resolves {freshId : Nat → String} {existing targets : List ResolvedTarget}
    {providerModelIds : ProviderModelIds} {targetModel : String} {input : RoutingDefinitionInput}
    {routing : NormalizedRoutingDefinition} (hnormal : IsNormal host targetModel input routing)
    (hresolved : List.Forall₂ (Resolves freshId existing providerModelIds) routing.targets
      targets) :
    (targets.map ResolvedTarget.position).Nodup := by
  rw [map_of_forall₂ hresolved fun hresolves => hresolves.position]
  exact hnormal.positions

/-! ### The invariant -/

/-- The stored definitions are normal: the targets are at different positions, and configurations
are written as `canonicalize` does. -/
structure StoredNormal (host : CommandHost) (store : RoutingStore) : Prop where
  positions : ∀ id, store.findUnremoved id ≠ none → DistinctPositions store id
  configs : ∀ row ∈ store.accessPoints, ∃ config,
    row.routingRuleConfigJson = host.canonicalizeConfig config

theorem Edited.storedNormal (h : StoredNormal host old) (hedited : Edited now row targets old new)
    (hnodup : (targets.map ResolvedTarget.id).Nodup)
    (hpositions : (targets.map ResolvedTarget.position).Nodup)
    (hconfig : ∃ config, row.routingRuleConfigJson = host.canonicalizeConfig config) :
    StoredNormal host new := by
  constructor
  · intro id hid
    unfold DistinctPositions
    by_cases hrow : id = row.id
    · rw [hrow]
      exact ((hedited.perm hnodup).map _).nodup_iff.mpr hpositions
    · rw [hedited.findUnremoved_of_ne hrow] at hid
      exact ((hedited.perm_of_ne hrow).map _).nodup_iff.mpr (h.positions id hid)
  · intro other hother
    rcases hedited.accessPoint.mem_iff.mp hother with rfl | ⟨hother, -⟩
    · exact hconfig
    · exact h.configs other hother

/-! ### Steps -/

/-- From one state to a later one: revisions do not go down, and an AccessPoint that is not removed
has the same local data when its revision is the same. -/
def Identifies (host : CommandHost) (old new : RoutingStore) : Prop :=
  ∀ id row, old.accessPoints.find? id = some row → ∃ row', new.accessPoints.find? id = some row' ∧
    row.routingRevision ≤ row'.routingRevision ∧ (row.removedAt ≠ none → row' = row) ∧
      (row'.removedAt = none → row.routingRevision = row'.routingRevision →
        localRouting host.toHost (graphAccessPoint old row) =
          localRouting host.toHost (graphAccessPoint new row'))

theorem Identifies.refl (store : RoutingStore) : Identifies host store store :=
  fun _ row hrow => ⟨row, hrow, le_refl _, fun _ => rfl, fun _ _ => rfl⟩

theorem Identifies.trans {store₁ store₂ store₃ : RoutingStore} (h : Identifies host store₁ store₂)
    (h' : Identifies host store₂ store₃) : Identifies host store₁ store₃ := by
  intro id row hrow
  obtain ⟨row₂, hrow₂, hle, hkept, hsame⟩ := h id row hrow
  obtain ⟨row₃, hrow₃, hle', hkept', hsame'⟩ := h' id row₂ hrow₂
  refine ⟨row₃, hrow₃, le_trans hle hle', fun hremoved => ?_, fun hunremoved hrevision => ?_⟩
  · cases hkept hremoved
    exact hkept' hremoved
  · -- the state in between has the same revision, and the AccessPoint was not removed there
    have hbetween : row.routingRevision = row₂.routingRevision := by omega
    have hbetween' : row₂.routingRevision = row₃.routingRevision := by omega
    have hunremoved₂ : row₂.removedAt = none := by
      by_contra hremoved
      rw [hkept' hremoved] at hunremoved
      exact hremoved hunremoved
    exact (hsame hunremoved₂ hbetween).trans (hsame' hunremoved hbetween')

/-- The other AccessPoints keep their local data. -/
theorem Edited.localRouting_of_ne {other : AccessPointRow} (h : Edited now row targets old new)
    (hid : other.id ≠ row.id) (hpositions : DistinctPositions old other.id) :
    localRouting host.toHost (graphAccessPoint old other) =
      localRouting host.toHost (graphAccessPoint new other) := by
  have htargets : fingerprintTargets host.toHost (old.targetsOf other.id) =
      fingerprintTargets host.toHost (new.targetsOf other.id) := by
    have hperm := h.perm_of_ne hid
    rw [fingerprintTargets_of_perm (List.Perm.refl (old.unremovedTargetsOf other.id)) hpositions,
      fingerprintTargets_of_perm hperm hpositions]
  unfold localRouting
  rw [enabledTargets_graphAccessPoint, enabledTargets_graphAccessPoint, htargets]
  rfl

/-- A step identifies when it does so for the AccessPoint that it edits. -/
theorem Edited.identifies {now : NonEmptyText} {row : AccessPointRow}
    {targets : List ResolvedTarget} (h : Edited now row targets old new)
    (hnormal : StoredNormal host old)
    (hrow : ∀ before, old.accessPoints.find? row.id = some before → before.removedAt = none ∧
      before.routingRevision ≤ row.routingRevision ∧ (row.removedAt = none →
        before.routingRevision = row.routingRevision →
          localRouting host.toHost (graphAccessPoint old before) =
            localRouting host.toHost (graphAccessPoint new row))) :
    Identifies host old new := by
  intro id before hbefore
  by_cases hid : id = row.id
  · subst hid
    obtain ⟨hunremoved, hle, hsame⟩ := hrow before hbefore
    exact ⟨row, h.accessPoint.find?_self, hle, fun hremoved => absurd hunremoved hremoved, hsame⟩
  · have hkey : before.id = id := Table.key_of_find? hbefore
    refine ⟨before, (h.accessPoint.find?_of_ne hid).trans hbefore, le_refl _, fun _ => rfl,
      fun hunremoved _ => h.localRouting_of_ne (hkey ▸ hid) (hnormal.positions _ ?_)⟩
    rw [hkey, findUnremoved_eq_some.mpr ⟨hbefore, hunremoved⟩]
    simp

/-! ### Changes -/

theorem canonicalJson_eq_ok {text canonical : String}
    (h : canonicalJson host text = .ok canonical) :
    host.canonicalizeText text = some canonical := by
  unfold canonicalJson at h
  split at h
  · next hcanonical =>
    cases h
    exact hcanonical
  · cases h

theorem routingSemanticFingerprint_eq_ok {exposedModel targetModel ruleId : String}
    {behaviorVersion : Int} {configJson requestOverridesJson : String}
    {targets : List ResolvedTarget} {fingerprint : RoutingFingerprint}
    (h : routingSemanticFingerprint host exposedModel targetModel ruleId behaviorVersion configJson
      requestOverridesJson targets = .ok fingerprint) :
    ∃ config requestOverrides, host.canonicalizeText configJson = some config ∧
      host.canonicalizeText requestOverridesJson = some requestOverrides ∧
      fingerprint = ⟨exposedModel, targetModel, ruleId, behaviorVersion, config, requestOverrides,
        fingerprintTargets host.toHost targets⟩ := by
  obtain ⟨config, hconfig, h⟩ := bind_eq_ok.mp h
  obtain ⟨requestOverrides, hrequestOverrides, h⟩ := bind_eq_ok.mp h
  cases h
  exact ⟨config, requestOverrides, canonicalJson_eq_ok hconfig,
    canonicalJson_eq_ok hrequestOverrides, rfl⟩

/-- `canonicalize` does not change a text that it wrote. -/
def CanonicalConfigs (host : CommandHost) : Prop :=
  ∀ config, host.canonicalizeText (host.canonicalizeConfig config) =
    some (host.canonicalizeConfig config)

section Changes

variable {env : CommandEnvironment} {freshId : Nat → String} {id : String}
  {command : ChangeAccessPointCommand} {change : PreparedChange} {targets : List ResolvedTarget}
  {changed : Bool} {row : AccessPointRow}

theorem Changed.nodup (h : Changed env host freshId id command change targets changed row old new)
    (hfresh : DrawsFresh old freshId) : (targets.map ResolvedTarget.id).Nodup := by
  obtain ⟨_, _, hnormal⟩ := h.exists_normal
  exact nodup_of_resolves hfresh hnormal h.resolved h.edited

theorem Changed.positions
    (h : Changed env host freshId id command change targets changed row old new) :
    (targets.map ResolvedTarget.position).Nodup := by
  obtain ⟨_, _, hnormal⟩ := h.exists_normal
  exact positions_of_resolves hnormal h.resolved

/-- The fingerprint of the replacing targets is the one of the targets that are stored then. -/
theorem Changed.fingerprintTargets_new
    (h : Changed env host freshId id command change targets changed row old new)
    (hfresh : DrawsFresh old freshId) :
    fingerprintTargets host.toHost (new.targetsOf row.id) =
      fingerprintTargets host.toHost targets :=
  fingerprintTargets_of_perm (h.edited.perm (h.nodup hfresh)) h.positions

theorem Changed.storedNormal
    (h : Changed env host freshId id command change targets changed row old new)
    (hfresh : DrawsFresh old freshId) (hnormal : StoredNormal host old) :
    StoredNormal host new := by
  obtain ⟨_, _, hdefinition⟩ := h.exists_normal
  refine h.edited.storedNormal hnormal (h.nodup hfresh) h.positions ⟨change.routing.config, ?_⟩
  rw [h.stored.routingRuleConfigJson, hdefinition.configJson]

/-- A change leaves the revision when, and only when, it leaves the data of the fingerprint. -/
theorem Changed.changed_eq_false_iff
    (h : Changed env host freshId id command change targets changed row old new)
    (hfresh : DrawsFresh old freshId) :
    changed = false ↔
      host.canonicalizeText change.existing.routingRuleConfigJson =
        host.canonicalizeText row.routingRuleConfigJson ∧
      host.canonicalizeText change.existing.requestOverridesJson =
        host.canonicalizeText row.requestOverridesJson ∧
      change.existing.exposedModel = row.exposedModel ∧
      change.existing.targetModel = row.targetModel ∧
      change.existing.routingRuleId = row.routingRuleId ∧
      change.existing.routingRuleBehaviorVersion = row.routingRuleBehaviorVersion ∧
      fingerprintTargets host.toHost (old.targetsOf row.id) =
        fingerprintTargets host.toHost (new.targetsOf row.id) := by
  obtain ⟨previous, hprevious, hrest⟩ := bind_eq_ok.mp h.revision
  obtain ⟨next, hnext, hrest⟩ := bind_eq_ok.mp hrest
  have hchanged : decide (previous ≠ next) = changed := Except.ok.inj hrest
  obtain ⟨config, overrides, hconfig, hoverrides, rfl⟩ := routingSemanticFingerprint_eq_ok hprevious
  obtain ⟨config', overrides', hconfig', hoverrides', rfl⟩ := routingSemanticFingerprint_eq_ok hnext
  rw [h.fingerprintTargets_new hfresh, h.stored.routingRuleConfigJson,
    h.stored.requestOverridesJson, h.stored.exposedModel, h.stored.targetModel,
    h.stored.routingRuleId, h.stored.routingRuleBehaviorVersion, hconfig, hoverrides, hconfig',
    hoverrides', h.stored.id, ← hchanged, decide_eq_false_iff_not, not_not,
    RoutingFingerprint.mk.injEq]
  simp only [Option.some.injEq]
  tauto

theorem Changed.identifies (hcanonical : CanonicalConfigs host)
    (h : Changed env host freshId id command change targets changed row old new)
    (hfresh : DrawsFresh old freshId) (hnormal : StoredNormal host old) :
    Identifies host old new := by
  obtain ⟨-, hrow, hexisting⟩ := h.removedAt
  refine h.edited.identifies hnormal fun before hbefore => ?_
  cases hexisting.symm.trans hbefore
  have hrevision := h.stored.routingRevision
  refine ⟨(findUnremoved_eq_some.mp h.prepared.existing).2, ?_, fun _ hsame => ?_⟩
  · rw [hrevision]
    split_ifs <;> omega
  · have hunchanged : changed = false := by
      rw [hrevision] at hsame
      cases changed with
      | false => rfl
      | true => simp at hsame
    obtain ⟨hconfig, -, hexposed, htarget, hrule, hversion, htargets⟩ :=
      (h.changed_eq_false_iff hfresh).mp hunchanged
    -- both configurations were written by `canonicalize`
    obtain ⟨config, hwritten⟩ := hnormal.configs _ (Table.mem_of_find? hexisting)
    obtain ⟨config', hwritten'⟩ := (h.storedNormal hfresh hnormal).configs row
      (Table.mem_of_find? h.edited.accessPoint.find?_self)
    have hsameConfig : change.existing.routingRuleConfigJson = row.routingRuleConfigJson := by
      rw [hwritten, hwritten', hcanonical, hcanonical] at hconfig
      rw [hwritten, hwritten']
      exact Option.some.inj hconfig
    unfold localRouting
    rw [enabledTargets_graphAccessPoint, enabledTargets_graphAccessPoint,
      show change.existing.id = row.id from h.stored.id.symm, htargets]
    simp only [graphAccessPoint, hexposed, htarget, hrule, hversion, hsameConfig]

/-- The revision stays when the local data and the request overrides do. -/
theorem Changed.routingRevision_eq
    (h : Changed env host freshId id command change targets changed row old new)
    (hfresh : DrawsFresh old freshId)
    (hlocal : localRouting host.toHost (graphAccessPoint old change.existing) =
      localRouting host.toHost (graphAccessPoint new row))
    (hoverrides : change.existing.requestOverridesJson = row.requestOverridesJson) :
    row.routingRevision = change.existing.routingRevision := by
  have hunchanged : changed = false := by
    apply (h.changed_eq_false_iff hfresh).mpr
    unfold localRouting at hlocal
    rw [enabledTargets_graphAccessPoint, enabledTargets_graphAccessPoint,
      show change.existing.id = row.id from h.stored.id.symm] at hlocal
    obtain ⟨hexposed, htarget, hrule, hversion, hconfig, htargets⟩ :=
      LocalRouting.mk.inj hlocal
    exact ⟨congrArg _ hconfig, congrArg _ hoverrides, hexposed, htarget, hrule, hversion,
      graphTargetOf_injective.list_map htargets⟩
  rw [h.stored.routingRevision, hunchanged]
  simp

end Changes

/-! ### Runs -/

variable {input : RoutingInput}

theorem StepOf.storedNormal (hfresh : DrawsFresh old input.freshId)
    (hnormal : StoredNormal host old) (h : StepOf host input old new) : StoredNormal host new := by
  cases h with
  | unchanged hsame =>
    subst hsame
    exact hnormal
  | created hcommand hcreated =>
    exact hcreated.edited.storedNormal hnormal
      (nodup_of_resolves hfresh hcreated.routing hcreated.resolved hcreated.edited)
      (positions_of_resolves hcreated.routing hcreated.resolved) ⟨_, hcreated.routing.configJson⟩
  | changed hcommand hchanged => exact hchanged.storedNormal hfresh hnormal
  | @removed _ existing hcommand hremoved =>
    have hfind := (findUnremoved_eq_some.mp hremoved.found).1
    exact hremoved.edited.storedNormal hnormal .nil .nil
      (hnormal.configs existing (Table.mem_of_find? hfind))

theorem StepOf.identifies (hcanonical : CanonicalConfigs host)
    (hfresh : DrawsFresh old input.freshId) (hnormal : StoredNormal host old)
    (h : StepOf host input old new) : Identifies host old new := by
  cases h with
  | unchanged hsame =>
    subst hsame
    exact .refl new
  | created hcommand hcreated =>
    refine hcreated.edited.identifies hnormal fun before hbefore => ?_
    cases hcreated.fresh.symm.trans hbefore
  | changed hcommand hchanged => exact hchanged.identifies hcanonical hfresh hnormal
  | @removed _ existing hcommand hremoved =>
    obtain ⟨hfind, hunremoved⟩ := findUnremoved_eq_some.mp hremoved.found
    refine hremoved.edited.identifies hnormal fun before hbefore => ?_
    have hsame := Table.find?_of_mem (Table.mem_of_find? hfind)
    cases hsame.symm.trans hbefore
    refine ⟨hunremoved, le_refl _, fun hnow => ?_⟩
    cases hnow

/-- In a run, no identifier that is drawn is in use. -/
def FreshRun (host : CommandHost) (start : RoutingStore) (inputs : List RoutingInput) : Prop :=
  ∀ step ∈ Machine.trace (routingStep host) start inputs,
    DrawsFresh step.before step.input.freshId

theorem FreshRun.append {start : RoutingStore} {inputs later : List RoutingInput}
    (h : FreshRun host start (inputs ++ later)) : FreshRun host start inputs ∧
      FreshRun host (Machine.final (routingStep host) start inputs) later := by
  unfold FreshRun at h
  rw [Machine.trace_append] at h
  exact ⟨fun step hstep => h step (List.mem_append_left _ hstep),
    fun step hstep => h step (List.mem_append_right _ hstep)⟩

theorem identifies_final (hcanonical : CanonicalConfigs host) {start : RoutingStore}
    (hinv : RoutingInv start) (hnormal : StoredNormal host start) {inputs : List RoutingInput}
    (hfresh : FreshRun host start inputs) :
    StoredNormal host (Machine.final (routingStep host) start inputs) ∧
      Identifies host start (Machine.final (routingStep host) start inputs) := by
  induction inputs generalizing start with
  | nil => exact ⟨hnormal, .refl start⟩
  | cons input inputs ih =>
    have hstep : StepOf host input start (routingStep host input start).2 :=
      stepOf_routingStep hinv.owned input
    have hdraws : DrawsFresh start input.freshId :=
      hfresh (Machine.stepOf (routingStep host) start input) List.mem_cons_self
    have hidentifies := hstep.identifies hcanonical hdraws hnormal
    obtain ⟨hnormal'', hidentifies'⟩ := ih (hstep.routingInv hinv).1
      (hstep.storedNormal hdraws hnormal) fun step hmem => hfresh step (List.mem_cons_of_mem _ hmem)
    exact ⟨hnormal'', hidentifies.trans hidentifies'⟩

theorem storedNormal_empty (providerModels : Table RoutingGraphProviderModel) :
    StoredNormal host (emptyRoutingStore providerModels) :=
  ⟨fun _ h => absurd rfl h, fun _ h => absurd h (Table.not_mem_empty _)⟩

/-- A step that leaves the local data and the request overrides of an AccessPoint. -/
theorem StepOf.routingRevision_eq {id : String} {row' : AccessPointRow}
    (hfresh : DrawsFresh old input.freshId) (h : StepOf host input old new)
    (hrow : old.accessPoints.find? id = some row) (hrow' : new.accessPoints.find? id = some row')
    (hlocal : localRouting host.toHost (graphAccessPoint old row) =
      localRouting host.toHost (graphAccessPoint new row'))
    (hoverrides : row.requestOverridesJson = row'.requestOverridesJson) :
    row'.routingRevision = row.routingRevision := by
  -- an AccessPoint that the step does not edit keeps its row
  have hother : ∀ {now edited targets}, Edited now edited targets old new → id ≠ edited.id →
      row'.routingRevision = row.routingRevision := by
    intro now edited targets hedited hid
    cases ((hedited.accessPoint.find?_of_ne hid).trans hrow).symm.trans hrow'
    rfl
  cases h with
  | unchanged hsame =>
    subst hsame
    cases hrow.symm.trans hrow'
    rfl
  | @created _ _ _ _ _ created _ _ hcommand hcreated =>
    refine hother hcreated.edited fun hid => ?_
    cases hcreated.fresh.symm.trans (hid ▸ hrow)
  | @changed _ _ _ _ _ edited hcommand hchanged =>
    obtain ⟨-, -, hexisting⟩ := hchanged.removedAt
    by_cases hid : id = edited.id
    · subst hid
      cases hexisting.symm.trans hrow
      cases hchanged.edited.accessPoint.find?_self.symm.trans hrow'
      exact hchanged.routingRevision_eq hfresh hlocal hoverrides
    · exact hother hchanged.edited hid
  | @removed _ existing hcommand hremoved =>
    by_cases hid : id = existing.id
    · subst hid
      have hfind := Table.find?_of_mem (Table.mem_of_find?
        (findUnremoved_eq_some.mp hremoved.found).1)
      cases hfind.symm.trans hrow
      cases hremoved.edited.accessPoint.find?_self.symm.trans hrow'
      rfl
    · exact hother hremoved.edited hid

/-- **Revisions identify.** Along a run of commands no revision goes down, and an AccessPoint that
is not removed has the same local data in states where it has the same revision; and a step that
leaves this data and the request overrides leaves the revision. -/
theorem run_identifies (host : CommandHost) (hcanonical : CanonicalConfigs host)
    (providerModels : Table RoutingGraphProviderModel) (inputs later : List RoutingInput)
    (hfresh : FreshRun host (emptyRoutingStore providerModels) (inputs ++ later)) :
    let store := Machine.final (routingStep host) (emptyRoutingStore providerModels) inputs
    Identifies host store (Machine.final (routingStep host) store later) ∧
      ∀ input id row row', DrawsFresh store input.freshId →
        store.accessPoints.find? id = some row →
        (routingStep host input store).2.accessPoints.find? id = some row' →
        localRouting host.toHost (graphAccessPoint store row) =
          localRouting host.toHost (graphAccessPoint (routingStep host input store).2 row') →
        row.requestOverridesJson = row'.requestOverridesJson →
        row'.routingRevision = row.routingRevision := by
  intro store
  obtain ⟨hbefore, hafter⟩ := hfresh.append
  have hinv : RoutingInv store := routingInv_final (routingInv_empty providerModels) inputs
  have hnormal := (identifies_final hcanonical (routingInv_empty providerModels)
    (storedNormal_empty providerModels) hbefore).1
  refine ⟨(identifies_final hcanonical hinv hnormal hafter).2, ?_⟩
  intro input id row row' hdraws hrow hrow' hlocal hoverrides
  exact (stepOf_routingStep hinv.owned input).routingRevision_eq hdraws hrow hrow' hlocal hoverrides

/-! ### A change of a position -/

def plainConfigText : AccessPointSelectorConfig → String
  | .direct => "\x7b\x7d"
  | .orderedFallback maxAttempts retryOn =>
    "\x7b\"maxAttempts\":" ++ toString maxAttempts ++ ",\"retryOn\":[" ++
      String.intercalate "," (retryOn.map fun failureClass =>
        "\"" ++ failureClassText failureClass ++ "\"") ++ "]\x7d"

def plainCommandHost : CommandHost where
  toHost := plainHost
  canonicalizeConfig := plainConfigText
  canonicalizeText := some
  normalizeRequestOverrides := .ok
  idempotencyKeyHash := id
  createRequestHash := fun request => request.name

def plainSurroundings : CommandEnvironment where
  now := ⟨"2026-01-01T00:00:00.000Z", by decide⟩
  providers := fun id => some ⟨id, "global:", "enabled"⟩
  enabledCost := fun _ _ => true
  enabledPrice := fun _ => true
  scopeExists := fun _ _ => true
  apiKeyUser := fun _ => none
  teamMember := fun _ _ => false
  referencedPlan := fun _ => none

def plainProviderModels : Table RoutingGraphProviderModel :=
  ⟨[⟨"model-id", "provider", "model"⟩], by simp⟩

def providerTarget (id : String) (position : Int) : RoutingTargetInput where
  id := some id
  type := "provider-model"
  targetAccessPointId := none
  targetProviderId := some "provider"
  targetProviderModelName := none
  position := position
  status := none

def directDefinition (target : RoutingTargetInput) : RoutingDefinitionInput where
  selectorId := "direct"
  behaviorVersion := 1
  config := none
  requestOverrides := none
  targets := [target]
  expectedRoutingRevision := none

def plainCreation (key exposedModel : String) (target : RoutingTargetInput) :
    CreateAccessPointCommand where
  idempotencyKey := key
  ownerId := "owner"
  scopeRef := "global:"
  name := "name"
  description := none
  apiFamily := "family"
  exposedModel := exposedModel
  targetModel := "model"
  routing := directDefinition target
  priority := none
  weight := none
  fallbackOrder := none
  status := none

def plainChange (exposedModel : String) (routing : Option RoutingDefinitionInput)
    (status : Option String) : ChangeAccessPointCommand where
  ownerId := none
  scopeRef := none
  name := "name"
  description := none
  apiFamily := "family"
  exposedModel := exposedModel
  targetModel := "model"
  routing := routing
  priority := none
  weight := none
  fallbackOrder := none
  status := status

def plainRoutingInput (suffix : String) (command : RoutingCommand) : RoutingInput where
  environment := plainSurroundings
  freshId := fun _ => suffix
  writesLeft := none
  command := command

/-- `ap_1` with one target at position 0, which is then moved to position 1. -/
def createOne : RoutingInput :=
  plainRoutingInput "1" (.createAccessPoint (plainCreation "one" "model" (providerTarget "edge" 0))
    none none)

def moveTarget : RoutingInput :=
  plainRoutingInput "2" (.changeAccessPoint "ap_1"
    (plainChange "model" (some (directDefinition (providerTarget "edge" 1))) none))

def removeOne : RoutingInput := plainRoutingInput "2" (.removeAccessPoint "ap_1")

/-- The routing with the places of its targets left out. -/
def LocalRouting.withoutPositions (data : LocalRouting) : LocalRouting :=
  { data with targets := data.targets.map fun target => { target with position := 0 } }

def describedRouting (store : RoutingStore) : Option (LocalRouting × String × Int) :=
  (store.accessPoints.find? "ap_1").map fun row =>
    ((localRouting plainHost (graphAccessPoint store row)).withoutPositions,
      row.requestOverridesJson, row.routingRevision)

/-- Moving the only target leaves all of the data but its position, and raises the revision;
removing the AccessPoint takes the target away, and leaves the revision. -/
theorem movedTarget_raises :
    let store := Machine.final (routingStep plainCommandHost)
      (emptyRoutingStore plainProviderModels) [createOne]
    ∃ data overrides, describedRouting store = some (data, overrides, 1) ∧
      describedRouting (routingStep plainCommandHost moveTarget store).2 =
        some (data, overrides, 2) ∧
      describedRouting (routingStep plainCommandHost removeOne store).2 =
        some ({ data with targets := [] }, overrides, 1) ∧ data.targets ≠ [] := by
  refine ⟨⟨"model", "model", "direct", 1, "\x7b\x7d",
    [⟨"edge", .providerModel, none, some "model-id", some "provider", some "model", 0, "enabled",
      none⟩]⟩, "\x7b\x7d", ?_⟩
  decide

theorem run_identifies_move :
    let store := Machine.final (routingStep plainCommandHost)
      (emptyRoutingStore plainProviderModels) [createOne]
    Identifies plainCommandHost store
      (Machine.final (routingStep plainCommandHost) store [moveTarget]) := by
  refine (run_identifies plainCommandHost (fun _ => rfl) plainProviderModels [createOne]
    [moveTarget] ?_).1
  intro step hstep
  rcases List.mem_cons.mp hstep with rfl | hstep
  · exact fun _ => rfl
  · obtain rfl := List.mem_singleton.mp hstep
    have hfree : (routingStep plainCommandHost createOne
        (emptyRoutingStore plainProviderModels)).2.targets.find? "ap_target_2" = none := by
      decide
    exact fun _ => hfree

end Frely.ModelAccess
