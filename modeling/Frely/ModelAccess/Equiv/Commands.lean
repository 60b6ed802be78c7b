import Frely.Lib.Machine
import Frely.ModelAccess.Commands
import Frely.ModelAccess.Equiv.RoutingDefinition

/-!
# What a command does to the graph

Every accepted command sets the row of one AccessPoint and replaces its unremoved targets by others
(`Edited`): `createAccessPointRecord_eq_ok`, `changeAccessPoint_eq_ok` and `removeAccessPoint_eq_ok`
say how, with everything that was checked.  The other AccessPoints keep their rows and targets.
-/

namespace Frely.ModelAccess

open Frely.Postgres Checked Transaction

variable {env : CommandEnvironment} {host : CommandHost} {store : RoutingStore}

/-! ### Lookups -/

variable {id accessPointId : String} {row : AccessPointRow} {target : ResolvedTarget}

theorem findUnremoved_eq_some :
    store.findUnremoved id = some row ↔
      store.accessPoints.find? id = some row ∧ row.removedAt = none := by
  unfold RoutingStore.findUnremoved
  rw [Option.filter_eq_some_iff]
  simp

theorem id_of_findUnremoved (h : store.findUnremoved id = some row) : row.id = id :=
  Table.key_of_find? (findUnremoved_eq_some.mp h).1

theorem mem_findUnremovedIds : id ∈ findUnremovedIds store ↔ store.findUnremoved id ≠ none := by
  unfold findUnremovedIds
  rw [List.mem_map]
  constructor
  · rintro ⟨row, hrow, rfl⟩
    obtain ⟨hmem, hremoved⟩ := List.mem_filter.mp hrow
    have hfind := findUnremoved_eq_some.mpr
      ⟨Table.find?_of_mem hmem, of_decide_eq_true hremoved⟩
    exact ne_of_eq_of_ne hfind (by simp)
  · intro hfind
    obtain ⟨row, hrow⟩ := Option.ne_none_iff_exists'.mp hfind
    obtain ⟨hfound, hremoved⟩ := findUnremoved_eq_some.mp hrow
    exact ⟨row, List.mem_filter.mpr ⟨Table.mem_of_find? hfound, decide_eq_true hremoved⟩,
      Table.key_of_find? hfound⟩

theorem mem_targetsOf :
    target ∈ store.targetsOf id ↔ (⟨target, id⟩ : AccessPointTargetRow) ∈ store.targets := by
  unfold RoutingStore.targetsOf
  rw [List.mem_map]
  constructor
  · rintro ⟨row, hrow, rfl⟩
    obtain ⟨hmem, howner⟩ := List.mem_filter.mp hrow
    cases of_decide_eq_true howner
    exact hmem
  · intro hmem
    exact ⟨⟨target, id⟩, List.mem_filter.mpr ⟨hmem, decide_eq_true rfl⟩, rfl⟩

theorem mem_unremovedTargetsOf :
    target ∈ store.unremovedTargetsOf id ↔
      (⟨target, id⟩ : AccessPointTargetRow) ∈ store.targets ∧ target.removedAt = none := by
  unfold RoutingStore.unremovedTargetsOf
  rw [List.mem_filter, mem_targetsOf, decide_eq_true_iff]

theorem nodup_targetsOf (store : RoutingStore) (id : String) :
    ((store.targetsOf id).map ResolvedTarget.id).Nodup := by
  rw [RoutingStore.targetsOf, List.map_map]
  exact store.targets.nodup.sublist (List.filter_sublist.map _)

theorem nodup_unremovedTargetsOf (store : RoutingStore) (id : String) :
    ((store.unremovedTargetsOf id).map ResolvedTarget.id).Nodup :=
  (nodup_targetsOf store id).sublist (List.filter_sublist.map _)

/-- The target of an AccessPoint under an identifier is the stored row of that identifier. -/
theorem find?_targetsOf :
    (store.targetsOf accessPointId).find? (·.id = id) = some target ↔
      store.targets.find? id = some ⟨target, accessPointId⟩ := by
  rw [Table.find?_key_eq_some (nodup_targetsOf store accessPointId), mem_targetsOf,
    Table.find?_eq_some]
  rfl

/-! ### Targets that are accepted -/

variable {providerModelIds : ProviderModelIds} {resolved : ResolvedTarget}
  {s s' : Session RoutingStore} {source : RoutingSource} {u : Unit} {targetModel : String}

/-- What an identifier stands for: the type and the references of a target. -/
structure SameIdentity (left right : ResolvedTarget) : Prop where
  id : left.id = right.id
  targetType : left.targetType = right.targetType
  targetAccessPointId : left.targetAccessPointId = right.targetAccessPointId
  targetProviderId : left.targetProviderId = right.targetProviderId
  targetProviderModelName : left.targetProviderModelName = right.targetProviderModelName
  targetProviderModelId : left.targetProviderModelId = right.targetProviderModelId

theorem SameIdentity.refl (target : ResolvedTarget) : SameIdentity target target :=
  ⟨rfl, rfl, rfl, rfl, rfl, rfl⟩

theorem SameIdentity.trans {left middle right : ResolvedTarget} (h : SameIdentity left middle)
    (h' : SameIdentity middle right) : SameIdentity left right :=
  ⟨h.id.trans h'.id, h.targetType.trans h'.targetType,
    h.targetAccessPointId.trans h'.targetAccessPointId,
    h.targetProviderId.trans h'.targetProviderId,
    h.targetProviderModelName.trans h'.targetProviderModelName,
    h.targetProviderModelId.trans h'.targetProviderModelId⟩

theorem targetIdentityEquals_iff {current : ResolvedTarget} {next : NormalizedRoutingTarget} :
    targetIdentityEquals current next = true ↔ current.targetType = next.type ∧
      current.targetAccessPointId = next.targetAccessPointId ∧
      current.targetProviderId = next.targetProviderId ∧
      current.targetProviderModelName = next.targetProviderModelName := by
  simp [targetIdentityEquals, and_assoc]

/-- A target that may replace the stored one of its identifier, which is drawn unless it is
given. -/
structure Resolves (freshId : Nat → String) (existing : List ResolvedTarget)
    (providerModelIds : ProviderModelIds) (target : NormalizedRoutingTarget)
    (resolved : ResolvedTarget) : Prop where
  eq_new : ∃ targetProviderModelId,
    stableProviderModelId target providerModelIds = .ok targetProviderModelId ∧
      resolved = newResolvedTarget target resolved.id targetProviderModelId
  given : ∀ id ∈ target.id, resolved.id = id
  created : target.id = none → ∃ n, resolved.id = "ap_target" ++ "_" ++ freshId n
  current : ∀ current, existing.find? (·.id = resolved.id) = some current →
    current.removedAt = none ∧ SameIdentity current resolved

variable {freshId : Nat → String}

theorem Resolves.removedAt {existing : List ResolvedTarget} {target : NormalizedRoutingTarget}
    (h : Resolves freshId existing providerModelIds target resolved) :
    resolved.removedAt = none := by
  obtain ⟨_, -, heq⟩ := h.eq_new
  rw [heq]
  rfl

theorem resolvedTarget_eq_ok {existing : List ResolvedTarget} {target : NormalizedRoutingTarget}
    (h : resolvedTarget existing providerModelIds target id = .ok resolved)
    (hgiven : ∀ given ∈ target.id, id = given)
    (hcreated : target.id = none → ∃ n, id = "ap_target" ++ "_" ++ freshId n) :
    Resolves freshId existing providerModelIds target resolved := by
  obtain ⟨targetProviderModelId, hstable, h⟩ := bind_eq_ok.mp h
  obtain ⟨_, hremoved, h⟩ := bind_eq_ok.mp h
  obtain ⟨_, hidentity, h⟩ := bind_eq_ok.mp h
  obtain ⟨_, hmodel, h⟩ := bind_eq_ok.mp h
  have hremoved := rejectIf_eq_ok.mp hremoved
  have hidentity := rejectIf_eq_ok.mp hidentity
  have hmodel := rejectIf_eq_ok.mp hmodel
  cases h
  refine ⟨⟨targetProviderModelId, hstable, rfl⟩, hgiven, hcreated, ?_⟩
  intro current hcurrent
  have hequals : targetIdentityEquals current target = true :=
    not_not.mp fun hne => hidentity ⟨current, hcurrent, hne⟩
  obtain ⟨htype, haccessPoint, hprovider, hname⟩ := targetIdentityEquals_iff.mp hequals
  have hmatch := List.find?_some hcurrent
  have hid : current.id = id := of_decide_eq_true hmatch
  exact ⟨not_not.mp fun hne => hremoved ⟨current, hcurrent, hne⟩,
    hid, htype, haccessPoint, hprovider, hname,
    not_not.mp fun hne => hmodel ⟨current, hcurrent, hne⟩⟩

theorem givenOrCreatedTargetId_eq_ok {given : Option String}
    (h : givenOrCreatedTargetId given s = .ok (id, s')) :
    (∀ given' ∈ given, id = given') ∧
      (given = none → ∃ n, id = "ap_target" ++ "_" ++ s.freshId n) ∧
      s'.database = s.database ∧ s'.freshId = s.freshId := by
  cases given with
  | some given =>
    obtain ⟨rfl, rfl⟩ := run_pure.mp h
    exact ⟨fun given' hgiven => Option.some.inj hgiven, by simp, rfl, rfl⟩
  | none =>
    obtain ⟨hid, hfresh⟩ := createId_spec h
    exact ⟨by simp, fun _ => ⟨s.issued, hid⟩, createId_eq_ok h, hfresh⟩

theorem resolveTarget_eq_ok {existing : List ResolvedTarget} {target : NormalizedRoutingTarget}
    (h : resolveTarget existing providerModelIds target s = .ok (resolved, s')) :
    Resolves s.freshId existing providerModelIds target resolved ∧ s'.database = s.database ∧
      s'.freshId = s.freshId := by
  obtain ⟨id, s₁, hid, h⟩ := run_bind.mp h
  obtain ⟨hresolved, rfl⟩ := check_eq_ok.mp h
  obtain ⟨hgiven, hcreated, hunchanged⟩ := givenOrCreatedTargetId_eq_ok hid
  exact ⟨resolvedTarget_eq_ok hresolved hgiven hcreated, hunchanged⟩

theorem createTarget_eq_ok {target : NormalizedRoutingTarget} {created : ResolvedTarget}
    (h : createTarget providerModelIds target s = .ok (created, s')) :
    Resolves s.freshId [] providerModelIds target created ∧ s'.database = s.database ∧
      s'.freshId = s.freshId := by
  obtain ⟨id, s₁, hid, h⟩ := run_bind.mp h
  obtain ⟨targetProviderModelId, hstable, h⟩ := run_check_bind.mp h
  obtain ⟨rfl, rfl⟩ := run_pure.mp h
  obtain ⟨hgiven, hcreated, hunchanged⟩ := givenOrCreatedTargetId_eq_ok hid
  refine ⟨⟨⟨targetProviderModelId, hstable, rfl⟩, hgiven, hcreated, ?_⟩, hunchanged⟩
  intro current hcurrent
  cases hcurrent

/-- A loop of steps that leave the database alone leaves it alone. -/
theorem traverse_eq_ok {α β : Type} {R : (Nat → String) → α → β → Prop} {f : α → RoutingTxn β}
    (hf : ∀ {a b s s'}, f a s = .ok (b, s') →
      R s.freshId a b ∧ s'.database = s.database ∧ s'.freshId = s.freshId)
    {l : List α} {bs : List β} {s s' : Session RoutingStore}
    (h : Stateful.traverse f l s = .ok (bs, s')) :
    List.Forall₂ (R s.freshId) l bs ∧ s'.database = s.database := by
  induction l generalizing bs s with
  | nil =>
    obtain ⟨rfl, rfl⟩ := Stateful.run_pure.mp h
    exact ⟨.nil, rfl⟩
  | cons a l ih =>
    obtain ⟨b, s₁, ha, hrest⟩ := run_bind.mp h
    obtain ⟨rest, s₂, hl, hreturn⟩ := run_bind.mp hrest
    obtain ⟨rfl, rfl⟩ := run_pure.mp hreturn
    obtain ⟨hR, hdatabase, hfresh⟩ := hf ha
    obtain ⟨hall, hdatabase'⟩ := ih hl
    rw [hfresh] at hall
    exact ⟨.cons hR hall, hdatabase'.trans hdatabase⟩

theorem validateProviderTarget_eq_ok {target : NormalizedRoutingTarget}
    {entry : (String × String) × String}
    (h : validateProviderTarget env store source target = .ok entry) :
    ∃ model ∈ store.providerModels.rows,
      entry = ((model.providerId, model.providerModelName), model.id) := by
  unfold validateProviderTarget at h
  dsimp only at h
  split at h
  · cases h
  · obtain ⟨_, -, h⟩ := bind_eq_ok.mp h
    obtain ⟨_, -, h⟩ := bind_eq_ok.mp h
    split at h
    · cases h
    · next model hfind =>
      obtain ⟨_, -, h⟩ := bind_eq_ok.mp h
      have hfound := List.find?_some hfind
      have hmatch := of_decide_eq_true hfound
      cases h
      refine ⟨model, List.mem_of_find?_eq_some hfind, ?_⟩
      rw [hmatch.1, hmatch.2]

/-- An AccessPoint that a definition refers to exposes the target model, and is enabled when the
source and the target are. -/
def ValidReference (store : RoutingStore) (source : RoutingSource)
    (target : NormalizedRoutingTarget) : Prop :=
  ∃ row, store.findUnremoved (target.targetAccessPointId.getD "") = some row ∧
    row.exposedModel = source.targetModel ∧
    (source.sourceStatus = "enabled" → target.status = "enabled" → row.status = "enabled")

theorem validateAccessPointTarget_eq_ok {target : NormalizedRoutingTarget}
    (h : validateAccessPointTarget env store source target = .ok u) :
    ValidReference store source target := by
  unfold validateAccessPointTarget at h
  dsimp only at h
  split at h
  · cases h
  · next row hfind =>
    obtain ⟨_, -, h⟩ := bind_eq_ok.mp h
    obtain ⟨_, hmodel, h⟩ := bind_eq_ok.mp h
    obtain ⟨_, -, h⟩ := bind_eq_ok.mp h
    obtain ⟨_, -, h⟩ := bind_eq_ok.mp h
    have hstatus := rejectIf_eq_ok.mp h
    refine ⟨row, hfind, not_not.mp (rejectIf_eq_ok.mp hmodel), fun hsource htarget => ?_⟩
    exact not_not.mp fun hne => hstatus ⟨hsource, htarget, hne⟩

/-- The checks of the targets: every reference is valid, and every entry is of a stored model. -/
theorem validateRoutingTargets_eq_ok {targets : List NormalizedRoutingTarget}
    (h : validateRoutingTargets env store source targets = .ok providerModelIds) :
    (∀ target ∈ targets, target.type = .accessPoint → ValidReference store source target) ∧
      ∀ entry ∈ providerModelIds, ∃ model ∈ store.providerModels.rows,
        entry = ((model.providerId, model.providerModelName), model.id) := by
  induction targets generalizing providerModelIds with
  | nil =>
    cases h
    exact ⟨by simp, by simp⟩
  | cons target rest ih =>
    unfold validateRoutingTargets at h
    split at h
    · next htype =>
      obtain ⟨entry, hentry, h⟩ := bind_eq_ok.mp h
      obtain ⟨entries, hentries, h⟩ := bind_eq_ok.mp h
      cases h
      obtain ⟨hreferences, hmodels⟩ := ih hentries
      refine ⟨List.forall_mem_cons.mpr ⟨fun hother => ?_, hreferences⟩,
        List.forall_mem_cons.mpr ⟨validateProviderTarget_eq_ok hentry, hmodels⟩⟩
      rw [htype] at hother
      cases hother
    · obtain ⟨_, hvalid, h⟩ := bind_eq_ok.mp h
      obtain ⟨hreferences, hmodels⟩ := ih h
      exact ⟨List.forall_mem_cons.mpr ⟨fun _ => validateAccessPointTarget_eq_ok hvalid,
        hreferences⟩,
        hmodels⟩

/-- A stored target: its position, and a reference that fits the model it was checked for. -/
structure ValidTarget (store : RoutingStore) (targetModel : String) (target : ResolvedTarget) :
    Prop where
  position : IsSafeInteger target.position ∧ 0 ≤ target.position
  reference : RefersTo targetModel target.targetType target.targetAccessPointId
    target.targetProviderId target.targetProviderModelName
  accessPoint : target.targetType = .accessPoint → target.targetProviderModelId = none
  providerModel : target.targetType = .providerModel → ∃ model ∈ store.providerModels.rows,
    model.id ≠ "" ∧ target.targetProviderModelId = some model.id ∧
      target.targetProviderId = some model.providerId ∧
      target.targetProviderModelName = some model.providerModelName

theorem Resolves.validTarget {existing : List ResolvedTarget} {providerModelIds : ProviderModelIds}
    {target : NormalizedRoutingTarget} {resolved : ResolvedTarget} {targetModel : String}
    (h : Resolves freshId existing providerModelIds target resolved)
    (hnormal : NormalTarget targetModel target)
    (hmodels : ∀ entry ∈ providerModelIds, ∃ model ∈ store.providerModels.rows,
      entry = ((model.providerId, model.providerModelName), model.id)) :
    ValidTarget store targetModel resolved := by
  obtain ⟨modelId, hstable, heq⟩ := h.eq_new
  rw [heq]
  refine ⟨hnormal.position, hnormal.reference, fun htype => ?_, fun htype => ?_⟩
  · have htype : target.type = .accessPoint := htype
    rw [stableProviderModelId, htype] at hstable
    cases hstable
    rfl
  · have htype : target.type = .providerModel := htype
    obtain ⟨-, ⟨providerId, hproviderId, -⟩, hname⟩ := hnormal.reference.providerModel htype
    rw [stableProviderModelId, htype] at hstable
    dsimp only at hstable
    split at hstable
    · next id htruthy =>
      cases hstable
      obtain ⟨hfound, hne⟩ := Option.filter_eq_some_iff.mp htruthy
      obtain ⟨entry, hentry, rfl⟩ := Option.map_eq_some_iff.mp hfound
      have hmatch := List.find?_some hentry
      have hkey := of_decide_eq_true hmatch
      obtain ⟨model, hmodel, rfl⟩ := hmodels entry
        (List.mem_reverse.mp (List.mem_of_find?_eq_some hentry))
      rw [hproviderId, hname] at hkey
      obtain ⟨hkeyProvider, hkeyName⟩ := Prod.mk.inj hkey
      have hproviderId' : target.targetProviderId = some model.providerId := by
        rw [hproviderId, hkeyProvider, Option.getD_some]
      have hname' : target.targetProviderModelName = some model.providerModelName := by
        rw [hname, hkeyName, Option.getD_some]
      exact ⟨model, hmodel, of_decide_eq_true hne, rfl, hproviderId', hname'⟩
    · cases hstable

/-! ### Writing targets -/

variable {targets : List ResolvedTarget} {old new : Table AccessPointTargetRow}

/-- A step that changes at most the targets. -/
structure OnlyTargets (old new : RoutingStore) : Prop where
  accessPoints : new.accessPoints = old.accessPoints
  providerModels : new.providerModels = old.providerModels

theorem OnlyTargets.refl (store : RoutingStore) : OnlyTargets store store := ⟨rfl, rfl⟩

theorem OnlyTargets.trans {store₁ store₂ store₃ : RoutingStore} (h : OnlyTargets store₁ store₂)
    (h' : OnlyTargets store₂ store₃) : OnlyTargets store₁ store₃ :=
  ⟨h'.accessPoints.trans h.accessPoints, h'.providerModels.trans h.providerModels⟩

/-- The targets of an AccessPoint replaced by others: what is under an identifier is one of them, or
what was there, removed now if it was an unremoved target of the AccessPoint. -/
structure Replaced (now : NonEmptyText) (accessPointId : String) (targets : List ResolvedTarget)
    (old new : Table AccessPointTargetRow) : Prop where
  find? : ∀ id, (∃ target ∈ targets, target.id = id ∧ new.find? id = some ⟨target, accessPointId⟩) ∨
    ((∀ target ∈ targets, target.id ≠ id) ∧
      new.find? id = (old.find? id).map (removedTarget now accessPointId))
  unremoved : ∀ target ∈ targets, target.removedAt = none
  current : ∀ target ∈ targets, ∀ row, old.find? target.id = some row →
    row.accessPointId = accessPointId ∧ row.removedAt = none ∧
      SameIdentity row.toResolvedTarget target
  distinct : targets.Pairwise fun first second =>
    first.id = second.id → old.find? second.id ≠ none

/-- Some of the targets of a list under their identifiers, the others as before. -/
def Puts (accessPointId : String) (targets : List ResolvedTarget)
    (old new : Table AccessPointTargetRow) : Prop :=
  ∀ id, (∃ target ∈ targets, target.id = id ∧ new.find? id = some ⟨target, accessPointId⟩) ∨
    ((∀ target ∈ targets, target.id ≠ id) ∧ new.find? id = old.find? id)

theorem puts_nil (accessPointId : String) (table : Table AccessPointTargetRow) :
    Puts accessPointId [] table table :=
  fun _ => .inr ⟨by simp, rfl⟩

/-- One more target is put, or it is one that is there already. -/
theorem Puts.concat {accessPointId : String} {targets : List ResolvedTarget}
    {old middle new : Table AccessPointTargetRow} {target : ResolvedTarget}
    (h : Puts accessPointId targets old middle)
    (hnew : middle.Sets ⟨target, accessPointId⟩ new ∨
      new = middle ∧ old.find? target.id = some ⟨target, accessPointId⟩) :
    Puts accessPointId (targets ++ [target]) old new := by
  intro id
  rcases hnew with hsets | ⟨rfl, hthere⟩
  · by_cases hid : target.id = id
    · exact .inl ⟨target, List.mem_concat_self, hid, hid ▸ hsets.find?_self⟩
    · have hsame : new.find? id = middle.find? id := hsets.find?_of_ne (Ne.symm hid)
      rcases h id with ⟨other, hother, hother', hfind⟩ | ⟨hnone, hfind⟩
      · exact .inl ⟨other, List.mem_append_left _ hother, hother', hsame.trans hfind⟩
      · refine .inr ⟨?_, hsame.trans hfind⟩
        intro other hother
        rcases List.mem_append.mp hother with hother | hother
        · exact hnone other hother
        · rw [List.mem_singleton.mp hother]
          exact hid
  · rcases h id with ⟨other, hother, hother', hfind⟩ | ⟨hnone, hfind⟩
    · exact .inl ⟨other, List.mem_append_left _ hother, hother', hfind⟩
    · by_cases hid : target.id = id
      · exact .inl ⟨target, List.mem_concat_self, hid, hfind.trans (hid ▸ hthere)⟩
      · refine .inr ⟨?_, hfind⟩
        intro other hother
        rcases List.mem_append.mp hother with hother | hother
        · exact hnone other hother
        · rw [List.mem_singleton.mp hother]
          exact hid

/-- Under an identifier that was free nothing was put before it was taken. -/
theorem Puts.find?_eq_none (h : Puts accessPointId targets old new) (hnone : new.find? id = none) :
    old.find? id = none := by
  rcases h id with ⟨_, -, -, hfind⟩ | ⟨-, hfind⟩
  · rw [hnone] at hfind
    cases hfind
  · rw [← hfind, hnone]

theorem Puts.ne_of_find?_eq_none (h : Puts accessPointId targets old new)
    (hnone : new.find? id = none) (htarget : target ∈ targets) : target.id ≠ id := by
  rcases h id with ⟨_, -, -, hfind⟩ | ⟨hne, -⟩
  · rw [hnone] at hfind
    cases hfind
  · exact hne target htarget

theorem insertTarget_eq_ok (h : insertTarget accessPointId target s = .ok (u, s')) :
    OnlyTargets s.database s'.database ∧ s.database.targets.find? target.id = none ∧
      s.database.targets.Sets ⟨target, accessPointId⟩ s'.database.targets := by
  have hwrite : (s.database.targets.insert? ⟨target, accessPointId⟩).map
      (fun targets => { s.database with targets }) = some s'.database := write_eq_ok h
  obtain ⟨targets, hinsert, hdatabase⟩ := Option.map_eq_some_iff.mp hwrite
  rw [← hdatabase]
  exact ⟨⟨rfl, rfl⟩, (Table.insert?_eq_some.mp hinsert).1, Table.sets_insert hinsert⟩

theorem putTarget_eq_ok {row : AccessPointTargetRow} (h : putTarget row s = .ok (u, s')) :
    OnlyTargets s.database s'.database ∧ s.database.targets.Sets row s'.database.targets := by
  have hwrite : some { s.database with targets := s.database.targets.put row } =
      some s'.database := write_eq_ok h
  rw [← Option.some.inj hwrite]
  exact ⟨⟨rfl, rfl⟩, Table.sets_put _ row⟩

/-- A stored target with the position and the status of the one that replaces it is that one. -/
theorem SameIdentity.update {current : ResolvedTarget} (h : SameIdentity current target)
    (hcurrent : current.removedAt = none) (htarget : target.removedAt = none) :
    ({ current with status := target.status, position := target.position } : ResolvedTarget) =
      target := by
  obtain ⟨hid, htype, haccessPoint, hprovider, hname, hmodel⟩ := h
  cases target
  cases current
  simp_all

/-- What the targets that replace the stored ones have to agree with. -/
def Agrees (existing : List ResolvedTarget) (target : ResolvedTarget) : Prop :=
  target.removedAt = none ∧ ∀ current, existing.find? (·.id = target.id) = some current →
    current.removedAt = none ∧ SameIdentity current target

theorem upsertTarget_eq_ok {existing : List ResolvedTarget} (hagrees : Agrees existing target)
    (h : upsertTarget accessPointId existing target s = .ok (u, s')) :
    OnlyTargets s.database s'.database ∧
      (s.database.targets.Sets ⟨target, accessPointId⟩ s'.database.targets ∨
        s'.database.targets = s.database.targets ∧
          existing.find? (·.id = target.id) = some target) ∧
      (existing.find? (·.id = target.id) = none → s.database.targets.find? target.id = none) := by
  cases hcurrent : existing.find? (·.id = target.id) with
  | some current =>
    simp only [upsertTarget, hcurrent] at h
    obtain ⟨hremoved, hidentity⟩ := hagrees.2 current hcurrent
    have hupdate := hidentity.update hremoved hagrees.1
    split_ifs at h with hchanged
    · rw [hupdate] at h
      obtain ⟨honly, hsets⟩ := putTarget_eq_ok h
      exact ⟨honly, .inl hsets, by simp⟩
    · obtain ⟨-, rfl⟩ := run_pure.mp h
      obtain ⟨hstatus, hposition⟩ := not_or.mp hchanged
      have hsame : current = target := by
        rw [← hupdate, ← not_not.mp hstatus, ← not_not.mp hposition]
      exact ⟨.refl _, .inr ⟨rfl, congrArg some hsame⟩, by simp⟩
  | none =>
    simp only [upsertTarget, hcurrent] at h
    obtain ⟨honly, hfree, hsets⟩ := insertTarget_eq_ok h
    exact ⟨honly, .inl hsets, fun _ => hfree⟩

/-- Two targets of one identifier, where the second one is new. -/
def Clash (existing : List ResolvedTarget) (first second : ResolvedTarget) : Prop :=
  first.id = second.id ∧ existing.find? (·.id = second.id) = none

theorem upsertTargets_eq_ok {accessPointId : String} {existing targets : List ResolvedTarget}
    {old : Table AccessPointTargetRow} {u : Unit} :
    ∀ {before : List ResolvedTarget} {s s' : Session RoutingStore},
      (∀ target ∈ targets, Agrees existing target) →
      (∀ target ∈ targets, existing.find? (·.id = target.id) = some target →
        old.find? target.id = some ⟨target, accessPointId⟩) →
      Puts accessPointId before old s.database.targets →
      forEach targets (upsertTarget accessPointId existing) s = .ok (u, s') →
      OnlyTargets s.database s'.database ∧
        Puts accessPointId (before ++ targets) old s'.database.targets ∧
        (∀ target ∈ targets, existing.find? (·.id = target.id) = none →
          old.find? target.id = none) ∧
        (∀ first ∈ before, ∀ second ∈ targets, ¬Clash existing first second) ∧
        targets.Pairwise fun first second => ¬Clash existing first second := by
  induction targets with
  | nil =>
    intro before s s' _ _ hputs h
    obtain ⟨-, rfl⟩ := run_pure.mp h
    exact ⟨.refl _, by rwa [List.append_nil], by simp, by simp, .nil⟩
  | cons target rest ih =>
    intro before s s' hagrees hthere hputs h
    obtain ⟨_, s₁, hfirst, hrest⟩ := run_bind.mp h
    obtain ⟨honly, hnew, hfree⟩ := upsertTarget_eq_ok (hagrees target List.mem_cons_self) hfirst
    have hmiddle : Puts accessPointId (before ++ [target]) old s₁.database.targets := by
      apply hputs.concat
      rcases hnew with hsets | ⟨hsame, hcurrent⟩
      · exact .inl hsets
      · exact .inr ⟨hsame, hthere target List.mem_cons_self hcurrent⟩
    obtain ⟨honly', hall, hfree', hclash, hpairwise⟩ := ih
      (fun other hother => hagrees other (List.mem_cons_of_mem _ hother))
      (fun other hother => hthere other (List.mem_cons_of_mem _ hother)) hmiddle hrest
    refine ⟨honly.trans honly', by rwa [List.append_assoc] at hall,
      List.forall_mem_cons.mpr ⟨fun hnone => hputs.find?_eq_none (hfree hnone), hfree'⟩, ?_,
      List.pairwise_cons.mpr ⟨fun second hsecond =>
        hclash target List.mem_concat_self second hsecond, hpairwise⟩⟩
    intro first hbefore second hsecond
    rcases List.mem_cons.mp hsecond with rfl | hsecond
    · rintro ⟨hid, hnone⟩
      exact hputs.ne_of_find?_eq_none (hfree hnone) hbefore hid
    · exact hclash first (List.mem_append_left _ hbefore) second hsecond

/-! ### Removing targets -/

variable {now : NonEmptyText}

theorem removedTarget_of (h : target.removedAt = none) :
    removedTarget now accessPointId ⟨target, accessPointId⟩ =
      ⟨{ target with status := "disabled", removedAt := some now }, accessPointId⟩ :=
  if_pos ⟨rfl, h⟩

theorem removedTarget_of_not {row : AccessPointTargetRow}
    (h : row.accessPointId = accessPointId → row.removedAt ≠ none) :
    removedTarget now accessPointId row = row :=
  if_neg fun hboth => h hboth.1 hboth.2

theorem retireTarget_eq_ok {retained : List String}
    (hthere : s.database.targets.find? target.id = some ⟨target, accessPointId⟩)
    (h : retireTarget now accessPointId retained target s = .ok (u, s')) :
    OnlyTargets s.database s'.database ∧ ∀ id, s'.database.targets.find? id =
      if id = target.id ∧ id ∉ retained then
        (s.database.targets.find? id).map (removedTarget now accessPointId)
      else s.database.targets.find? id := by
  unfold retireTarget at h
  split_ifs at h with hkeep
  · obtain ⟨-, rfl⟩ := run_pure.mp h
    refine ⟨.refl _, fun id => ?_⟩
    split_ifs with hid
    · obtain ⟨rfl, hretained⟩ := hid
      rw [hthere, Option.map_some, removedTarget_of_not]
      exact fun _ => hkeep.resolve_right hretained
    · rfl
  · obtain ⟨honly, hsets⟩ := putTarget_eq_ok h
    obtain ⟨hremoved, hretained⟩ := not_or.mp hkeep
    refine ⟨honly, fun id => ?_⟩
    by_cases hid : id = target.id
    · subst hid
      rw [if_pos ⟨rfl, hretained⟩, hthere, Option.map_some,
        removedTarget_of (not_not.mp hremoved)]
      exact hsets.find?_self
    · rw [if_neg fun hboth => hid hboth.1]
      exact hsets.find?_of_ne hid

theorem retireTargets_eq_ok {retained : List String} : ∀ {s s' : Session RoutingStore},
      (targets.map ResolvedTarget.id).Nodup →
      (∀ target ∈ targets, s.database.targets.find? target.id = some ⟨target, accessPointId⟩) →
      forEach targets (retireTarget now accessPointId retained) s = .ok (u, s') →
      OnlyTargets s.database s'.database ∧ ∀ id, s'.database.targets.find? id =
        if id ∈ targets.map ResolvedTarget.id ∧ id ∉ retained then
          (s.database.targets.find? id).map (removedTarget now accessPointId)
        else s.database.targets.find? id := by
  induction targets with
  | nil =>
    intro s s' _ _ h
    obtain ⟨-, rfl⟩ := run_pure.mp h
    exact ⟨.refl _, by simp⟩
  | cons target rest ih =>
    intro s s' hnodup hthere h
    obtain ⟨_, s₁, hfirst, hrest⟩ := run_bind.mp h
    rw [List.map_cons, List.nodup_cons] at hnodup
    obtain ⟨honly, hfind⟩ := retireTarget_eq_ok (hthere target List.mem_cons_self) hfirst
    have hothers : ∀ other ∈ rest,
        s₁.database.targets.find? other.id = some ⟨other, accessPointId⟩ := by
      intro other hother
      have hne : other.id ≠ target.id := fun hequal =>
        hnodup.1 (hequal ▸ List.mem_map_of_mem hother)
      rw [hfind, if_neg fun hboth => hne hboth.1]
      exact hthere other (List.mem_cons_of_mem _ hother)
    obtain ⟨honly', hfind'⟩ := ih hnodup.2 hothers hrest
    refine ⟨honly.trans honly', fun id => ?_⟩
    rw [hfind', hfind, List.map_cons]
    by_cases hid : id = target.id
    · have hnew : id ∉ rest.map ResolvedTarget.id := hid ▸ hnodup.1
      simp [hid, hid ▸ hnew]
    · simp [hid]

/-- The writes of a change that gives a routing. -/
theorem replaceTargets_eq_ok {now : NonEmptyText} {accessPointId : String}
    {targets : List ResolvedTarget} {u : Unit} {s s' : Session RoutingStore}
    (hagrees : ∀ target ∈ targets, Agrees (s.database.targetsOf accessPointId) target)
    (h : replaceTargets now accessPointId (s.database.targetsOf accessPointId) targets s =
      .ok (u, s')) :
    OnlyTargets s.database s'.database ∧
      Replaced now accessPointId targets s.database.targets s'.database.targets := by
  obtain ⟨_, s₁, hretire, hupsert⟩ := run_bind.mp h
  obtain ⟨honly, hfind⟩ := retireTargets_eq_ok (nodup_targetsOf s.database accessPointId)
    (fun target htarget => Table.find?_of_mem (mem_targetsOf.mp htarget)) hretire
  -- an identifier that is kept is left alone, and any other target of the AccessPoint is removed
  have hkept : ∀ id, id ∈ targets.map ResolvedTarget.id →
      s₁.database.targets.find? id = s.database.targets.find? id := by
    intro id hid
    rw [hfind, if_neg fun hboth => hboth.2 hid]
  have hrest : ∀ id, id ∉ targets.map ResolvedTarget.id → s₁.database.targets.find? id =
      (s.database.targets.find? id).map (removedTarget now accessPointId) := by
    intro id hid
    rw [hfind]
    split_ifs with hboth
    · rfl
    · cases hrow : s.database.targets.find? id with
      | none => rfl
      | some row =>
        obtain ⟨hmem, rfl⟩ := Table.find?_eq_some.mp hrow
        rw [Option.map_some, removedTarget_of_not]
        rintro rfl
        have hown : row.toResolvedTarget ∈ s.database.targetsOf row.accessPointId :=
          mem_targetsOf.mpr hmem
        exact absurd ⟨List.mem_map_of_mem hown, hid⟩ hboth
  have hthere : ∀ target ∈ targets,
      (s.database.targetsOf accessPointId).find? (·.id = target.id) = some target →
      s₁.database.targets.find? target.id = some ⟨target, accessPointId⟩ := by
    intro target htarget hcurrent
    rw [hkept _ (List.mem_map_of_mem htarget)]
    exact find?_targetsOf.mp hcurrent
  obtain ⟨honly', hputs, hfree, -, hclash⟩ :=
    upsertTargets_eq_ok hagrees hthere (puts_nil _ _) hupsert
  refine ⟨honly.trans honly', fun id => ?_, fun target htarget => (hagrees target htarget).1,
    ?_, ?_⟩
  · rcases hputs id with hput | ⟨hnone, hsame⟩
    · exact .inl hput
    · refine .inr ⟨hnone, hsame.trans (hrest id fun hid => ?_)⟩
      obtain ⟨target, htarget, hequal⟩ := List.mem_map.mp hid
      exact hnone target htarget hequal
  · intro target htarget row hrow
    cases hcurrent : (s.database.targetsOf accessPointId).find? (·.id = target.id) with
    | some current =>
      rw [find?_targetsOf.mp hcurrent] at hrow
      cases hrow
      exact ⟨rfl, (hagrees target htarget).2 current hcurrent⟩
    | none =>
      have hnone := hfree target htarget hcurrent
      rw [hkept _ (List.mem_map_of_mem htarget), hrow] at hnone
      cases hnone
  · refine hclash.imp fun {first second} hclash hid hnone => hclash ⟨hid, ?_⟩
    refine Option.eq_none_iff_forall_ne_some.mpr fun current hcurrent => ?_
    rw [find?_targetsOf.mp hcurrent] at hnone
    cases hnone

/-! ### Commands -/

variable {command : CreateAccessPointCommand} {request : CreateAccessPointRequest}
  {idempotencyKeyHash : String} {result : AccessPointCommandResult}
  {routing : NormalizedRoutingDefinition} {given : Option RoutingDefinitionInput}

/-- A step sets the row of an AccessPoint and replaces its unremoved targets. -/
structure Edited (now : NonEmptyText) (row : AccessPointRow) (targets : List ResolvedTarget)
    (old new : RoutingStore) : Prop where
  accessPoint : old.accessPoints.Sets row new.accessPoints
  targets : Replaced now row.id targets old.targets new.targets
  providerModels : new.providerModels = old.providerModels

/-- Every stored target has an identifier, and the AccessPoint that it belongs to is stored. -/
structure WellOwned (store : RoutingStore) : Prop where
  ids : ∀ row ∈ store.targets, row.id ≠ ""
  owners : ∀ row ∈ store.targets, store.accessPoints.find? row.accessPointId ≠ none

theorem putAccessPoint_eq_ok (h : putAccessPoint row s = .ok (u, s')) :
    s.database.accessPoints.Sets row s'.database.accessPoints ∧
      s'.database.targets = s.database.targets ∧
      s'.database.providerModels = s.database.providerModels := by
  have hwrite : some { s.database with accessPoints := s.database.accessPoints.put row } =
      some s'.database := write_eq_ok h
  rw [← Option.some.inj hwrite]
  exact ⟨Table.sets_put _ row, rfl, rfl⟩

theorem insertAccessPoint_eq_ok (h : insertAccessPoint row s = .ok (u, s')) :
    s.database.accessPoints.find? row.id = none ∧
      s.database.accessPoints.Sets row s'.database.accessPoints ∧
      s'.database.targets = s.database.targets ∧
      s'.database.providerModels = s.database.providerModels := by
  have hwrite : (s.database.accessPoints.insert? row).map
      (fun accessPoints => { s.database with accessPoints }) = some s'.database := write_eq_ok h
  obtain ⟨accessPoints, hinsert, hdatabase⟩ := Option.map_eq_some_iff.mp hwrite
  rw [← hdatabase]
  exact ⟨(Table.insert?_eq_some.mp hinsert).1, Table.sets_insert hinsert, rfl, rfl⟩

/-- An accepted creation: a disabled AccessPoint with the targets of its definition. -/
structure Created (env : CommandEnvironment) (host : CommandHost) (freshId : Nat → String)
    (command : CreateAccessPointCommand) (request : CreateAccessPointRequest)
    (idempotencyKeyHash id : String) (providerModelIds : ProviderModelIds)
    (targets : List ResolvedTarget) (old new : RoutingStore) : Prop where
  routing : IsNormal host request.targetModel command.routing request.routing
  fresh : old.accessPoints.find? id = none
  valid : validateRoutingTargets env old ⟨id, request.scopeRef, request.targetModel, "disabled"⟩
    request.routing.targets = .ok providerModelIds
  resolved : List.Forall₂ (Resolves freshId [] providerModelIds) request.routing.targets targets
  edited : Edited env.now (createdAccessPoint host request idempotencyKeyHash id) targets old new
  graph : validateProspectiveGraph new = .ok ()

theorem prepareCreation_eq_ok {slot : Option String}
    (h : prepareCreation env host command slot = .ok (request, idempotencyKeyHash)) :
    IsNormal host request.targetModel command.routing request.routing := by
  obtain ⟨scopeRef, -, h⟩ := bind_eq_ok.mp h
  obtain ⟨_, -, h⟩ := bind_eq_ok.mp h
  obtain ⟨_, -, h⟩ := bind_eq_ok.mp h
  obtain ⟨targetModel, -, h⟩ := bind_eq_ok.mp h
  obtain ⟨exposedModel, -, h⟩ := bind_eq_ok.mp h
  obtain ⟨routing, hrouting, h⟩ := bind_eq_ok.mp h
  obtain ⟨ownerId, -, h⟩ := bind_eq_ok.mp h
  obtain ⟨idempotencyKey, -, h⟩ := bind_eq_ok.mp h
  obtain ⟨name, -, h⟩ := bind_eq_ok.mp h
  obtain ⟨description, -, h⟩ := bind_eq_ok.mp h
  obtain ⟨apiFamily, -, h⟩ := bind_eq_ok.mp h
  obtain ⟨priority, -, h⟩ := bind_eq_ok.mp h
  obtain ⟨weight, -, h⟩ := bind_eq_ok.mp h
  obtain ⟨fallbackOrder, -, h⟩ := bind_eq_ok.mp h
  cases h
  exact normalizeRoutingDefinition_eq_ok hrouting

theorem Resolves.agrees {existing : List ResolvedTarget} {target : NormalizedRoutingTarget}
    (h : Resolves freshId existing providerModelIds target resolved) : Agrees existing resolved :=
  ⟨h.removedAt, h.current⟩

/-- All of the targets that a definition resolves to agree with the stored ones. -/
theorem agrees_of_forall₂ {existing : List ResolvedTarget}
    {normalized : List NormalizedRoutingTarget}
    (h : List.Forall₂ (Resolves freshId existing providerModelIds) normalized targets) :
    ∀ target ∈ targets, Agrees existing target := by
  intro target htarget
  obtain ⟨_, -, hresolves⟩ := Stateful.exists_of_forall₂ h htarget
  exact hresolves.agrees

theorem storeCreation_eq_ok (howned : WellOwned s.database)
    (hrouting : IsNormal host request.targetModel command.routing request.routing)
    (h : storeCreation env host request idempotencyKeyHash s = .ok (result, s')) :
    ∃ freshId id providerModelIds targets, Created env host freshId command request
      idempotencyKeyHash id providerModelIds targets s.database s'.database ∧
      freshId = s.freshId := by
  obtain ⟨id, s₁, hid, h⟩ := run_bind.mp h
  obtain ⟨_, -, h⟩ := run_check_bind.mp h
  obtain ⟨providerModelIds, hvalid, h⟩ := run_read_bind.mp h
  obtain ⟨targets, s₂, htargets, h⟩ := run_bind.mp h
  obtain ⟨_, s₃, hinsert, h⟩ := run_bind.mp h
  obtain ⟨_, s₄, hloop, h⟩ := run_bind.mp h
  obtain ⟨_, hgraph, h⟩ := run_read_bind.mp h
  obtain ⟨rfl, rfl⟩ := run_pure.mp h
  have hdatabase := createId_eq_ok hid
  obtain ⟨hresolved, hdatabase'⟩ := @traverse_eq_ok _ _
    (fun freshId => Resolves freshId [] providerModelIds) _ createTarget_eq_ok _ _ _ _ htargets
  obtain ⟨hfresh, hsets, hsame, hmodels⟩ := insertAccessPoint_eq_ok hinsert
  -- adding a target is putting one where none is stored
  obtain ⟨honly, hputs, hfree, -, hclash⟩ := @upsertTargets_eq_ok id [] targets
    s₃.database.targets _ [] s₃ s' (agrees_of_forall₂ hresolved) (by simp) (puts_nil _ _) hloop
  rw [hdatabase'.trans hdatabase] at hfresh hsets hsame hmodels
  rw [hdatabase] at hvalid
  rw [hsame] at hputs hfree
  refine ⟨s.freshId, id, providerModelIds, targets, ⟨hrouting, hfresh, hvalid, ?_, ⟨?_, ?_, ?_⟩,
    hgraph⟩, rfl⟩
  · rw [(createId_spec hid).2] at hresolved
    exact hresolved
  · rw [honly.accessPoints]
    exact hsets
  · refine ⟨fun key => ?_, fun target htarget => (agrees_of_forall₂ hresolved target htarget).1,
      fun target htarget row hrow => ?_, ?_⟩
    · rcases hputs key with hput | ⟨hnone, hfind⟩
      · exact .inl hput
      · refine .inr ⟨hnone, hfind.trans ?_⟩
        -- no stored target belongs to the new AccessPoint
        cases hrow : s.database.targets.find? key with
        | none => rfl
        | some row =>
          rw [Option.map_some, removedTarget_of_not]
          intro howner
          have hstored := howned.owners row (Table.mem_of_find? hrow)
          rw [howner] at hstored
          exact absurd hfresh hstored
    · rw [hfree target htarget rfl] at hrow
      cases hrow
    · exact hclash.imp fun hclash hid => absurd ⟨hid, rfl⟩ hclash
  · exact honly.providerModels.trans hmodels

theorem createAccessPointRecord_eq_ok {slot : Option String}
    {admission : Option AccessPointCreationAdmission} (howned : WellOwned s.database)
    (h : createAccessPointRecord env host command slot admission s = .ok (result, s')) :
    s' = s ∨ ∃ request idempotencyKeyHash id providerModelIds targets,
      Created env host s.freshId command request idempotencyKeyHash id providerModelIds targets
        s.database s'.database := by
  obtain ⟨⟨request, idempotencyKeyHash⟩, hprepared, h⟩ := run_check_bind.mp h
  obtain ⟨prior, -, h⟩ := run_read_bind.mp h
  cases prior with
  | some prior =>
    obtain ⟨-, rfl⟩ := check_eq_ok.mp h
    exact .inl rfl
  | none =>
    obtain ⟨_, -, h⟩ := run_read_bind.mp h
    obtain ⟨_, id, providerModelIds, targets, hcreated, rfl⟩ :=
      storeCreation_eq_ok howned (prepareCreation_eq_ok hprepared) h
    exact .inr ⟨request, idempotencyKeyHash, id, providerModelIds, targets, hcreated⟩

/-- The routing of a change is the given one, or the stored one as it is normalized for the stored
target model. -/
theorem changedRouting_eq_ok {existing : AccessPointRow}
    (h : changedRouting host store existing given targetModel = .ok routing) :
    (∃ definition, given = some definition ∧ IsNormal host targetModel definition routing) ∨
      given = none ∧ ∃ config, host.parseJson existing.routingRuleConfigJson = some config ∧
        IsNormal host existing.targetModel (storedRouting store existing config) routing := by
  obtain ⟨_, -, h⟩ := bind_eq_ok.mp h
  obtain ⟨current, hcurrent, h⟩ := bind_eq_ok.mp h
  cases given with
  | some definition => exact .inl ⟨definition, rfl, normalizeRoutingDefinition_eq_ok h⟩
  | none =>
    cases h
    obtain ⟨config, hconfig, hcurrent⟩ := bind_eq_ok.mp hcurrent
    obtain ⟨_, -, hcurrent⟩ := bind_eq_ok.mp hcurrent
    refine .inr ⟨rfl, config, ?_, normalizeRoutingDefinition_eq_ok hcurrent⟩
    unfold parseStoredConfig at hconfig
    split at hconfig
    · next hparse =>
      cases hconfig
      exact hparse
    · cases hconfig

theorem nextStatus_eq_ok {status : String} {existing : AccessPointRow} {given : Option String}
    (h : nextStatus env id existing given = .ok status) :
    status = given.getD existing.status ∧ (status = "enabled" ∨ status = "disabled") := by
  obtain ⟨_, hknown, h⟩ := bind_eq_ok.mp h
  obtain ⟨_, -, h⟩ := bind_eq_ok.mp h
  have hknown := rejectIf_eq_ok.mp hknown
  cases h
  exact ⟨rfl, by tauto⟩

/-- A change that passed its checks. -/
structure Prepared (env : CommandEnvironment) (host : CommandHost) (store : RoutingStore)
    (id : String) (command : ChangeAccessPointCommand) (change : PreparedChange) : Prop where
  existing : store.findUnremoved id = some change.existing
  status : change.status = command.status.getD change.existing.status
  known : change.status = "enabled" ∨ change.status = "disabled"
  routing : changedRouting host store change.existing command.routing change.targetModel =
    .ok change.routing
  valid : validateRoutingTargets env store
    ⟨id, change.existing.scopeRef, change.targetModel, change.status⟩ change.routing.targets =
      .ok change.providerModelIds
  exposedModel : required command.exposedModel "exposedModel" = .ok change.exposedModel
  targetModel : required command.targetModel "targetModel" = .ok change.targetModel

theorem prepareChange_eq_ok {command : ChangeAccessPointCommand} {change : PreparedChange}
    (h : prepareChange env host store id command = .ok change) :
    Prepared env host store id command change := by
  obtain ⟨existing, hexisting, h⟩ := bind_eq_ok.mp h
  obtain ⟨scopeRef, -, h⟩ := bind_eq_ok.mp h
  obtain ⟨_, hscope, h⟩ := bind_eq_ok.mp h
  obtain ⟨_, -, h⟩ := bind_eq_ok.mp h
  obtain ⟨_, -, h⟩ := bind_eq_ok.mp h
  obtain ⟨targetModel, htargetModel, h⟩ := bind_eq_ok.mp h
  obtain ⟨exposedModel, hexposedModel, h⟩ := bind_eq_ok.mp h
  obtain ⟨status, hstatus, h⟩ := bind_eq_ok.mp h
  obtain ⟨routing, hrouting, h⟩ := bind_eq_ok.mp h
  obtain ⟨_, -, h⟩ := bind_eq_ok.mp h
  obtain ⟨providerModelIds, hvalid, h⟩ := bind_eq_ok.mp h
  cases h
  have hscope : scopeRef = existing.scopeRef := not_not.mp (rejectIf_eq_ok.mp hscope)
  obtain ⟨hstatus, hknown⟩ := nextStatus_eq_ok hstatus
  refine ⟨?_, hstatus, hknown, hrouting, hscope ▸ hvalid, hexposedModel, htargetModel⟩
  unfold requireUnremoved at hexisting
  split at hexisting
  · next hfind =>
    cases hexisting
    exact hfind
  · cases hexisting

/-- The row of a change: what the command gives, and the rest as it was. -/
structure IsChangedRow (change : PreparedChange) (routingRevision : Int) (row : AccessPointRow) :
    Prop where
  id : row.id = change.existing.id
  exposedModel : row.exposedModel = change.exposedModel
  targetModel : row.targetModel = change.targetModel
  routingRuleId : row.routingRuleId = change.routing.ruleId
  routingRuleBehaviorVersion : row.routingRuleBehaviorVersion = change.routing.behaviorVersion
  routingRuleConfigJson : row.routingRuleConfigJson = change.routing.configJson
  requestOverridesJson : row.requestOverridesJson = change.routing.requestOverridesJson
  routingRevision : row.routingRevision = routingRevision
  status : row.status = change.status
  removedAt : row.removedAt = change.existing.removedAt

theorem changedAccessPoint_eq_ok {command : ChangeAccessPointCommand} {change : PreparedChange}
    {routingRevision : Int} (h : changedAccessPoint command change routingRevision = .ok row) :
    IsChangedRow change routingRevision row := by
  obtain ⟨name, -, h⟩ := bind_eq_ok.mp h
  obtain ⟨description, -, h⟩ := bind_eq_ok.mp h
  obtain ⟨apiFamily, -, h⟩ := bind_eq_ok.mp h
  obtain ⟨priority, -, h⟩ := bind_eq_ok.mp h
  obtain ⟨weight, -, h⟩ := bind_eq_ok.mp h
  obtain ⟨fallbackOrder, -, h⟩ := bind_eq_ok.mp h
  cases h
  exact ⟨rfl, rfl, rfl, rfl, rfl, rfl, rfl, rfl, rfl, rfl⟩

/-- An accepted change. -/
structure Changed (env : CommandEnvironment) (host : CommandHost) (freshId : Nat → String)
    (id : String) (command : ChangeAccessPointCommand) (change : PreparedChange)
    (targets : List ResolvedTarget) (changed : Bool) (row : AccessPointRow)
    (old new : RoutingStore) : Prop where
  prepared : Prepared env host old id command change
  resolved : List.Forall₂ (Resolves freshId (old.targetsOf id) change.providerModelIds)
    change.routing.targets targets
  revision : routingChanged host old change targets = .ok changed
  stored : IsChangedRow change (change.existing.routingRevision + if changed then 1 else 0) row
  edited : Edited env.now row targets old new
  graph : validateProspectiveGraph new = .ok ()

/-- The definition made of the stored targets resolves to them. -/
theorem stored_of_resolves {existing : AccessPointRow} {config : Json} (howned : WellOwned store)
    (hnormal : IsNormal host targetModel (storedRouting store existing config) routing)
    {target : NormalizedRoutingTarget} (htarget : target ∈ routing.targets)
    (hresolves : Resolves freshId (store.targetsOf existing.id) providerModelIds target resolved) :
    resolved ∈ store.unremovedTargetsOf existing.id := by
  obtain ⟨candidate, hcandidate, hnormalizes⟩ := hnormal.exists_candidate htarget
  obtain ⟨row, hrow, rfl⟩ := List.mem_map.mp hcandidate
  obtain ⟨hstored, hremoved⟩ := mem_unremovedTargetsOf.mp hrow
  have hid : resolved.id = row.id := by
    refine hresolves.given row.id ?_
    rw [hnormalizes.id]
    exact Option.filter_eq_some_iff.mpr ⟨rfl, decide_eq_true (howned.ids _ hstored)⟩
  have hcurrent : (store.targetsOf existing.id).find? (·.id = resolved.id) = some row := by
    rw [hid]
    exact find?_targetsOf.mpr (Table.find?_of_mem hstored)
  obtain ⟨-, hidentity⟩ := hresolves.current row hcurrent
  obtain ⟨_, -, hnew⟩ := hresolves.eq_new
  have hstatus : resolved.status = row.status := by
    rw [hnew]
    exact hnormalizes.status
  have hposition : resolved.position = row.position := by
    rw [hnew]
    exact hnormalizes.position
  have hsame := hidentity.update hremoved hresolves.removedAt
  rw [hstatus, hposition] at hsame
  rw [← hsame]
  exact hrow

/-- Without a given routing the targets stay, which is a replacement by themselves. -/
theorem replaced_stored {now : NonEmptyText} {existing : AccessPointRow} {config : Json}
    {targetModel : String} {routing : NormalizedRoutingDefinition}
    {providerModelIds : ProviderModelIds} {targets : List ResolvedTarget}
    (howned : WellOwned store)
    (hnormal : IsNormal host targetModel (storedRouting store existing config) routing)
    (hresolved : List.Forall₂ (Resolves freshId (store.targetsOf existing.id) providerModelIds)
      routing.targets targets) :
    Replaced now existing.id targets store.targets store.targets := by
  have hstored : ∀ target ∈ targets, target ∈ store.unremovedTargetsOf existing.id := by
    intro target htarget
    obtain ⟨normalized, hmem, hresolves⟩ := Stateful.exists_of_forall₂ hresolved htarget
    exact stored_of_resolves howned hnormal hmem hresolves
  have hfind : ∀ target ∈ targets, store.targets.find? target.id = some ⟨target, existing.id⟩ :=
    fun target htarget => Table.find?_of_mem (mem_unremovedTargetsOf.mp (hstored target htarget)).1
  refine ⟨fun id => ?_, fun target htarget =>
    (mem_unremovedTargetsOf.mp (hstored target htarget)).2,
    fun target htarget row hrow => ?_, ?_⟩
  · by_cases hid : ∃ target ∈ targets, target.id = id
    · obtain ⟨target, htarget, rfl⟩ := hid
      exact .inl ⟨target, htarget, rfl, hfind target htarget⟩
    · refine .inr ⟨fun target htarget hequal => hid ⟨target, htarget, hequal⟩, ?_⟩
      cases hrow : store.targets.find? id with
      | none => rfl
      | some row =>
        obtain ⟨hmem, rfl⟩ := Table.find?_eq_some.mp hrow
        rw [Option.map_some, removedTarget_of_not]
        intro howner hremoved
        -- an unremoved target of the AccessPoint is one of the definition
        have hown : row.toResolvedTarget ∈ store.unremovedTargetsOf existing.id := by
          rw [← howner]
          exact mem_unremovedTargetsOf.mpr ⟨hmem, hremoved⟩
        obtain ⟨normalized, hnormalized, hnormalizes⟩ :=
          hnormal.exists_target (List.mem_map_of_mem hown)
        obtain ⟨target, htarget, hresolves⟩ :=
          Stateful.exists_right_of_forall₂ hresolved hnormalized
        refine hid ⟨target, htarget, hresolves.given _ ?_⟩
        rw [hnormalizes.id]
        exact Option.filter_eq_some_iff.mpr ⟨rfl, decide_eq_true (howned.ids _ hmem)⟩
  · rw [hfind target htarget] at hrow
    cases hrow
    exact ⟨rfl, (mem_unremovedTargetsOf.mp (hstored target htarget)).2, .refl target⟩
  · refine List.pairwise_of_forall_mem_list fun first _ second hsecond _ => ?_
    rw [hfind second hsecond]
    simp

theorem writeTargets_eq_ok {existing : AccessPointRow} (howned : WellOwned s.database)
    (hid : existing.id = id)
    (hrouting : changedRouting host s.database existing given targetModel = .ok routing)
    (hresolved : List.Forall₂ (Resolves freshId (s.database.targetsOf id) providerModelIds)
      routing.targets targets)
    (h : writeTargets now id given (s.database.targetsOf id) targets s = .ok (u, s')) :
    OnlyTargets s.database s'.database ∧
      Replaced now id targets s.database.targets s'.database.targets := by
  subst hid
  rcases changedRouting_eq_ok hrouting with ⟨definition, rfl, -⟩ | ⟨rfl, config, -, hnormal⟩
  · exact replaceTargets_eq_ok (agrees_of_forall₂ hresolved) h
  · obtain ⟨-, rfl⟩ := run_pure.mp h
    exact ⟨.refl _, replaced_stored howned hnormal hresolved⟩

theorem changeAccessPoint_eq_ok {command : ChangeAccessPointCommand} (howned : WellOwned s.database)
    (h : changeAccessPoint env host id command s = .ok (result, s')) :
    ∃ change targets changed row, Changed env host s.freshId id command change targets changed row
      s.database s'.database := by
  obtain ⟨store, hstore, h⟩ := run_read_bind.mp h
  obtain rfl := Except.ok.inj hstore
  obtain ⟨change, hprepare, h⟩ := run_check_bind.mp h
  obtain ⟨targets, s₁, htargets, h⟩ := run_bind.mp h
  obtain ⟨changed, hchanged, h⟩ := run_check_bind.mp h
  obtain ⟨_, s₂, hwrite, h⟩ := run_bind.mp h
  obtain ⟨row, hrow, h⟩ := run_check_bind.mp h
  obtain ⟨_, s₃, hput, h⟩ := run_bind.mp h
  obtain ⟨_, hgraph, h⟩ := run_read_bind.mp h
  obtain ⟨-, rfl⟩ := run_pure.mp h
  have hprepared := prepareChange_eq_ok hprepare
  have hrowOf := changedAccessPoint_eq_ok hrow
  have hid : change.existing.id = id := id_of_findUnremoved hprepared.existing
  obtain ⟨hresolved, hdatabase⟩ := @traverse_eq_ok _ _
    (fun freshId => Resolves freshId (s.database.targetsOf id) change.providerModelIds) _
    resolveTarget_eq_ok _ _ _ _ htargets
  rw [← hdatabase] at howned hwrite
  obtain ⟨honly, hreplaced⟩ := writeTargets_eq_ok howned hid (hdatabase ▸ hprepared.routing)
    (hdatabase ▸ hresolved) hwrite
  obtain ⟨hsets, hsame, hmodels⟩ := putAccessPoint_eq_ok hput
  rw [honly.accessPoints] at hsets
  rw [← hsame] at hreplaced
  rw [hdatabase] at hsets hreplaced
  refine ⟨change, targets, changed, row, hprepared, hresolved, hchanged, hrowOf, ⟨hsets, ?_, ?_⟩,
    hgraph⟩
  · rw [hrowOf.id, hid]
    exact hreplaced
  · rw [hmodels, honly.providerModels, hdatabase]

/-- An accepted removal: of a disabled AccessPoint that nothing refers to. -/
structure Removed (env : CommandEnvironment) (id : String) (existing : AccessPointRow)
    (old new : RoutingStore) : Prop where
  found : old.findUnremoved id = some existing
  disabled : existing.status = "disabled"
  unreferenced : ∀ row ∈ old.targets, row.targetAccessPointId = some id → row.removedAt ≠ none
  edited : Edited env.now { existing with removedAt := some env.now } [] old new

theorem assertRemovable_eq_ok {existing : AccessPointRow}
    (h : assertRemovable env store existing = .ok u) : existing.status = "disabled" ∧
      ∀ row ∈ store.targets, row.targetAccessPointId = some existing.id → row.removedAt ≠ none := by
  obtain ⟨_, -, h⟩ := bind_eq_ok.mp h
  obtain ⟨_, -, h⟩ := bind_eq_ok.mp h
  obtain ⟨_, hstatus, h⟩ := bind_eq_ok.mp h
  obtain ⟨_, hinbound, h⟩ := bind_eq_ok.mp h
  refine ⟨not_not.mp (rejectIf_eq_ok.mp hstatus), fun row hrow hrefers hremoved => ?_⟩
  exact rejectIf_eq_ok.mp hinbound ⟨row, hrow, hrefers, hremoved⟩

theorem removeTargets_eq_ok (h : removeTargets now accessPointId s = .ok (u, s')) :
    OnlyTargets s.database s'.database ∧
      Replaced now accessPointId [] s.database.targets s'.database.targets := by
  have hwrite : some { s.database with
      targets := s.database.targets.updateAll (removedTarget now accessPointId)
        (removedTarget_id now accessPointId) } = some s'.database := write_eq_ok h
  rw [← Option.some.inj hwrite]
  refine ⟨⟨rfl, rfl⟩, fun id => .inr ⟨by simp, ?_⟩, by simp, by simp, .nil⟩
  exact Table.find?_updateAll _ _ (removedTarget_id now accessPointId) id

theorem removeAccessPoint_eq_ok (h : removeAccessPoint env id s = .ok (result, s')) :
    s' = s ∨ ∃ existing, Removed env id existing s.database s'.database := by
  obtain ⟨found, hfound, h⟩ := run_read_bind.mp h
  obtain rfl := Except.ok.inj hfound
  cases hfind : s.database.accessPoints.find? id with
  | none =>
    rw [hfind] at h
    obtain ⟨herror, -⟩ := check_eq_ok.mp h
    cases herror
  | some existing =>
    rw [hfind] at h
    dsimp only at h
    split_ifs at h with hremoved
    · obtain ⟨-, rfl⟩ := run_pure.mp h
      exact .inl rfl
    · obtain ⟨_, hremovable, h⟩ := run_read_bind.mp h
      obtain ⟨_, s₁, htargets, h⟩ := run_bind.mp h
      obtain ⟨_, s₂, hput, h⟩ := run_bind.mp h
      obtain ⟨-, rfl⟩ := run_pure.mp h
      have hid : existing.id = id := Table.key_of_find? hfind
      obtain ⟨hdisabled, hinbound⟩ := assertRemovable_eq_ok hremovable
      obtain ⟨honly, hreplaced⟩ := removeTargets_eq_ok htargets
      obtain ⟨hsets, hsame, hmodels⟩ := putAccessPoint_eq_ok hput
      rw [honly.accessPoints] at hsets
      rw [← hsame] at hreplaced
      exact .inr ⟨existing, findUnremoved_eq_some.mpr ⟨hfind, not_not.mp hremoved⟩, hdisabled,
        hid ▸ hinbound, hsets, hreplaced, hmodels.trans honly.providerModels⟩

/-! ### Steps -/

/-- What a step does: nothing, or what one of the commands does when it is accepted. -/
inductive StepOf (host : CommandHost) (input : RoutingInput) (old new : RoutingStore) : Prop where
  | unchanged : new = old → StepOf host input old new
  | created {command slot admission request idempotencyKeyHash id providerModelIds targets} :
      input.command = .createAccessPoint command slot admission →
      Created input.environment host input.freshId command request idempotencyKeyHash id
        providerModelIds targets old new → StepOf host input old new
  | changed {id command change targets changed row} :
      input.command = .changeAccessPoint id command →
      Changed input.environment host input.freshId id command change targets changed row old new →
      StepOf host input old new
  | removed {id existing} : input.command = .removeAccessPoint id →
      Removed input.environment id existing old new → StepOf host input old new

theorem stepOf_routingStep (howned : WellOwned store) (input : RoutingInput) :
    StepOf host input store (routingStep host input store).2 := by
  refine commit_preserves (R := StepOf host input)
    (s := ⟨store, input.freshId, 0, input.writesLeft⟩) (.unchanged rfl) ?_
  intro result s' h
  cases hcommand : input.command with
  | createAccessPoint command slot admission =>
    rw [hcommand] at h
    rcases createAccessPointRecord_eq_ok howned h with hsame | ⟨_, _, _, _, _, hcreated⟩
    · exact .unchanged (congrArg Session.database hsame)
    · exact .created hcommand hcreated
  | changeAccessPoint id command =>
    rw [hcommand] at h
    obtain ⟨_, _, _, _, hchanged⟩ := changeAccessPoint_eq_ok howned h
    exact .changed hcommand hchanged
  | removeAccessPoint id =>
    rw [hcommand] at h
    rcases removeAccessPoint_eq_ok h with hsame | ⟨_, hremoved⟩
    · exact .unchanged (congrArg Session.database hsame)
    · exact .removed hcommand hremoved

end Frely.ModelAccess
