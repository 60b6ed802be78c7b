import Frely.ModelAccess.Equiv.Commands

/-!
# The graph that the commands keep

`run_routingGraph`: in every state that a run from an empty graph reaches, the enabled targets form
no cycle, no path of enabled AccessPoints has two fallback rules, and no target refers to a removed
AccessPoint; from one state to a later one nothing removed comes back, and an identifier keeps what
it refers to.  A step shows it by what it checks (`RoutingInv.edited`) or, for a removal, by what it
takes away (`RoutingInv.removed`).
-/

namespace Frely.ModelAccess

open Frely.Postgres Checked Transaction DepthFirst

variable {host : CommandHost} {store old new : RoutingStore}

/-! ### The graph after a step -/

variable {id : String} {target : ResolvedTarget}

namespace Edited

variable {now : NonEmptyText} {row : AccessPointRow} {targets : List ResolvedTarget}

theorem findUnremoved_self (h : Edited now row targets old new) (hrow : row.removedAt = none) :
    new.findUnremoved row.id = some row :=
  findUnremoved_eq_some.mpr ⟨h.accessPoint.find?_self, hrow⟩

theorem findUnremoved_of_ne (h : Edited now row targets old new) (hid : id ≠ row.id) :
    new.findUnremoved id = old.findUnremoved id :=
  congrArg (Option.filter _) (h.accessPoint.find?_of_ne hid)

/-- An AccessPoint that is not removed afterwards is the edited one, or was not removed before. -/
theorem findUnremoved_cases (h : Edited now row targets old new) {other : AccessPointRow}
    (hother : new.findUnremoved id = some other) :
    other = row ∧ row.removedAt = none ∨ id ≠ row.id ∧ old.findUnremoved id = some other := by
  by_cases hid : id = row.id
  · obtain ⟨hfind, hremoved⟩ := findUnremoved_eq_some.mp hother
    rw [hid] at hfind
    cases Option.some.inj (h.accessPoint.find?_self.symm.trans hfind)
    exact .inl ⟨rfl, hremoved⟩
  · exact .inr ⟨hid, (h.findUnremoved_of_ne hid).symm.trans hother⟩

/-- Where a stored target comes from. -/
theorem mem_targets_cases (h : Edited now row targets old new) {stored : AccessPointTargetRow}
    (hstored : stored ∈ new.targets) :
    (∃ target ∈ targets, stored = ⟨target, row.id⟩) ∨
      ∃ before ∈ old.targets, stored = removedTarget now row.id before := by
  have hfind := Table.find?_of_mem hstored
  rcases h.targets.find? stored.id with ⟨target, htarget, -, hnew⟩ | ⟨-, hnew⟩
  · exact .inl ⟨target, htarget, Option.some.inj (hfind.symm.trans hnew)⟩
  · obtain ⟨before, hbefore, hequal⟩ := Option.map_eq_some_iff.mp (hnew.symm.trans hfind)
    exact .inr ⟨before, Table.mem_of_find? hbefore, hequal.symm⟩

theorem mem_unremovedTargetsOf_self (h : Edited now row targets old new)
    (htarget : target ∈ new.unremovedTargetsOf row.id) : target ∈ targets := by
  obtain ⟨hstored, hremoved⟩ := mem_unremovedTargetsOf.mp htarget
  rcases h.mem_targets_cases hstored with ⟨other, hother, hequal⟩ | ⟨before, -, hequal⟩
  · cases hequal
    exact hother
  · unfold removedTarget at hequal
    split_ifs at hequal with hown
    · have hnow : target.removedAt = some now := congrArg (fun row => row.removedAt) hequal
      rw [hremoved] at hnow
      cases hnow
    · rw [← hequal] at hown
      exact absurd ⟨rfl, hremoved⟩ hown

theorem mem_unremovedTargetsOf_of_ne (h : Edited now row targets old new) (hid : id ≠ row.id) :
    target ∈ new.unremovedTargetsOf id ↔ target ∈ old.unremovedTargetsOf id := by
  rw [mem_unremovedTargetsOf, mem_unremovedTargetsOf]
  refine and_congr_left fun hremoved => ⟨fun hstored => ?_, fun hstored => ?_⟩
  · rcases h.mem_targets_cases hstored with ⟨other, -, hequal⟩ | ⟨before, hbefore, hequal⟩
    · cases hequal
      exact absurd rfl hid
    · have hother : before.accessPointId ≠ row.id := by
        intro hown
        apply hid
        unfold removedTarget at hequal
        split_ifs at hequal
        · cases hequal
          exact hown
        · rw [← hequal] at hown
          exact hown
      rw [removedTarget_of_not fun hown => absurd hown hother] at hequal
      rwa [hequal]
  · have hfind : old.targets.find? target.id = some ⟨target, id⟩ := Table.find?_of_mem hstored
    rcases h.targets.find? target.id with ⟨other, hother, hequal, -⟩ | ⟨-, hnew⟩
    · rw [← hequal] at hfind
      exact absurd (h.targets.current other hother _ hfind).1 hid
    · rw [hfind, Option.map_some, removedTarget_of_not fun hown => absurd hown hid] at hnew
      exact Table.mem_of_find? hnew

end Edited

/-! ### Drawn identifiers -/

variable {targets existing : List ResolvedTarget} {row : AccessPointRow} {freshId : Nat → String}
  {now : NonEmptyText} {input : RoutingDefinitionInput} {routing : NormalizedRoutingDefinition}
  {providerModelIds : ProviderModelIds}

/-- The identifiers that are drawn are random: none of them is in use. -/
def DrawsFresh (store : RoutingStore) (freshId : Nat → String) : Prop :=
  ∀ n, store.targets.find? ("ap_target" ++ "_" ++ freshId n) = none

theorem pairwise_of_forall₂ {α β : Type} {R : α → β → Prop} {P : α → α → Prop} {Q : β → β → Prop}
    {l : List α} {m : List β} (h : List.Forall₂ R l m) (hl : l.Pairwise P)
    (hQ : ∀ {a a' b b'}, R a b → R a' b' → P a a' → Q b b') : m.Pairwise Q := by
  induction h with
  | nil => exact .nil
  | @cons a b l m hab hrest ih =>
    rw [List.pairwise_cons] at hl ⊢
    refine ⟨fun b' hb' => ?_, ih hl.2⟩
    obtain ⟨a', ha', hab'⟩ := Stateful.exists_of_forall₂ hrest hb'
    exact hQ hab hab' (hl.1 a' ha')

/-- Targets that a definition resolves to have different identifiers: given ones differ, and a drawn
one is new, so that adding it twice fails. -/
theorem nodup_of_resolves {targetModel : String} (hfresh : DrawsFresh old freshId)
    (hnormal : IsNormal host targetModel input routing)
    (hresolved : List.Forall₂ (Resolves freshId existing providerModelIds) routing.targets targets)
    (hedited : Edited now row targets old new) : (targets.map ResolvedTarget.id).Nodup := by
  have hgiven : routing.targets.Pairwise fun first second =>
      ∀ id, first.id = some id → second.id ≠ some id := by
    have hids := hnormal.ids
    rw [List.Nodup, List.pairwise_filterMap] at hids
    exact hids.imp fun hne id hfirst hsecond => hne id hfirst id hsecond rfl
  have hdrawn : ∀ {target : NormalizedRoutingTarget} {resolved : ResolvedTarget},
      Resolves freshId existing providerModelIds target resolved →
      old.targets.find? resolved.id ≠ none → target.id = some resolved.id := by
    intro target resolved hresolves hstored
    cases hid : target.id with
    | none =>
      obtain ⟨n, hcreated⟩ := hresolves.created hid
      rw [hcreated] at hstored
      exact absurd (hfresh n) hstored
    | some id => rw [hresolves.given id hid]
  have hapart := pairwise_of_forall₂ (Q := fun first second : ResolvedTarget =>
    old.targets.find? second.id ≠ none → first.id ≠ second.id) hresolved hgiven
    (fun hfirst hsecond hne hstored hequal => hne _ (hdrawn hfirst (hequal ▸ hstored))
      (hequal ▸ hdrawn hsecond hstored))
  rw [List.Nodup, List.pairwise_map]
  refine (hapart.and hedited.targets.distinct).imp fun {first second} hboth hequal => ?_
  exact hboth.1 (hboth.2 hequal) hequal

theorem Edited.mem_unremovedTargetsOf_iff (h : Edited now row targets old new)
    (hnodup : (targets.map ResolvedTarget.id).Nodup) :
    target ∈ new.unremovedTargetsOf row.id ↔ target ∈ targets := by
  refine ⟨h.mem_unremovedTargetsOf_self, fun htarget => ?_⟩
  rcases h.targets.find? target.id with ⟨other, hother, hid, hfind⟩ | ⟨hnone, -⟩
  · obtain rfl : other = target := List.inj_on_of_nodup_map hnodup hother htarget hid
    exact mem_unremovedTargetsOf.mpr ⟨Table.mem_of_find? hfind, h.targets.unremoved other hother⟩
  · exact absurd rfl (hnone target htarget)

/-! ### The invariant -/

/-- An enabled target leads from one unremoved AccessPoint to another. -/
def EnabledTarget (store : RoutingStore) (source target : String) : Prop :=
  store.findUnremoved source ≠ none ∧ store.findUnremoved target ≠ none ∧
    ∃ edge ∈ store.unremovedTargetsOf source, edge.status = "enabled" ∧
      edge.targetType = .accessPoint ∧ edge.targetAccessPointId = some target

/-- A path of enabled AccessPoints along enabled targets. -/
structure EnabledPath (store : RoutingStore) (path : List String) : Prop where
  chain : path.IsChain (EnabledTarget store)
  enabled : ∀ id ∈ path, isEnabled store id = true

/-- Unremoved targets refer to unremoved AccessPoints. -/
def RefersToUnremoved (store : RoutingStore) : Prop :=
  ∀ row ∈ store.targets, row.removedAt = none → ∀ id, row.targetAccessPointId = some id →
    id ≠ "" ∧ store.findUnremoved id ≠ none

/-- The graph of the tables: owned, closed, acyclic, with one fallback on a path. -/
structure RoutingInv (store : RoutingStore) : Prop where
  owned : WellOwned store
  references : RefersToUnremoved store
  acyclic : Acyclic (EnabledTarget store)
  oneFallback : ∀ path, EnabledPath store path → (path.map (fallbackCount store)).sum ≤ 1

theorem mem_enabledTargetIds {target : String} :
    target ∈ enabledTargetIds store id ↔ target ≠ "" ∧ ∃ edge ∈ store.unremovedTargetsOf id,
      edge.status = "enabled" ∧ edge.targetType = .accessPoint ∧
        edge.targetAccessPointId = some target := by
  unfold enabledTargetIds truthy
  simp only [List.mem_filterMap, List.mem_filter, Option.filter_eq_some_iff, decide_eq_true_iff]
  tauto

/-- The search follows every enabled target. -/
theorem EnabledTarget.step (hreferences : RefersToUnremoved store) {source target : String}
    (h : EnabledTarget store source target) :
    Step (unremovedTargetIds store) source target ∧ target ∈ enabledTargetIds store source := by
  obtain ⟨hsource, htarget, edge, hedge, henabled, htype, hrefers⟩ := h
  obtain ⟨hstored, hremoved⟩ := mem_unremovedTargetsOf.mp hedge
  have hmem : target ∈ enabledTargetIds store source := mem_enabledTargetIds.mpr
    ⟨(hreferences _ hstored hremoved target hrefers).1, edge, hedge, henabled, htype, hrefers⟩
  refine ⟨?_, hmem⟩
  unfold Step unremovedTargetIds
  rw [if_neg hsource]
  exact List.mem_filter.mpr ⟨hmem, decide_eq_true htarget⟩

theorem isEnabled_ne_none (h : isEnabled store id = true) : store.findUnremoved id ≠ none := by
  rintro hnone
  rw [isEnabled, hnone] at h
  cases h

/-- What the check of the graph establishes. -/
theorem validateProspectiveGraph_eq_ok {u : Unit} (hreferences : RefersToUnremoved store)
    (h : validateProspectiveGraph store = .ok u) : Acyclic (EnabledTarget store) ∧
      ∀ path, EnabledPath store path → (path.map (fallbackCount store)).sum ≤ 1 := by
  obtain ⟨visited, hvisit, hcount⟩ := bind_eq_ok.mp h
  have hacyclic : Acyclic (EnabledTarget store) := by
    have hsearch : Acyclic (Step (unremovedTargetIds store)) := by
      refine acyclic_of_visit (fun source target hstep => ?_) hvisit
      apply mem_findUnremovedIds.mpr
      intro hnone
      rw [Step, unremovedTargetIds, if_pos hnone] at hstep
      cases hstep
    exact hsearch.mono fun source target hedge => (hedge.step hreferences).1
  refine ⟨hacyclic, fun path hpath => ?_⟩
  cases path with
  | nil => simp
  | cons id rest =>
    have hstart : visitFallbackCount store id = .ok () := forAll_eq_ok.mp hcount id
      (mem_findUnremovedIds.mpr (isEnabled_ne_none (hpath.enabled id List.mem_cons_self)))
    have hchain : (id :: rest).IsChain (Step (enabledTargetIds store)) :=
      hpath.chain.imp fun source target hedge => (hedge.step hreferences).2
    have hle := measure_le hstart hchain hpath.enabled (hacyclic.nodup hpath.chain) (by simp)
    rwa [Nat.zero_add] at hle

/-- A step of the search is an enabled target. -/
theorem enabledTarget_of_mem {source target : String} (hsource : store.findUnremoved source ≠ none)
    (htarget : store.findUnremoved target ≠ none) (h : target ∈ enabledTargetIds store source) :
    EnabledTarget store source target :=
  ⟨hsource, htarget, (mem_enabledTargetIds.mp h).2⟩

/-- What the check of the graph refuses: a cycle, or a path with two fallback rules. -/
theorem validateProspectiveGraph_eq_error {e : RelayError}
    (h : validateProspectiveGraph store = .error e) :
    e = accessPointCycle ∧ ¬Acyclic (EnabledTarget store) ∨
      e = multipleFallbackRules ∧ ∃ path, EnabledPath store path ∧
        1 < (path.map (fallbackCount store)).sum := by
  have hsteps : ∀ source target, Step (unremovedTargetIds store) source target →
      EnabledTarget store source target := by
    intro source target hstep
    unfold Step unremovedTargetIds at hstep
    split_ifs at hstep with hremoved
    · cases hstep
    · obtain ⟨hmem, htarget⟩ := List.mem_filter.mp hstep
      exact enabledTarget_of_mem hremoved (of_decide_eq_true htarget) hmem
  have hclosed : ∀ id ∈ findUnremovedIds store,
      unremovedTargetIds store id ⊆ findUnremovedIds store :=
    fun id _ target htarget => mem_findUnremovedIds.mpr (hsteps id target htarget).2.1
  unfold validateProspectiveGraph at h
  cases hvisit : (findUnremovedIds store).foldlM (visitCycle store) [] with
  | error e' =>
    rw [hvisit] at h
    cases h
    obtain ⟨id, hid, visited, hfail⟩ := exists_of_foldlM_eq_error hvisit
    obtain ⟨⟨_, hcycle⟩, hloop⟩ :=
      visit_eq_error hclosed (fits_start _) hid (List.isChain_singleton _) hfail
    exact .inl ⟨hcycle, fun hacyclic => hloop (hacyclic.mono hsteps)⟩
  | ok visited =>
    rw [hvisit, bind_ok] at h
    obtain ⟨id, -, hfail⟩ := exists_of_forAll_eq_error h
    obtain ⟨⟨_, hcount⟩, path, hchain, hactive, hlimit⟩ := measure_eq_error
      (fun id henabled => mem_findUnremovedIds.mpr (isEnabled_ne_none henabled)) (fits_start _)
      (by simp) (List.isChain_singleton _) (by simp) rfl hfail
    refine .inr ⟨hcount, path, ⟨?_, hactive⟩, hlimit⟩
    exact hchain.imp_of_mem_imp fun source target hsource htarget hmem =>
      enabledTarget_of_mem (isEnabled_ne_none (hactive source hsource))
        (isEnabled_ne_none (hactive target htarget)) hmem

/-- **The check of the graph is exact.** It always ends, it accepts a graph exactly when that has no
cycle and no path with two fallback rules, and its error says which of these the graph has. -/
theorem validateProspectiveGraph_exact (hreferences : RefersToUnremoved store) :
    (validateProspectiveGraph store = .ok () ↔ Acyclic (EnabledTarget store) ∧
      ∀ path, EnabledPath store path → (path.map (fallbackCount store)).sum ≤ 1) ∧
    ∀ e, validateProspectiveGraph store = .error e →
      e = accessPointCycle ∧ ¬Acyclic (EnabledTarget store) ∨
        e = multipleFallbackRules ∧ ∃ path, EnabledPath store path ∧
          1 < (path.map (fallbackCount store)).sum := by
  refine ⟨⟨validateProspectiveGraph_eq_ok hreferences, ?_⟩,
    fun e => validateProspectiveGraph_eq_error⟩
  rintro ⟨hacyclic, hpaths⟩
  cases hresult : validateProspectiveGraph store with
  | ok _ => rfl
  | error e =>
    rcases validateProspectiveGraph_eq_error hresult with ⟨-, hcycle⟩ | ⟨-, path, hpath, hlimit⟩
    · exact absurd hacyclic hcycle
    · have hle := hpaths path hpath
      omega

/-- An AccessPoint that refers to itself. -/
def selfReference : RoutingStore where
  accessPoints := Table.empty.put ⟨"ap", "", "", "", none, "", "", "", "", 0, "", "", 0, 0, 0, 0,
    "enabled", none, none, none, none⟩
  targets := Table.empty.put
    ⟨⟨"target", .accessPoint, some "ap", none, none, none, 0, "enabled", none⟩, "ap"⟩
  providerModels := .empty

theorem validateProspectiveGraph_exact_self : ¬Acyclic (EnabledTarget selfReference) := by
  have hreferences : RefersToUnremoved selfReference := by
    intro row hrow _ id hid
    obtain rfl := List.mem_singleton.mp hrow
    cases hid
    decide
  rcases (validateProspectiveGraph_exact hreferences).2 accessPointCycle (by decide) with
    ⟨-, hcycle⟩ | ⟨hcount, -⟩
  · exact hcycle
  · exact absurd hcount (by decide)

/-! ### Steps -/

/-- From one state to a later one: what is removed stays as it is, and an identifier of a target
keeps its AccessPoint and what it refers to. -/
structure Extends (old new : RoutingStore) : Prop where
  targets : ∀ row ∈ old.targets, ∃ row' ∈ new.targets, row'.accessPointId = row.accessPointId ∧
    SameIdentity row.toResolvedTarget row'.toResolvedTarget ∧ (row.removedAt ≠ none → row' = row)
  accessPoints : ∀ row ∈ old.accessPoints, ∃ row' ∈ new.accessPoints, row'.id = row.id ∧
    (row.removedAt ≠ none → row' = row)

theorem Extends.refl (store : RoutingStore) : Extends store store :=
  ⟨fun row hrow => ⟨row, hrow, rfl, .refl _, fun _ => rfl⟩,
    fun row hrow => ⟨row, hrow, rfl, fun _ => rfl⟩⟩

theorem Extends.trans {store₁ store₂ store₃ : RoutingStore} (h : Extends store₁ store₂)
    (h' : Extends store₂ store₃) : Extends store₁ store₃ := by
  constructor
  · intro row hrow
    obtain ⟨row₂, hrow₂, howner, hidentity, hkept⟩ := h.targets row hrow
    obtain ⟨row₃, hrow₃, howner', hidentity', hkept'⟩ := h'.targets row₂ hrow₂
    refine ⟨row₃, hrow₃, howner'.trans howner, hidentity.trans hidentity', fun hremoved => ?_⟩
    cases hkept hremoved
    exact hkept' hremoved
  · intro row hrow
    obtain ⟨row₂, hrow₂, hid, hkept⟩ := h.accessPoints row hrow
    obtain ⟨row₃, hrow₃, hid', hkept'⟩ := h'.accessPoints row₂ hrow₂
    refine ⟨row₃, hrow₃, hid'.trans hid, fun hremoved => ?_⟩
    cases hkept hremoved
    exact hkept' hremoved

theorem removedTarget_extends (now : NonEmptyText) (accessPointId : String)
    (row : AccessPointTargetRow) :
    (removedTarget now accessPointId row).accessPointId = row.accessPointId ∧
      SameIdentity row.toResolvedTarget (removedTarget now accessPointId row).toResolvedTarget ∧
      (row.removedAt ≠ none → removedTarget now accessPointId row = row) := by
  unfold removedTarget
  split_ifs with hown
  · exact ⟨rfl, ⟨rfl, rfl, rfl, rfl, rfl, rfl⟩, fun hremoved => absurd hown.2 hremoved⟩
  · exact ⟨rfl, .refl _, fun _ => rfl⟩

section Edits

variable {now : NonEmptyText} {row : AccessPointRow} {targets : List ResolvedTarget}

/-- An edit of an AccessPoint that was not removed. -/
theorem Edited.extends (h : Edited now row targets old new)
    (hcurrent : ∀ current, old.accessPoints.find? row.id = some current →
      current.removedAt = none) :
    Extends old new := by
  constructor
  · intro before hbefore
    have hfind : old.targets.find? before.id = some before := Table.find?_of_mem hbefore
    rcases h.targets.find? before.id with ⟨target, htarget, hid, hnew⟩ | ⟨-, hnew⟩
    · rw [← hid] at hfind
      obtain ⟨howner, hremoved, hidentity⟩ := h.targets.current target htarget before hfind
      exact ⟨_, Table.mem_of_find? hnew, howner.symm, hidentity, fun hne => absurd hremoved hne⟩
    · rw [hfind] at hnew
      exact ⟨_, Table.mem_of_find? hnew, removedTarget_extends now row.id before⟩
  · intro before hbefore
    by_cases hid : before.id = row.id
    · refine ⟨row, Table.mem_of_find? h.accessPoint.find?_self, hid.symm, fun hremoved => ?_⟩
      exact absurd (hcurrent before (hid ▸ Table.find?_of_mem hbefore)) hremoved
    · refine ⟨before, h.accessPoint.mem_iff.mpr (.inr ⟨hbefore, hid⟩), rfl, fun _ => rfl⟩

theorem Edited.owned (h : Edited now row targets old new) (howned : WellOwned old)
    (hids : ∀ target ∈ targets, target.id ≠ "") : WellOwned new := by
  have hstored : ∀ id, old.accessPoints.find? id ≠ none → new.accessPoints.find? id ≠ none := by
    intro id hid
    rw [h.accessPoint id]
    split_ifs
    · simp
    · exact hid
  constructor
  · intro stored hmem
    rcases h.mem_targets_cases hmem with ⟨target, htarget, rfl⟩ | ⟨before, hbefore, rfl⟩
    · exact hids target htarget
    · rw [removedTarget_id]
      exact howned.ids before hbefore
  · intro stored hmem
    rcases h.mem_targets_cases hmem with ⟨target, htarget, rfl⟩ | ⟨before, hbefore, rfl⟩
    · exact ne_of_eq_of_ne h.accessPoint.find?_self (by simp)
    · rw [(removedTarget_extends now row.id before).1]
      exact hstored _ (howned.owners before hbefore)

/-- References stay valid: those of the edited AccessPoint were checked, and the others refer to
an AccessPoint that was there and is not the removed one. -/
theorem Edited.references (h : Edited now row targets old new) (hold : RefersToUnremoved old)
    (hchecked : ∀ target ∈ targets, ∀ id, target.targetAccessPointId = some id →
      id ≠ "" ∧ (id = row.id ∨ old.findUnremoved id ≠ none))
    (hrow : row.removedAt = none ∨ ∀ stored ∈ new.targets, stored.removedAt = none →
      stored.targetAccessPointId ≠ some row.id) :
    RefersToUnremoved new := by
  intro stored hstored hremoved id hrefers
  have hbefore : id ≠ "" ∧ (id = row.id ∨ old.findUnremoved id ≠ none) := by
    rcases h.mem_targets_cases hstored with ⟨target, htarget, rfl⟩ | ⟨before, hbefore, rfl⟩
    · exact hchecked target htarget id hrefers
    · obtain ⟨-, hidentity, hkept⟩ := removedTarget_extends now row.id before
      have hsame : before.removedAt = none := by
        by_contra hne
        rw [hkept hne] at hremoved
        exact hne hremoved
      rw [← hidentity.targetAccessPointId] at hrefers
      obtain ⟨hne, hfound⟩ := hold before hbefore hsame id hrefers
      exact ⟨hne, .inr hfound⟩
  refine ⟨hbefore.1, ?_⟩
  by_cases hid : id = row.id
  · rcases hrow with hrow | hunreferenced
    · rw [hid, h.findUnremoved_self hrow]
      simp
    · rw [hid] at hrefers
      exact absurd hrefers (hunreferenced stored hstored hremoved)
  · rw [h.findUnremoved_of_ne hid]
    exact hbefore.2.resolve_left hid

end Edits

variable {env : CommandEnvironment}

/-- What the targets of an accepted definition were checked for. -/
theorem checked_of_resolves {targetModel : String} {source : RoutingSource}
    (hnormal : IsNormal host targetModel input routing)
    (hvalid : validateRoutingTargets env old source routing.targets = .ok providerModelIds)
    (hresolved : List.Forall₂ (Resolves freshId existing providerModelIds) routing.targets targets)
    {resolved : ResolvedTarget} (hmem : resolved ∈ targets) :
    resolved.id ≠ "" ∧ ∀ id, resolved.targetAccessPointId = some id →
      id ≠ "" ∧ old.findUnremoved id ≠ none := by
  obtain ⟨target, htarget, hresolves⟩ := Stateful.exists_of_forall₂ hresolved hmem
  obtain ⟨candidate, -, hnormalizes⟩ := hnormal.exists_candidate htarget
  obtain ⟨_, -, hnew⟩ := hresolves.eq_new
  constructor
  · cases hid : target.id with
    | some id =>
      rw [hresolves.given id hid]
      rw [hnormalizes.id] at hid
      exact of_decide_eq_true (Option.filter_eq_some_iff.mp hid).2
    | none =>
      obtain ⟨n, hcreated⟩ := hresolves.created hid
      rw [hcreated]
      simp
  · intro id hrefers
    have hrefers : target.targetAccessPointId = some id := by
      rw [hnew] at hrefers
      exact hrefers
    have hreference := (hnormal.normalTarget htarget).reference
    cases htype : target.type with
    | providerModel =>
      rw [(hreference.providerModel htype).1] at hrefers
      cases hrefers
    | accessPoint =>
      obtain ⟨⟨id', hid', hne⟩, -⟩ := hreference.accessPoint htype
      cases hid'.symm.trans hrefers
      obtain ⟨row, hfound, -⟩ := (validateRoutingTargets_eq_ok hvalid).1 target htarget htype
      rw [hrefers, Option.getD_some] at hfound
      exact ⟨hne, by simp [hfound]⟩

variable {command : ChangeAccessPointCommand}

theorem Changed.exists_normal {change : PreparedChange} {changed : Bool}
    (h : Changed env host freshId id command change targets changed row old new) :
    ∃ targetModel input, IsNormal host targetModel input change.routing := by
  rcases changedRouting_eq_ok h.prepared.routing with ⟨definition, -, hnormal⟩ | ⟨-, _, -, hnormal⟩
  · exact ⟨_, definition, hnormal⟩
  · exact ⟨_, _, hnormal⟩

theorem Changed.removedAt {change : PreparedChange} {changed : Bool}
    (h : Changed env host freshId id command change targets changed row old new) :
    row.id = id ∧ row.removedAt = none ∧ old.accessPoints.find? row.id = some change.existing := by
  obtain ⟨hfind, hremoved⟩ := findUnremoved_eq_some.mp h.prepared.existing
  have hid : row.id = id := h.stored.id.trans (Table.key_of_find? hfind)
  exact ⟨hid, h.stored.removedAt.trans hremoved, hid ▸ hfind⟩

/-- A step that checked the graph it leaves. -/
theorem RoutingInv.edited (h : RoutingInv old) (hedited : Edited now row targets old new)
    (hrow : row.removedAt = none)
    (hchecked : ∀ target ∈ targets, target.id ≠ "" ∧ ∀ id, target.targetAccessPointId = some id →
      id ≠ "" ∧ old.findUnremoved id ≠ none)
    (hgraph : validateProspectiveGraph new = .ok ()) : RoutingInv new := by
  have hreferences : RefersToUnremoved new := hedited.references h.references
    (fun target htarget id hid => ⟨((hchecked target htarget).2 id hid).1,
      .inr ((hchecked target htarget).2 id hid).2⟩) (.inl hrow)
  obtain ⟨hacyclic, hfallback⟩ := validateProspectiveGraph_eq_ok hreferences hgraph
  exact ⟨hedited.owned h.owned fun target htarget => (hchecked target htarget).1, hreferences,
    hacyclic, hfallback⟩

/-- A removal takes away an AccessPoint that nothing refers to, and with it its targets. -/
theorem RoutingInv.removed {env : CommandEnvironment} {id : String} {existing : AccessPointRow}
    (h : RoutingInv old) (hremoved : Removed env id existing old new) : RoutingInv new := by
  have hid : existing.id = id := id_of_findUnremoved hremoved.found
  have hedited := hremoved.edited
  have hreferences : RefersToUnremoved new := by
    refine hedited.references h.references (by simp) (.inr fun stored hstored hunremoved => ?_)
    rcases hedited.mem_targets_cases hstored with ⟨_, hnil, -⟩ | ⟨before, hbefore, rfl⟩
    · cases hnil
    · obtain ⟨-, hidentity, hkept⟩ := removedTarget_extends env.now existing.id before
      intro hrefers
      have hbeforeRemoved := hremoved.unreferenced before hbefore
        (hidentity.targetAccessPointId.trans (hid ▸ hrefers))
      have hsame := hkept hbeforeRemoved
      rw [hsame] at hunremoved
      exact hbeforeRemoved hunremoved
  -- what is not removed afterwards was there before, unchanged
  have hfound : ∀ {key row}, new.findUnremoved key = some row →
      key ≠ existing.id ∧ old.findUnremoved key = some row := by
    intro key row hrow
    rcases hedited.findUnremoved_cases hrow with ⟨-, hnow⟩ | hother
    · cases hnow
    · exact hother
  have hedge : ∀ source target, EnabledTarget new source target →
      EnabledTarget old source target := by
    rintro source target ⟨hsource, htarget, edge, hedge, hproperties⟩
    obtain ⟨row, hrow⟩ := Option.ne_none_iff_exists'.mp hsource
    obtain ⟨row', hrow'⟩ := Option.ne_none_iff_exists'.mp htarget
    obtain ⟨hne, hbefore⟩ := hfound hrow
    refine ⟨by simp [hbefore], by simp [(hfound hrow').2], edge, ?_, hproperties⟩
    exact (hedited.mem_unremovedTargetsOf_of_ne hne).mp hedge
  refine ⟨hedited.owned h.owned (by simp), hreferences, h.acyclic.mono hedge, fun path hpath => ?_⟩
  have hsame : ∀ key ∈ path, new.findUnremoved key = old.findUnremoved key := by
    intro key hkey
    obtain ⟨row, hrow⟩ := Option.ne_none_iff_exists'.mp (isEnabled_ne_none (hpath.enabled key hkey))
    exact hrow.trans (hfound hrow).2.symm
  have hbefore : EnabledPath old path := by
    refine ⟨hpath.chain.imp hedge, fun key hkey => ?_⟩
    rw [isEnabled, ← hsame key hkey]
    exact hpath.enabled key hkey
  have hcounts : path.map (fallbackCount new) = path.map (fallbackCount old) := by
    refine List.map_congr_left fun key hkey => ?_
    rw [fallbackCount, fallbackCount, hsame key hkey]
  rw [hcounts]
  exact h.oneFallback path hbefore

theorem StepOf.routingInv {input : RoutingInput} (hinv : RoutingInv old)
    (h : StepOf host input old new) : RoutingInv new ∧ Extends old new := by
  cases h with
  | unchanged hsame =>
    subst hsame
    exact ⟨hinv, .refl new⟩
  | created hcommand hcreated =>
    refine ⟨hinv.edited hcreated.edited rfl (fun target htarget => checked_of_resolves
      hcreated.routing hcreated.valid hcreated.resolved htarget) hcreated.graph, ?_⟩
    refine hcreated.edited.extends fun current hcurrent => ?_
    cases hcreated.fresh.symm.trans hcurrent
  | changed hcommand hchanged =>
    obtain ⟨targetModel, definition, hnormal⟩ := hchanged.exists_normal
    obtain ⟨-, hrow, hexisting⟩ := hchanged.removedAt
    refine ⟨hinv.edited hchanged.edited hrow (fun target htarget => checked_of_resolves
      hnormal hchanged.prepared.valid hchanged.resolved htarget) hchanged.graph, ?_⟩
    refine hchanged.edited.extends fun current hcurrent => ?_
    cases hexisting.symm.trans hcurrent
    exact (findUnremoved_eq_some.mp hchanged.prepared.existing).2
  | removed hcommand hremoved =>
    refine ⟨hinv.removed hremoved, hremoved.edited.extends fun current hcurrent => ?_⟩
    obtain ⟨hfind, hunremoved⟩ := findUnremoved_eq_some.mp hremoved.found
    have hsame := Table.find?_of_mem (Table.mem_of_find? hfind)
    cases hsame.symm.trans hcurrent
    exact hunremoved

/-! ### Runs -/

/-- A graph without AccessPoints. -/
def emptyRoutingStore (providerModels : Table RoutingGraphProviderModel) : RoutingStore where
  accessPoints := .empty
  targets := .empty
  providerModels := providerModels

theorem routingInv_empty (providerModels : Table RoutingGraphProviderModel) :
    RoutingInv (emptyRoutingStore providerModels) where
  owned := ⟨fun _ h => absurd h (Table.not_mem_empty _), fun _ h =>
    absurd h (Table.not_mem_empty _)⟩
  references := fun _ h => absurd h (Table.not_mem_empty _)
  acyclic := by
    intro id hloop
    obtain ⟨target, hedge, -⟩ := Relation.TransGen.head'_iff.mp hloop
    exact hedge.1 rfl
  oneFallback := by
    intro path hpath
    cases path with
    | nil => simp
    | cons id rest => exact absurd rfl (isEnabled_ne_none (hpath.enabled id List.mem_cons_self))

theorem routingInv_final {start : RoutingStore} (hstart : RoutingInv start)
    (inputs : List RoutingInput) : RoutingInv (Machine.final (routingStep host) start inputs) :=
  @Machine.invariant_final _ _ _ (routingStep host) RoutingInv
    (fun input _ hinv => (StepOf.routingInv hinv (stepOf_routingStep hinv.owned input)).1) start
    hstart inputs

theorem extends_final {start : RoutingStore} (hstart : RoutingInv start)
    (inputs : List RoutingInput) :
    Extends start (Machine.final (routingStep host) start inputs) := by
  induction inputs generalizing start with
  | nil => exact .refl start
  | cons input inputs ih =>
    obtain ⟨hinv, hextends⟩ := StepOf.routingInv hstart (stepOf_routingStep hstart.owned input)
    exact hextends.trans (ih hinv)

/-- **The graph of a run.** In every state there is no cycle of enabled targets, at most one
fallback rule on a path of enabled AccessPoints, and no unremoved target that refers to a removed
AccessPoint; and later states extend it. -/
theorem run_routingGraph (host : CommandHost) (providerModels : Table RoutingGraphProviderModel)
    (inputs later : List RoutingInput) :
    let start := emptyRoutingStore providerModels
    let store := Machine.final (routingStep host) start inputs
    Acyclic (EnabledTarget store) ∧
      (∀ path, EnabledPath store path → (path.map (fallbackCount store)).sum ≤ 1) ∧
      (∀ row ∈ store.targets, row.removedAt = none → ∀ id, row.targetAccessPointId = some id →
        store.findUnremoved id ≠ none) ∧
      Extends store (Machine.final (routingStep host) start (inputs ++ later)) := by
  intro start store
  have hinv : RoutingInv store := routingInv_final (routingInv_empty providerModels) inputs
  refine ⟨hinv.acyclic, hinv.oneFallback,
    fun row hrow hremoved id hid => (hinv.references row hrow hremoved id hid).2, ?_⟩
  rw [Machine.final_append]
  exact extends_final hinv later

end Frely.ModelAccess
