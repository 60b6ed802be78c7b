import Frely.ModelAccess.Equiv.RoutingRevision
import Frely.ModelAccess.RoutingQueries

/-!
# Loading the reachable graph loses nothing

The compiler never looks at an AccessPoint that lies more than the allowed number of hops from the
entry, and of an AccessPoint it reads only the enabled targets.  `Loaded` ties what it sees in the
whole graph to what it sees in the loaded one, at a depth; `loadedPlan_same` says that both
compilations come to the same plan or to errors of one code, unless a budget stops them, and that
the evaluation finds every status.
-/

namespace Frely.ModelAccess

open Checked Frely.ProviderManagement StableSort Stateful

variable {host : Host}

/-! ### Budgets -/

variable {error : RelayError} {budget : GraphCompilationBudget} {id : String}

/-- The budget stops the work.  A configuration of an unsafe size is over every limit. -/
def IsExhausted (error : RelayError) : Prop :=
  error.code = "graph_compilation_capacity_exceeded" ∨ error.code = "request_aborted" ∨
    error.code = "routing_graph_snapshot_invalid"

/-- Two errors that a caller cannot tell apart. -/
def SameCode (error other : RelayError) : Prop := error.code = other.code

theorem sameCode_refl (error : RelayError) : SameCode error error := rfl

/-- Two compilations come to related results, or to errors of one code, unless a budget stops
them. -/
abbrev Alike {α β : Type} (R : α → β → Prop) (x : Budgeted α) (y : Budgeted β) : Prop :=
  RunAlike IsExhausted SameCode R x y

theorem isExhausted_of_assertWithin {consumed : Nat} {limit : Int}
    (h : assertWithin consumed limit = .error error) : IsExhausted error := by
  obtain ⟨-, rfl⟩ := rejectIf_eq_error.mp h
  exact .inl rfl

theorem isExhausted_of_checked (h : budget.checked = .error error) : IsExhausted error := by
  unfold GraphCompilationBudget.checked at h
  rcases bind_eq_error.mp h with h | ⟨_, -, h⟩
  · obtain ⟨-, rfl⟩ := rejectIf_eq_error.mp h
    exact .inr (.inl rfl)
  rcases bind_eq_error.mp h with h | ⟨_, -, h⟩
  · obtain ⟨-, rfl⟩ := rejectIf_eq_error.mp h
    exact .inl rfl
  · cases h

theorem isExhausted_of_withNode {bytes : Nat} (h : budget.withNode id bytes = .error error) :
    IsExhausted error := by
  unfold GraphCompilationBudget.withNode at h
  split_ifs at h
  rcases bind_eq_error.mp h with h | ⟨_, -, h⟩
  · obtain ⟨-, rfl⟩ := rejectIf_eq_error.mp h
    exact .inr (.inr rfl)
  rcases bind_eq_error.mp h with h | ⟨_, -, h⟩
  · exact isExhausted_of_assertWithin h
  rcases bind_eq_error.mp h with h | ⟨_, -, h⟩
  · exact isExhausted_of_assertWithin h
  · cases h

theorem isExhausted_of_withEdge (h : budget.withEdge id = .error error) : IsExhausted error := by
  unfold GraphCompilationBudget.withEdge at h
  split_ifs at h
  rcases bind_eq_error.mp h with h | ⟨_, -, h⟩
  · exact isExhausted_of_assertWithin h
  · cases h

theorem isExhausted_of_checkpoint (h : checkpoint budget = .error error) : IsExhausted error :=
  isExhausted_of_checked (change_eq_error h)

theorem isExhausted_of_visitNode {bytes : Nat} (h : visitNode id bytes budget = .error error) :
    IsExhausted error := by
  rcases run_bind_error h with h | ⟨_, _, -, h⟩
  · exact isExhausted_of_checkpoint h
  · exact isExhausted_of_withNode (change_eq_error h)

theorem isExhausted_of_visitEdge (h : visitEdge id budget = .error error) : IsExhausted error := by
  rcases run_bind_error h with h | ⟨_, _, -, h⟩
  · exact isExhausted_of_checkpoint h
  · exact isExhausted_of_withEdge (change_eq_error h)

theorem alike_checkpoint : Alike Eq checkpoint checkpoint :=
  runAlike_change (fun _ _ => isExhausted_of_checked) fun _ _ => isExhausted_of_checked

theorem alike_visitNode (id : String) (bytes : Nat) :
    Alike Eq (visitNode id bytes) (visitNode id bytes) := by
  refine alike_checkpoint.bind fun _ _ _ => ?_
  exact runAlike_change (fun _ _ => isExhausted_of_withNode) fun _ _ => isExhausted_of_withNode

theorem alike_visitEdge (id : String) : Alike Eq (visitEdge id) (visitEdge id) := by
  refine alike_checkpoint.bind fun _ _ _ => ?_
  exact runAlike_change (fun _ _ => isExhausted_of_withEdge) fun _ _ => isExhausted_of_withEdge

theorem alike_check {α : Type} (result : Except RelayError α) :
    Alike Eq (check result) (check result) :=
  runAlike_check sameCode_refl result

/-! ### Rules -/

variable {whole part accessPoint : RoutingGraphAccessPoint} {targets : List RoutingGraphTarget}

/-- A target that the compiler reads. -/
def isReadTarget (target : RoutingGraphTarget) : Bool :=
  target.status = "enabled" ∧ truthy target.removedAt = none

/-- An AccessPoint without the targets that are not enabled. -/
structure Pruned (whole part : RoutingGraphAccessPoint) : Prop where
  id : part.id = whole.id
  exposedModel : part.exposedModel = whole.exposedModel
  targetModel : part.targetModel = whole.targetModel
  routingRuleId : part.routingRuleId = whole.routingRuleId
  behaviorVersion : part.routingRuleBehaviorVersion = whole.routingRuleBehaviorVersion
  configJson : part.routingRuleConfigJson = whole.routingRuleConfigJson
  routingRevision : part.routingRevision = whole.routingRevision
  removedAt : part.removedAt = whole.removedAt
  targets : part.targets.Perm (whole.targets.filter isReadTarget)

theorem Pruned.enabledTargets_perm (h : Pruned whole part) :
    (enabledTargets host part).Perm (enabledTargets host whole) := by
  have hpart : (part.targets.filter isReadTarget).Perm part.targets := by
    refine .of_eq (List.filter_eq_self.mpr fun target hmem => ?_)
    exact (List.mem_filter.mp (h.targets.mem_iff.mp hmem)).2
  exact (perm_sortBy _).trans ((hpart.trans h.targets).trans (perm_sortBy _).symm)

/-- The order of targets in different positions does not depend on how they are stored. -/
theorem Pruned.enabledTargets_eq (h : Pruned whole part)
    (hnodup : ((enabledTargets host whole).map RoutingGraphTarget.position).Nodup) :
    enabledTargets host part = enabledTargets host whole := by
  have hperm : (enabledTargets host part).Perm (enabledTargets host whole) := h.enabledTargets_perm
  have hsorted : ∀ accessPoint : RoutingGraphAccessPoint,
      ((enabledTargets host accessPoint).map RoutingGraphTarget.position).Nodup →
      (enabledTargets host accessPoint).Pairwise fun a b => a.position < b.position := by
    intro accessPoint haccessPoint
    refine pairwise_sortBy_of_nodup ?_
    exact ((perm_sortBy _).map RoutingGraphTarget.position).nodup_iff.mp haccessPoint
  refine List.Perm.eq_of_pairwise ?_ (hsorted part ?_) (hsorted whole hnodup) hperm
  · intro a b _ _ hab hba
    omega
  · exact (hperm.map RoutingGraphTarget.position).nodup_iff.mpr hnodup

theorem checkTargets_error {positions : List Int}
    (h : checkTargets accessPoint positions targets budget = .error error) :
    IsExhausted error ∨ error.code = "invalid_access_point_routing" := by
  induction targets generalizing positions budget with
  | nil => cases h
  | cons target rest ih =>
    rcases run_bind_error h with h | ⟨_, _, -, h⟩
    · exact .inl (isExhausted_of_visitEdge h)
    rcases run_bind_error h with h | ⟨_, _, -, h⟩
    · obtain ⟨-, rfl⟩ := rejectIf_eq_error.mp (check_eq_error h)
      exact .inr rfl
    rcases run_bind_error h with h | ⟨_, _, -, h⟩
    · have hshape := check_eq_error h
      unfold validateTargetShape at hshape
      split at hshape
      · obtain ⟨-, rfl⟩ := rejectIf_eq_error.mp hshape
        exact .inr rfl
      · obtain ⟨-, rfl⟩ := rejectIf_eq_error.mp hshape
        exact .inr rfl
    · exact ih h

theorem alike_checkTargets (hid : part.id = whole.id) (targets : List RoutingGraphTarget)
    (positions : List Int) :
    Alike Eq (checkTargets whole positions targets) (checkTargets part positions targets) := by
  induction targets generalizing positions with
  | nil => exact runAlike_pure rfl
  | cons target rest ih =>
    unfold checkTargets
    rw [hid]
    refine (alike_visitEdge target.id).bind fun _ _ _ => ?_
    refine (alike_check _).bind fun _ _ _ => ?_
    refine (alike_check _).bind fun _ _ _ => ?_
    exact ih (target.position :: positions)

/-- Targets that share a position are refused in whatever order. -/
theorem checkTargets_fails {α : Type} (hnodup : ¬(targets.map RoutingGraphTarget.position).Nodup)
    (rest : Unit → Budgeted α) (budget : GraphCompilationBudget) :
    ∃ error, (checkTargets accessPoint [] targets >>= rest) budget = .error error ∧
      (IsExhausted error ∨ error.code = "invalid_access_point_routing") := by
  cases hrun : checkTargets accessPoint [] targets budget with
  | ok result =>
    obtain ⟨u, budget'⟩ := result
    exact absurd (checkTargets_eq_ok hrun).2 hnodup
  | error error =>
    refine ⟨error, ?_, checkTargets_error hrun⟩
    change (checkTargets accessPoint [] targets budget >>= fun p => rest p.1 p.2) = _
    rw [hrun]
    rfl

theorem alike_compileRule (h : Pruned whole part) :
    Alike (fun rule other => other = rule ∧ rule.targets = enabledTargets host whole)
      (compileRule host whole) (compileRule host part) := by
  unfold compileRule
  rw [h.id, h.removedAt, h.configJson]
  refine (alike_check _).bind fun _ _ _ => ?_
  refine (alike_visitNode _ _).bind fun _ _ _ => ?_
  by_cases hnodup : ((enabledTargets host whole).map RoutingGraphTarget.position).Nodup
  · have hparse : parseConfig host part = parseConfig host whole := by
      unfold parseConfig
      rw [h.id, h.configJson]
    have hconfig : compileConfig part = compileConfig whole := by
      funext configInput count
      unfold compileConfig
      rw [h.routingRuleId, h.behaviorVersion]
    rw [h.enabledTargets_eq hnodup, hparse, hconfig]
    refine (alike_checkTargets h.id _ []).bind fun _ _ _ => ?_
    refine (alike_check _).bind fun configInput _ hinput => ?_
    subst hinput
    refine (alike_check _).bind fun config _ hcompiled => ?_
    subst hcompiled
    exact runAlike_pure ⟨rfl, rfl⟩
  · have hpart : ¬((enabledTargets host part).map RoutingGraphTarget.position).Nodup := by
      rw [(h.enabledTargets_perm.map RoutingGraphTarget.position).nodup_iff]
      exact hnodup
    refine runAlike_of_fails (checkTargets_fails hnodup _) (checkTargets_fails hpart _) ?_
    exact fun error other herror hother => herror.trans hother.symm

/-! ### What is loaded -/

variable {plan : CompiledRoutingPlan} {budget' : GraphCompilationBudget}
  {candidate : CompiledRoutingCandidate}

section Graphs

variable {db : RoutingDatabase} {entry : String}

theorem enabledRows_mem {target : ResolvedTarget} :
    target ∈ db.enabledRows id ↔ target ∈ db.store.targetsOf id ∧ target.status = "enabled" ∧
      target.removedAt = none := by
  rw [RoutingDatabase.enabledRows, List.mem_filter, decide_eq_true_eq]

theorem reachableRow_targets_perm (row : AccessPointRow) :
    (db.reachableRow row).targets.Perm (db.enabledRows row.id) := by
  refine List.Perm.trans (.of_eq (List.filter_eq_self.mpr fun target hmem => ?_)) (perm_sortBy _)
  have hstored := (enabledRows_mem.mp (mem_sortBy.mp hmem)).1
  exact decide_eq_true (db.targetIds _ (mem_targetsOf.mp hstored))

theorem isReadTarget_graphTarget (target : ResolvedTarget) :
    isReadTarget (graphTarget target) =
      decide (target.status = "enabled" ∧ target.removedAt = none) :=
  decide_eq_decide.mpr (and_congr_right fun _ => truthy_nonEmpty target.removedAt)

theorem pruned_reachableRow (row : AccessPointRow) :
    Pruned (graphAccessPoint db.store row) (db.reachableRow row).graphAccessPoint := by
  refine ⟨rfl, rfl, rfl, rfl, rfl, rfl, rfl, rfl, ?_⟩
  have hread : ((db.store.targetsOf row.id).map graphTarget).filter isReadTarget =
      (db.enabledRows row.id).map graphTarget := by
    rw [List.filter_map]
    refine congrArg (List.map graphTarget) (List.filter_congr fun target _ => ?_)
    exact isReadTarget_graphTarget target
  exact ((reachableRow_targets_perm row).map graphTarget).trans (.of_eq hread.symm)

theorem downstreamOf_eq_some {target : ResolvedTarget} :
    db.downstreamOf target = some id ↔ target.targetType = .accessPoint ∧
      target.targetAccessPointId = some id ∧ (db.store.findUnremoved id).isSome = true := by
  unfold RoutingDatabase.downstreamOf
  cases target.targetType with
  | providerModel => simp
  | accessPoint => simp [Option.filter_eq_some_iff]

variable {depth : Nat}

theorem findUnremoved_of_reachable (h : id ∈ db.reachableAt entry depth) :
    (db.store.findUnremoved id).isSome = true := by
  cases depth with
  | zero =>
    rw [RoutingDatabase.reachableAt] at h
    split_ifs at h with hentry
    · rw [List.mem_singleton.mp h]
      exact hentry
    · cases h
  | succ depth =>
    rw [RoutingDatabase.reachableAt, List.mem_dedup] at h
    obtain ⟨source, -, htarget⟩ := List.mem_flatMap.mp h
    obtain ⟨target, -, hdownstream⟩ := List.mem_filterMap.mp htarget
    exact (downstreamOf_eq_some.mp hdownstream).2.2

theorem mem_reachableIds : id ∈ db.reachableIds entry ↔
    ∃ depth < maxAccessPointToAccessPointHops + 2, id ∈ db.reachableAt entry depth := by
  rw [RoutingDatabase.reachableIds, List.mem_dedup, List.mem_flatMap]
  simp only [List.mem_range]

theorem mem_readReachableRoutingRows {row : ReachableRow} :
    row ∈ db.readReachableRoutingRows entry ↔ ∃ accessPoint ∈ db.accessPoints,
      accessPoint.id ∈ db.reachableIds entry ∧ db.reachableRow accessPoint = row := by
  rw [RoutingDatabase.readReachableRoutingRows, List.mem_map]
  simp only [mem_sortBy, List.mem_filter, decide_eq_true_eq, and_assoc]
  rfl

/-- The graph that is loaded. -/
def loadedGraph (host : Host) (db : RoutingDatabase) (entry : String) : RoutingGraphSnapshot :=
  (loadedRoutingGraph host db entry).graph

theorem find?_loadedGraph {row : AccessPointRow} (hrow : row ∈ db.accessPoints)
    (hreachable : row.id ∈ db.reachableIds entry) :
    (loadedGraph host db entry).accessPoints.find? row.id =
      some (db.reachableRow row).graphAccessPoint :=
  Table.find?_eq_some.mpr ⟨List.mem_map_of_mem
    (mem_readReachableRoutingRows.mpr ⟨row, hrow, hreachable, rfl⟩), rfl⟩

theorem find?_loadedGraph_none (h : db.store.findUnremoved id = none) :
    (loadedGraph host db entry).accessPoints.find? id = none := by
  refine Table.find?_eq_none.mpr fun accessPoint hmem hkey => ?_
  obtain ⟨row, hrow, rfl⟩ := List.mem_map.mp hmem
  obtain ⟨stored, -, hreachable, rfl⟩ := mem_readReachableRoutingRows.mp hrow
  obtain ⟨depth, -, hdepth⟩ := mem_reachableIds.mp hreachable
  have hsome := findUnremoved_of_reachable hdepth
  have hid : stored.id = id := hkey
  rw [hid, h] at hsome
  cases hsome

/-- An AccessPoint of the whole graph that is not removed, and what is loaded of it, at a depth
below the entry. -/
structure Loaded (db : RoutingDatabase) (entry : String) (depth : Nat)
    (whole part : RoutingGraphAccessPoint) : Prop where
  exists_row : ∃ row, db.store.findUnremoved row.id = some row ∧
    row.id ∈ db.reachableAt entry depth ∧ whole = graphAccessPoint db.store row ∧
      part = (db.reachableRow row).graphAccessPoint

theorem Loaded.pruned (h : Loaded db entry depth whole part) : Pruned whole part := by
  obtain ⟨row, -, -, rfl, rfl⟩ := h.exists_row
  exact pruned_reachableRow row

/-- An identifier is required of both graphs. -/
theorem alike_requireAccessPoint {depth : Nat}
    (hdepth : depth < maxAccessPointToAccessPointHops + 2)
    {id : String} (hreachable : ∀ row, db.store.findUnremoved id = some row →
      row.id ∈ db.reachableAt entry depth) :
    (∃ whole part, requireAccessPoint db.store.graph id = .ok whole ∧
      requireAccessPoint (loadedGraph host db entry) id = .ok part ∧
        Loaded db entry depth whole part) ∨
    ∃ error, requireAccessPoint db.store.graph id = .error error ∧
      requireAccessPoint (loadedGraph host db entry) id = .error error := by
  cases hunremoved : db.store.findUnremoved id with
  | none =>
    refine .inr ⟨⟨"access_point_target_not_found", s!"AccessPoint {id} not found", 404⟩, ?_, ?_⟩
    · -- the whole graph may have the row as a removed one
      unfold requireAccessPoint
      cases hfind : db.store.graph.accessPoints.find? id with
      | none => rfl
      | some accessPoint =>
        obtain ⟨row, hrow, rfl⟩ := List.mem_map.mp (Table.mem_of_find? hfind)
        have hid : row.id = id := Table.key_of_find? hfind
        have hremoved : row.removedAt ≠ none := by
          intro hnone
          have hstored : db.store.accessPoints.find? id = some row := by
            rw [← hid]
            exact Table.find?_of_mem hrow
          have hfound := findUnremoved_eq_some.mpr ⟨hstored, hnone⟩
          rw [hunremoved] at hfound
          cases hfound
        have htruthy : truthy (graphAccessPoint db.store row).removedAt ≠ none :=
          fun hnone => hremoved ((truthy_nonEmpty row.removedAt).mp hnone)
        dsimp only
        rw [rejectIf_of htruthy]
        rfl
    · unfold requireAccessPoint
      rw [find?_loadedGraph_none hunremoved]
  | some row =>
    obtain ⟨hfind, hnone⟩ := findUnremoved_eq_some.mp hunremoved
    have hid : row.id = id := Table.key_of_find? hfind
    have hrow : row ∈ db.accessPoints := Table.mem_of_find? hfind
    have hdeep := hreachable row hunremoved
    have hloaded : (loadedGraph host db entry).accessPoints.find? id =
        some (db.reachableRow row).graphAccessPoint := by
      rw [← hid]
      exact find?_loadedGraph hrow (mem_reachableIds.mpr ⟨depth, hdepth, hdeep⟩)
    have hwhole : db.store.graph.accessPoints.find? id = some (graphAccessPoint db.store row) :=
      Table.find?_eq_some.mpr ⟨List.mem_map_of_mem hrow, hid⟩
    have htruthy : truthy (row.removedAt.map Subtype.val) = none :=
      (truthy_nonEmpty row.removedAt).mpr hnone
    refine .inl ⟨_, _, ?_, ?_, ⟨row, hid ▸ hunremoved, hdeep, rfl, rfl⟩⟩
    · unfold requireAccessPoint
      rw [hwhole]
      exact Checked.bind_eq_ok.mpr ⟨(), rejectIf_of_not (not_not.mpr htruthy), rfl⟩
    · unfold requireAccessPoint
      rw [hloaded]
      exact Checked.bind_eq_ok.mpr ⟨(), rejectIf_of_not (not_not.mpr htruthy), rfl⟩

/-! ### Hops -/

variable {target : RoutingGraphTarget}

/-- A target that the compiler reads is a stored one that the query reads. -/
theorem exists_row_of_enabledTarget {row : AccessPointRow}
    (h : target ∈ enabledTargets host (graphAccessPoint db.store row)) :
    ∃ stored ∈ db.enabledRows row.id, graphTarget stored = target := by
  obtain ⟨hmem, hread⟩ := List.mem_filter.mp (mem_sortBy.mp h)
  obtain ⟨stored, hstored, rfl⟩ := List.mem_map.mp hmem
  have hread := (isReadTarget_graphTarget stored).symm.trans hread
  exact ⟨stored, enabledRows_mem.mpr ⟨hstored, of_decide_eq_true hread⟩, rfl⟩

/-- A hop leads to the same AccessPoint in both graphs, one level deeper, or to the same error. -/
theorem alike_hop (h : Loaded db entry depth whole part)
    (hdepth : depth < maxAccessPointToAccessPointHops + 1)
    (htarget : target ∈ enabledTargets host whole) (htype : target.type = .accessPoint) :
    Alike (Loaded db entry (depth + 1))
      (check (requireTargetAccessPoint db.store.graph whole target))
      (check (requireTargetAccessPoint (loadedGraph host db entry) part target)) := by
  have hmodel := h.pruned.targetModel
  obtain ⟨row, -, hreachable, rfl, rfl⟩ := h.exists_row
  obtain ⟨stored, hstored, rfl⟩ := exists_row_of_enabledTarget htarget
  unfold requireTargetAccessPoint
  rw [hmodel]
  cases hid : truthy (graphTarget stored).targetAccessPointId with
  | none => exact runAlike_check_error (sameCode_refl _)
  | some id =>
    have hdeeper : ∀ next, db.store.findUnremoved id = some next →
        next.id ∈ db.reachableAt entry (depth + 1) := by
      intro next hnext
      have hkey : next.id = id := id_of_findUnremoved hnext
      rw [RoutingDatabase.reachableAt, List.mem_dedup, List.mem_flatMap]
      refine ⟨row.id, hreachable, List.mem_filterMap.mpr ⟨stored, hstored, ?_⟩⟩
      rw [hkey]
      exact downstreamOf_eq_some.mpr ⟨htype, truthy_eq_some hid, by rw [hnext]; rfl⟩
    dsimp only
    rcases @alike_requireAccessPoint host db entry (depth + 1) (by omega) id hdeeper with
      ⟨whole, part, hwhole, hpart, hloaded⟩ | ⟨error, hwhole, hpart⟩
    · rw [hwhole, hpart, bind_ok, bind_ok, hloaded.pruned.exposedModel, hloaded.pruned.id]
      by_cases hexposed : whole.exposedModel ≠ (graphAccessPoint db.store row).targetModel
      · rw [rejectIf_of hexposed]
        exact runAlike_check_error (sameCode_refl _)
      · rw [rejectIf_of_not hexposed]
        exact runAlike_check_ok hloaded
    · rw [hwhole, hpart]
      exact runAlike_check_error (sameCode_refl _)

theorem mem_readProviderModelBatch {ids : List String} {row : RoutingProviderModelSqlRow} :
    row ∈ db.readProviderModelBatch ids ↔ ∃ model ∈ db.providerModels, model.id ∈ ids ∧
      ∃ provider, db.providers.find? model.providerId = some provider ∧
        row = ⟨model, provider,
          (db.bindings.find? provider.id).map ProviderBinding.syncStatus⟩ := by
  rw [RoutingDatabase.readProviderModelBatch, List.mem_filterMap]
  simp only [mem_sortBy, List.mem_filter, decide_eq_true_eq, Option.map_eq_some_iff]
  constructor
  · rintro ⟨model, ⟨hmem, hid⟩, provider, hprovider, rfl⟩
    exact ⟨model, hmem, hid, provider, hprovider, rfl⟩
  · rintro ⟨model, hmem, hid, provider, hprovider, rfl⟩
    exact ⟨model, ⟨hmem, hid⟩, provider, hprovider, rfl⟩

/-- The identifiers of the batch. -/
def batchIds (db : RoutingDatabase) (entry : String) : List String :=
  ((db.readReachableRoutingRows entry).flatMap ReachableRow.providerModelIds).dedup

/-- A provider model of the batch is found in the loaded graph exactly if it is stored. -/
theorem find?_loadedProviderModel (hid : id ∈ batchIds db entry) :
    (loadedGraph host db entry).providerModels.find? id =
      db.store.graph.providerModels.find? id := by
  cases hfind : db.store.graph.providerModels.find? id with
  | none =>
    refine Table.find?_eq_none.mpr fun model hmem hkey => ?_
    obtain ⟨row, hrow, rfl⟩ := List.mem_map.mp hmem
    obtain ⟨stored, hstored, -, provider, -, rfl⟩ := mem_readProviderModelBatch.mp hrow
    exact Table.find?_eq_none.mp hfind (graphProviderModel stored) (List.mem_map_of_mem hstored)
      hkey
  | some found =>
    obtain ⟨model, hmodel, rfl⟩ := List.mem_map.mp (Table.mem_of_find? hfind)
    have hkey : model.id = id := Table.key_of_find? hfind
    obtain ⟨provider, hprovider⟩ := Option.isSome_iff_exists.mp (db.providerOf model hmodel)
    refine Table.find?_eq_some.mpr ⟨?_, hkey⟩
    have hrow := mem_readProviderModelBatch.mpr
      ⟨model, hmodel, hkey ▸ hid, provider, hprovider, rfl⟩
    exact List.mem_map.mpr ⟨_, hrow, rfl⟩

theorem providerModel_same (h : Loaded db entry depth whole part)
    (hdepth : depth < maxAccessPointToAccessPointHops + 1)
    (htarget : target ∈ enabledTargets host whole) (htype : target.type = .providerModel) :
    requireProviderModel (loadedGraph host db entry) part target =
      requireProviderModel db.store.graph whole target := by
  have hmodel := h.pruned.targetModel
  obtain ⟨row, hunremoved, hreachable, rfl, rfl⟩ := h.exists_row
  obtain ⟨stored, hstored, rfl⟩ := exists_row_of_enabledTarget htarget
  unfold requireProviderModel
  rw [hmodel]
  cases hid : truthy (graphTarget stored).targetProviderModelId with
  | none => rfl
  | some id =>
    have hrow : db.reachableRow row ∈ db.readReachableRoutingRows entry := by
      refine mem_readReachableRoutingRows.mpr ⟨row, ?_, ?_, rfl⟩
      · exact Table.mem_of_find? (findUnremoved_eq_some.mp hunremoved).1
      · exact mem_reachableIds.mpr ⟨depth, by omega, hreachable⟩
    have hbatch : id ∈ batchIds db entry := by
      refine List.mem_dedup.mpr (List.mem_flatMap.mpr ⟨_, hrow, List.mem_filterMap.mpr ?_⟩)
      refine ⟨stored, (reachableRow_targets_perm row).mem_iff.mpr hstored, ?_⟩
      have hstoredType : stored.targetType = .providerModel := htype
      rw [hstoredType]
      exact hid
    dsimp only
    rw [find?_loadedProviderModel hbatch]

/-! ### Compilation -/

variable {other selector : RoutingGraphAccessPoint} {hops : Nat}
  {visited others : List RoutingGraphAccessPoint} {edgeIds : List String}
  {selectorTarget : RoutingGraphTarget}

/-- Two chains of the same AccessPoints. -/
def SameChain (whole part : List RoutingGraphAccessPoint) : Prop :=
  part.map (fun accessPoint =>
      (⟨accessPoint.id, accessPoint.routingRevision⟩ : CompiledRoutingRevisionExpectation)) =
    whole.map fun accessPoint => ⟨accessPoint.id, accessPoint.routingRevision⟩

theorem SameChain.ids {whole part : List RoutingGraphAccessPoint} (h : SameChain whole part) :
    part.map RoutingGraphAccessPoint.id = whole.map RoutingGraphAccessPoint.id := by
  have hids := congrArg (List.map CompiledRoutingRevisionExpectation.accessPointId) h
  rw [List.map_map, List.map_map] at hids
  exact hids

theorem SameChain.concat {whole part : List RoutingGraphAccessPoint} (h : SameChain whole part)
    (hpruned : Pruned accessPoint other) :
    SameChain (whole ++ [accessPoint]) (part ++ [other]) := by
  unfold SameChain at h ⊢
  rw [List.map_append, List.map_append, h, List.map_singleton, List.map_singleton, hpruned.id,
    hpruned.routingRevision]

/-- The search has come to one selector in both graphs. -/
structure SamePath (host : Host) (db : RoutingDatabase) (entry : String)
    (whole part : SelectorPath) : Prop where
  selector : Loaded db entry (whole.accessPointChain.length - 1) whole.selector part.selector
  chain : SameChain whole.accessPointChain part.accessPointChain
  nonempty : 0 < whole.accessPointChain.length
  short : whole.accessPointChain.length ≤ maxAccessPointToAccessPointHops + 1
  length : part.accessPointChain.length = whole.accessPointChain.length
  edges : part.targetEdgeIds = whole.targetEdgeIds
  rule : part.rule = whole.rule
  targets : whole.rule.targets = enabledTargets host whole.selector

/-- One round of the search: it ends, or goes on after a hop. -/
theorem alike_findSelectorFrom_round {hops : Nat} {visited others : List RoutingGraphAccessPoint}
    {edgeIds : List String} {whole part : RoutingGraphAccessPoint}
    (hloaded : Loaded db entry visited.length whole part) (hchain : SameChain visited others)
    (hlength : others.length = visited.length)
    (hhops : visited.length + hops = maxAccessPointToAccessPointHops)
    (hnext : ∀ hops', hops = hops' + 1 → ∀ edgeIds whole' part',
      Loaded db entry (visited.length + 1) whole' part' →
      Alike (SamePath host db entry)
        (findSelectorFrom host db.store.graph hops' (visited ++ [whole]) edgeIds whole')
        (findSelectorFrom host (loadedGraph host db entry) hops' (others ++ [part]) edgeIds
          part')) :
    Alike (SamePath host db entry)
      (findSelectorFrom host db.store.graph hops visited edgeIds whole)
      (findSelectorFrom host (loadedGraph host db entry) hops others edgeIds part) := by
  unfold findSelectorFrom
  rw [hloaded.pruned.id, hchain.ids, hloaded.pruned.routingRuleId]
  refine alike_checkpoint.bind fun _ _ _ => ?_
  refine (alike_check _).bind fun _ _ _ => ?_
  refine (alike_compileRule hloaded.pruned).bind fun rule other hrule => ?_
  obtain ⟨rfl, htargets⟩ := hrule
  have hend : SamePath host db entry ⟨whole, visited ++ [whole], edgeIds, other⟩
      ⟨part, others ++ [part], edgeIds, other⟩ := by
    refine ⟨?_, hchain.concat hloaded.pruned, by simp, ?_, by simp [hlength], rfl, rfl, htargets⟩
    · simpa using hloaded
    · rw [List.length_append, List.length_singleton]
      omega
  -- the search ends at a selector, at a provider model, or goes on after a hop
  by_cases hordered : whole.routingRuleId = "ordered-fallback"
  · rw [if_pos hordered, if_pos hordered]
    exact runAlike_pure hend
  rw [if_neg hordered, if_neg hordered]
  cases hfirst : other.targets with
  | nil => exact runAlike_check_error (sameCode_refl _)
  | cons target rest =>
    have hmem : target ∈ enabledTargets host whole := by
      rw [← htargets, hfirst]
      exact List.mem_cons_self
    dsimp only
    cases htype : target.type with
    | providerModel => exact runAlike_pure hend
    | accessPoint =>
      cases hops with
      | zero => exact runAlike_check_error (sameCode_refl _)
      | succ hops =>
        refine (alike_hop hloaded (by omega) hmem htype).bind fun whole' part' hdeeper => ?_
        exact hnext hops rfl (edgeIds ++ [target.id]) whole' part' hdeeper

theorem alike_findSelectorFrom (hloaded : Loaded db entry visited.length whole part)
    (hchain : SameChain visited others) (hlength : others.length = visited.length)
    (hhops : visited.length + hops = maxAccessPointToAccessPointHops) :
    Alike (SamePath host db entry)
      (findSelectorFrom host db.store.graph hops visited edgeIds whole)
      (findSelectorFrom host (loadedGraph host db entry) hops others edgeIds part) := by
  induction hops generalizing visited others edgeIds whole part with
  | zero => exact alike_findSelectorFrom_round hloaded hchain hlength hhops nofun
  | succ hops ih =>
    refine alike_findSelectorFrom_round hloaded hchain hlength hhops ?_
    intro hops' heq edgeIds' whole' part' hdeeper
    obtain rfl : hops = hops' := by omega
    have hgrown : (visited ++ [whole]).length = visited.length + 1 := List.length_append
    refine ih (hgrown ▸ hdeeper) (hchain.concat hloaded.pruned) ?_ ?_
    · rw [List.length_append, List.length_append, hlength]
      rfl
    · omega

/-- One round on the way to a provider model. -/
theorem alike_compileCandidateFrom_round {selector other : RoutingGraphAccessPoint}
    (hselector : other.id = selector.id) {selectorTarget : RoutingGraphTarget} {hops : Nat}
    {visited others : List RoutingGraphAccessPoint} {edgeIds : List String}
    {whole part : RoutingGraphAccessPoint} {target : RoutingGraphTarget} {depth : Nat}
    (hloaded : Loaded db entry depth whole part) (hchain : SameChain visited others)
    (hhops : depth + hops = maxAccessPointToAccessPointHops)
    (htarget : target ∈ enabledTargets host whole)
    (hnext : ∀ hops', hops = hops' + 1 → ∀ edgeIds whole' part' next,
      Loaded db entry (depth + 1) whole' part' → next ∈ enabledTargets host whole' →
      Alike Eq
        (compileCandidateFrom host db.store.graph selector selectorTarget hops'
          (visited ++ [whole']) edgeIds whole' next)
        (compileCandidateFrom host (loadedGraph host db entry) other selectorTarget hops'
          (others ++ [part']) edgeIds part' next)) :
    Alike Eq
      (compileCandidateFrom host db.store.graph selector selectorTarget hops visited edgeIds whole
        target)
      (compileCandidateFrom host (loadedGraph host db entry) other selectorTarget hops others
        edgeIds part target) := by
  unfold compileCandidateFrom
  refine alike_checkpoint.bind fun _ _ _ => ?_
  dsimp only
  cases htype : target.type with
  | providerModel =>
    dsimp only
    rw [providerModel_same hloaded (by omega) htarget htype]
    refine (alike_check _).bind fun model model' hmodel => ?_
    subst hmodel
    refine runAlike_pure ?_
    unfold compiledCandidate
    rw [hselector, hchain.ids, hchain]
  | accessPoint =>
    cases hops with
    | zero => exact runAlike_check_error (sameCode_refl _)
    | succ hops =>
      -- the part of the graph holds the next AccessPoint as long as there is a hop left
      refine (alike_hop hloaded (by omega) htarget htype).bind fun whole' part' hdeeper => ?_
      rw [hdeeper.pruned.id, hchain.ids, hdeeper.pruned.routingRuleId]
      refine (alike_check _).bind fun _ _ _ => ?_
      refine (alike_compileRule hdeeper.pruned).bind fun rule rule' hrule => ?_
      obtain ⟨rfl, htargets⟩ := hrule
      refine (alike_check _).bind fun _ _ _ => ?_
      cases hfirst : rule'.targets with
      | nil => exact runAlike_check_error (sameCode_refl _)
      | cons next rest =>
        refine hnext hops rfl _ whole' part' next hdeeper ?_
        rw [← htargets, hfirst]
        exact List.mem_cons_self

theorem alike_compileCandidateFrom (hselector : other.id = selector.id)
    (hloaded : Loaded db entry depth whole part) (hchain : SameChain visited others)
    (hhops : depth + hops = maxAccessPointToAccessPointHops)
    (htarget : target ∈ enabledTargets host whole) :
    Alike Eq
      (compileCandidateFrom host db.store.graph selector selectorTarget hops visited edgeIds whole
        target)
      (compileCandidateFrom host (loadedGraph host db entry) other selectorTarget hops others
        edgeIds part target) := by
  induction hops generalizing visited others edgeIds whole part target depth with
  | zero => exact alike_compileCandidateFrom_round hselector hloaded hchain hhops htarget nofun
  | succ hops ih =>
    refine alike_compileCandidateFrom_round hselector hloaded hchain hhops htarget ?_
    intro hops' heq edgeIds' whole' part' next hdeeper hmem
    obtain rfl : hops = hops' := by omega
    exact ih hdeeper (hchain.concat hdeeper.pruned) (by omega) hmem

/-- **Both compilations come to the same.** -/
theorem alike_compileRoutingPlan (requestedModel : String) :
    Alike Eq (compileRoutingPlan host ⟨entry, requestedModel, db.store.graph⟩)
      (compileRoutingPlan host ⟨entry, requestedModel, loadedGraph host db entry⟩) := by
  have hreachable : ∀ row, db.store.findUnremoved entry = some row →
      row.id ∈ db.reachableAt entry 0 := by
    intro row hrow
    rw [RoutingDatabase.reachableAt, hrow, id_of_findUnremoved hrow]
    exact List.mem_singleton_self entry
  unfold compileRoutingPlan
  refine alike_checkpoint.bind fun _ _ _ => ?_
  dsimp only
  rcases @alike_requireAccessPoint host db entry 0 (by decide) entry hreachable with
    ⟨whole, part, hwhole, hpart, hloaded⟩ | ⟨error, hwhole, hpart⟩
  · rw [hwhole, hpart]
    refine (runAlike_check_ok hloaded).bind fun whole part hloaded => ?_
    rw [hloaded.pruned.exposedModel, hloaded.pruned.id]
    refine (alike_check _).bind fun _ _ _ => ?_
    refine (alike_findSelectorFrom hloaded rfl rfl rfl).bind fun path other hpath => ?_
    have hpruned := hpath.selector.pruned
    have htargets : List.Forall₂ (fun target target' => target' = target ∧
      target ∈ path.rule.targets)
        path.rule.targets other.rule.targets := by
      rw [hpath.rule]
      exact List.forall₂_same.mpr fun target hmem => ⟨rfl, hmem⟩
    have hround : ∀ target target', target' = target ∧ target ∈ path.rule.targets →
        Alike Eq (compileCandidate host db.store.graph path target)
          (compileCandidate host (loadedGraph host db entry) other target') := by
      rintro target _ ⟨rfl, hmem⟩
      have hshort := hpath.short
      have hnonempty := hpath.nonempty
      unfold compileCandidate
      rw [hpath.edges, hpath.length]
      refine alike_compileCandidateFrom hpruned.id hpath.selector hpath.chain (by omega) ?_
      rw [← hpath.targets]
      exact hmem
    refine (runAlike_traverse hround htargets).bind fun candidates candidates' hcandidates => ?_
    rw [List.forall₂_eq_eq_eq] at hcandidates
    refine runAlike_pure ?_
    rw [hcandidates, hpruned.id, hpruned.routingRuleId, hpruned.behaviorVersion, hpath.rule,
      hpruned.routingRevision]
  · rw [hwhole, hpart]
    exact (runAlike_check_error (sameCode_refl _)).bind fun _ _ h => absurd h id

/-! ### Availability -/

/-- Where all rows of a key agree, the map holds what they say. -/
theorem lastValue_eq {ρ α : Type} {rows : List ρ} {key : ρ → String} {value : ρ → Option α} {a : α}
    (hexists : ∃ row ∈ rows, key row = id ∧ value row = some a)
    (hall : ∀ row ∈ rows, key row = id → ∀ b, value row = some b → b = a) :
    lastValue rows key value id = some a := by
  obtain ⟨row, hrow, hkey, hvalue⟩ := hexists
  have hmem : a ∈ rows.filterMap fun row => if key row = id then value row else none :=
    List.mem_filterMap.mpr ⟨row, hrow, by rw [if_pos hkey, hvalue]⟩
  unfold lastValue
  cases hlast : (rows.filterMap fun row => if key row = id then value row else none).getLast? with
  | none =>
    rw [List.getLast?_eq_none_iff] at hlast
    rw [hlast] at hmem
    cases hmem
  | some b =>
    obtain ⟨other, hother, hread⟩ := List.mem_filterMap.mp (List.mem_of_getLast? hlast)
    split_ifs at hread with hkey
    rw [hall other hother hkey b hread]

/-- The statuses that the evaluation of a candidate asks for are there, as they are stored. -/
structure FindsStatuses (db : RoutingDatabase) (availability : RoutingAvailabilitySnapshot)
    (candidate : CompiledRoutingCandidate) : Prop where
  accessPoints : ∀ id ∈ candidate.accessPointChainIds, ∃ row,
    db.accessPoints.find? id = some row ∧ availability.accessPointStatuses id = some row.status
  provider : ∃ row, db.providers.find? candidate.providerId = some row ∧
    availability.providerStatuses candidate.providerId = some row.status.text
  providerModel : ∃ row, db.providerModels.find? candidate.providerModelId = some row ∧
    availability.providerModelStatuses candidate.providerModelId = some row.status.text

theorem accessPointStatus_loaded (h : accessPoint ∈ (loadedGraph host db entry).accessPoints) :
    ∃ row, db.accessPoints.find? accessPoint.id = some row ∧
      (loadedRoutingGraph host db entry).availability.accessPointStatuses accessPoint.id =
        some row.status := by
  obtain ⟨row, hrow, rfl⟩ := List.mem_map.mp h
  obtain ⟨stored, hstored, hreachable, rfl⟩ := mem_readReachableRoutingRows.mp hrow
  have hfind : db.accessPoints.find? stored.id = some stored := Table.find?_of_mem hstored
  refine ⟨stored, hfind, lastValue_eq ⟨_, hrow, rfl, rfl⟩ ?_⟩
  intro other hother hkey status hstatus
  obtain ⟨stored', hstored', -, rfl⟩ := mem_readReachableRoutingRows.mp hother
  have hsame : stored' = stored := by
    have hfind' := Table.find?_of_mem hstored'
    have hid : Keyed.key stored' = stored.id := hkey
    rw [hid] at hfind'
    exact Option.some.inj (hfind'.symm.trans hfind)
  rw [hsame] at hstatus
  exact (Option.some.inj hstatus).symm

theorem providerStatuses_loaded {model : RoutingGraphProviderModel}
    (h : model ∈ (loadedGraph host db entry).providerModels) :
    (∃ row, db.providers.find? model.providerId = some row ∧
      (loadedRoutingGraph host db entry).availability.providerStatuses model.providerId =
        some row.status.text) ∧
    ∃ row, db.providerModels.find? model.id = some row ∧
      (loadedRoutingGraph host db entry).availability.providerModelStatuses model.id =
        some row.status.text := by
  obtain ⟨row, hrow, rfl⟩ := List.mem_map.mp h
  obtain ⟨stored, hstored, -, provider, hprovider, rfl⟩ := mem_readProviderModelBatch.mp hrow
  have hkey : provider.id = stored.providerId := Table.key_of_find? hprovider
  have hfind : db.providerModels.find? stored.id = some stored := Table.find?_of_mem hstored
  refine ⟨⟨provider, hprovider, lastValue_eq ⟨_, hrow, hkey, rfl⟩ ?_⟩,
    stored, hfind, lastValue_eq ⟨_, hrow, rfl, rfl⟩ ?_⟩
  · intro other hother hid status hstatus
    obtain ⟨stored', -, -, provider', hprovider', rfl⟩ := mem_readProviderModelBatch.mp hother
    have hkey' : provider'.id = stored'.providerId := Table.key_of_find? hprovider'
    have hid : provider'.id = stored.providerId := hid
    rw [← hkey', hid, hprovider] at hprovider'
    rw [← Option.some.inj hprovider'] at hstatus
    exact (Option.some.inj hstatus).symm
  · intro other hother hid status hstatus
    obtain ⟨stored', hstored', -, provider', -, rfl⟩ := mem_readProviderModelBatch.mp hother
    have hfind' := Table.find?_of_mem hstored'
    have hid : Keyed.key stored' = stored.id := hid
    rw [hid, hfind] at hfind'
    rw [← Option.some.inj hfind'] at hstatus
    exact (Option.some.inj hstatus).symm

/-- A plan of the loaded graph only uses what is loaded. -/
theorem findsStatuses_of_plan {requestedModel : String}
    (h : compileRoutingPlan host ⟨entry, requestedModel, loadedGraph host db entry⟩ budget =
      .ok (plan, budget'))
    (hcandidate : candidate ∈ plan.candidates) :
    FindsStatuses db (loadedRoutingGraph host db entry).availability candidate := by
  obtain ⟨-, -, selector, rule, hplan⟩ := compileRoutingPlan_returns h
  obtain ⟨target, -, path, rfl, -⟩ := exists_of_forall₂ hplan.candidates hcandidate
  obtain ⟨hprovider, hmodel⟩ := providerStatuses_loaded path.target
  refine ⟨?_, hprovider, hmodel⟩
  intro id hid
  obtain ⟨accessPoint, hmem, rfl⟩ := List.mem_map.mp hid
  exact accessPointStatus_loaded (path.inGraph accessPoint hmem).1

end Graphs

/-! ### Evaluation -/

variable {db : RoutingDatabase} {availability : RoutingAvailabilitySnapshot}
  {attempts : List SelectorAttemptResult}

theorem disabledAccessPoint_returns {availability : RoutingAvailabilitySnapshot} {ids : List String}
    (h : ∀ id ∈ ids, ∃ status, availability.accessPointStatuses id = some status) :
    ∃ disabled, disabledAccessPoint availability ids = .ok disabled := by
  induction ids with
  | nil => exact ⟨none, rfl⟩
  | cons id rest ih =>
    obtain ⟨status, hstatus⟩ := h id List.mem_cons_self
    have hrequired : requiredAvailability availability.accessPointStatuses id "AccessPoint" =
        .ok status := by
      unfold requiredAvailability
      rw [hstatus]
    unfold disabledAccessPoint
    rw [hrequired, bind_ok]
    split_ifs
    · exact ⟨some id, rfl⟩
    · exact ih fun other hmem => h other (List.mem_cons_of_mem _ hmem)

theorem FindsStatuses.reason (h : FindsStatuses db availability candidate) :
    ∃ reason, candidateUnavailableReason candidate availability = .ok reason := by
  obtain ⟨disabled, hdisabled⟩ := @disabledAccessPoint_returns availability
    candidate.accessPointChainIds fun id hid => by
      obtain ⟨row, -, hstatus⟩ := h.accessPoints id hid
      exact ⟨row.status, hstatus⟩
  obtain ⟨provider, -, hprovider⟩ := h.provider
  obtain ⟨model, -, hmodel⟩ := h.providerModel
  unfold candidateUnavailableReason
  rw [hdisabled, bind_ok]
  cases disabled with
  | some id => exact ⟨_, rfl⟩
  | none =>
    unfold providerUnavailableReason requiredAvailability
    simp only [hprovider, hmodel, bind_ok]
    split_ifs
    · exact ⟨_, rfl⟩
    · exact ⟨_, rfl⟩
    · exact ⟨_, rfl⟩
    · exact ⟨_, rfl⟩

theorem isExhausted_ne_incomplete (h : IsExhausted error) :
    error.code ≠ "routing_availability_snapshot_incomplete" := by
  intro hcode
  unfold IsExhausted at h
  rw [hcode] at h
  revert h
  decide

theorem selectNextRoutingCandidate_code {candidates : List EvaluatedRoutingCandidate}
    (h : selectNextRoutingCandidate host plan candidates attempts = .error error) :
    error.code ≠ "routing_availability_snapshot_incomplete" := by
  unfold selectNextRoutingCandidate at h
  rcases bind_eq_error.mp h with h | ⟨_, -, h⟩
  · obtain ⟨-, rfl⟩ := rejectIf_eq_error.mp h
    simp
  rcases bind_eq_error.mp h with h | ⟨_, -, h⟩
  · obtain ⟨_, -, h⟩ := exists_of_forAll_eq_error h
    obtain ⟨-, rfl⟩ := rejectIf_eq_error.mp h
    simp
  rcases bind_eq_error.mp h with h | ⟨_, -, h⟩
  · obtain ⟨message, -, rfl⟩ := mapError_eq_error.mp h
    simp
  rcases bind_eq_error.mp h with h | ⟨_, -, h⟩
  · obtain ⟨-, rfl⟩ := rejectIf_eq_error.mp h
    simp
  · cases h

/-- The evaluation does not miss a status. -/
theorem evaluateRouting_code
    (hfinds : ∀ candidate ∈ plan.candidates, FindsStatuses db availability candidate)
    (h : evaluateRouting host plan availability attempts budget = .error error) :
    error.code ≠ "routing_availability_snapshot_incomplete" := by
  rcases run_bind_error h with h | ⟨_, _, -, h⟩
  · exact isExhausted_ne_incomplete (isExhausted_of_checkpoint h)
  rcases run_bind_error h with h | ⟨_, _, -, h⟩
  · obtain ⟨candidate, hmem, _, h⟩ := traverse_eq_error h
    rcases run_bind_error h with h | ⟨_, _, -, h⟩
    · refine isExhausted_ne_incomplete ?_
      rcases run_bind_error h with h | ⟨_, _, -, h⟩
      · exact isExhausted_of_checkpoint h
      · unfold GraphCompilationBudget.withCandidate at h
        rcases bind_eq_error.mp (change_eq_error h) with h | ⟨_, -, h⟩
        · exact isExhausted_of_assertWithin h
        · cases h
    rcases run_bind_error h with h | ⟨_, _, -, h⟩
    · obtain ⟨reason, hreason⟩ := (hfinds candidate hmem).reason
      have hfailed := check_eq_error h
      rw [hreason] at hfailed
      cases hfailed
    · cases h
  rcases run_bind_error h with h | ⟨_, _, -, h⟩
  · exact selectNextRoutingCandidate_code (check_eq_error h)
  · cases h

/-! ### Loading -/

theorem loadReachableRoutingGraph_eq_ok {entry : String} {loaded : LoadedRoutingGraph}
    (h : loadReachableRoutingGraph host db entry budget = .ok (loaded, budget')) :
    loaded = loadedRoutingGraph host db entry := by
  obtain ⟨_, _, -, h⟩ := run_bind.mp h
  obtain ⟨_, _, -, h⟩ := run_bind.mp h
  obtain ⟨_, _, -, h⟩ := run_bind.mp h
  exact (run_pure.mp h).1

/-- Loading only fails when the budget stops it. -/
theorem loadReachableRoutingGraph_eq_error {entry : String}
    (h : loadReachableRoutingGraph host db entry budget = .error error) : IsExhausted error := by
  rcases run_bind_error h with h | ⟨_, _, -, h⟩
  · exact isExhausted_of_checkpoint h
  rcases run_bind_error h with h | ⟨_, _, -, h⟩
  · obtain ⟨row, -, _, h⟩ := traverse_eq_error h
    rcases run_bind_error h with h | ⟨_, _, -, h⟩
    · exact isExhausted_of_visitNode h
    rcases run_bind_error h with h | ⟨_, _, -, h⟩
    · obtain ⟨target, -, _, h⟩ := traverse_eq_error h
      exact isExhausted_of_visitEdge h
    · cases h
  rcases run_bind_error h with h | ⟨_, _, -, h⟩
  · exact isExhausted_of_checkpoint h
  · cases h

/-- **Loading only the reachable graph loses nothing.**  Unless a budget stops one of them, the
compilation of the loaded graph and that of the whole stored graph return one plan, or fail with one
code; and the evaluation of the plan finds every status in what is loaded, as it is stored. -/
theorem compileReachable_same (host : Host) (db : RoutingDatabase)
    (entryAccessPointId requestedModel : String) (budget budget' : GraphCompilationBudget)
    (hloaded : ∀ error, compileReachable host db entryAccessPointId requestedModel budget =
      .error error → ¬IsExhausted error)
    (hwhole : ∀ error, compileRoutingPlan host ⟨entryAccessPointId, requestedModel, db.store.graph⟩
      budget' = .error error → ¬IsExhausted error) :
    (∃ loaded plan after after',
      compileReachable host db entryAccessPointId requestedModel budget =
        .ok ((loaded, plan), after) ∧
      compileRoutingPlan host ⟨entryAccessPointId, requestedModel, db.store.graph⟩ budget' =
        .ok (plan, after') ∧
      (∀ candidate ∈ plan.candidates, FindsStatuses db loaded.availability candidate) ∧
      ∀ attempts evaluationBudget error,
        evaluateRouting host plan loaded.availability attempts evaluationBudget = .error error →
          error.code ≠ "routing_availability_snapshot_incomplete") ∨
    ∃ error error',
      compileReachable host db entryAccessPointId requestedModel budget = .error error ∧
      compileRoutingPlan host ⟨entryAccessPointId, requestedModel, db.store.graph⟩ budget' =
        .error error' ∧
      error.code = error'.code := by
  cases hload : loadReachableRoutingGraph host db entryAccessPointId budget with
  | error error =>
    refine absurd (loadReachableRoutingGraph_eq_error hload) (hloaded error ?_)
    change (loadReachableRoutingGraph host db entryAccessPointId budget >>= _) = _
    rw [hload]
    rfl
  | ok result =>
    obtain ⟨loaded, between⟩ := result
    obtain rfl := loadReachableRoutingGraph_eq_ok hload
    have hreachable : compileReachable host db entryAccessPointId requestedModel budget =
        (compileRoutingPlan host ⟨entryAccessPointId, requestedModel,
            loadedGraph host db entryAccessPointId⟩ between >>= fun p =>
          .ok ((loadedRoutingGraph host db entryAccessPointId, p.1), p.2)) := by
      change (loadReachableRoutingGraph host db entryAccessPointId budget >>= _) = _
      rw [hload]
      rfl
    rw [hreachable] at hloaded ⊢
    -- the two compilations differ in the graph they read, and read the same part of it
    have halike := @alike_compileRoutingPlan host db entryAccessPointId requestedModel budget'
      between
    have hpart : ∀ error, compileRoutingPlan host ⟨entryAccessPointId, requestedModel,
        loadedGraph host db entryAccessPointId⟩ between = .error error → ¬IsExhausted error :=
      fun error herror => hloaded error (bind_eq_error.mpr (.inl herror))
    rcases halike.cases hwhole hpart with
      ⟨plan, after', plan', after, hplan', hplan, rfl⟩ | ⟨error', error, herror', herror, hcode⟩
    · have hfinds : ∀ candidate ∈ plan.candidates, FindsStatuses db
          (loadedRoutingGraph host db entryAccessPointId).availability candidate :=
        fun candidate hmem => findsStatuses_of_plan hplan hmem
      refine .inl ⟨_, plan, after, after', ?_, hplan', hfinds, ?_⟩
      · rw [hplan]
        rfl
      · exact fun attempts evaluationBudget error => evaluateRouting_code hfinds
    · refine .inr ⟨error, error', ?_, herror', hcode.symm⟩
      rw [herror]
      rfl

/-! ### A graph with a part out of reach -/

def directRow (id : String) : AccessPointRow where
  id := id
  ownerId := "owner"
  scopeRef := "global:"
  name := id
  description := none
  apiFamily := "openai"
  exposedModel := "model"
  targetModel := "model"
  routingRuleId := "direct"
  routingRuleBehaviorVersion := 1
  routingRuleConfigJson := "{}"
  requestOverridesJson := "{}"
  routingRevision := 1
  priority := 0
  weight := 1
  fallbackOrder := 0
  status := "enabled"
  personalProviderSlotId := none
  removedAt := none
  createIdempotencyKeyHash := none
  createRequestHash := none

def accessPointEdge (id source target : String) (status : String) : AccessPointTargetRow where
  id := id
  targetType := .accessPoint
  targetAccessPointId := some target
  targetProviderId := none
  targetProviderModelName := none
  targetProviderModelId := none
  position := 0
  status := status
  removedAt := none
  accessPointId := source

def providerModelEdge (id source target : String) : AccessPointTargetRow where
  id := id
  targetType := .providerModel
  targetAccessPointId := none
  targetProviderId := some "provider"
  targetProviderModelName := some "model"
  targetProviderModelId := some target
  position := 0
  status := "enabled"
  removedAt := none
  accessPointId := source

def sampleRoutingDatabase : RoutingDatabase where
  accessPoints := ⟨[directRow "apart", directRow "back", directRow "front"], by decide⟩
  targets := ⟨[accessPointEdge "e1" "front" "back" "enabled",
    accessPointEdge "e2" "front" "apart" "disabled", providerModelEdge "e3" "back" "pm",
    accessPointEdge "e4" "apart" "front" "enabled"], by decide⟩
  providers := ⟨[⟨"provider", "owner", "global:", "provider", "codex", .enabled, "", "", "", "{}",
    "cpa", "", ""⟩], by decide⟩
  bindings := ⟨[], by decide⟩
  providerModels := ⟨[⟨"pm", "provider", "model", "model", .enabled, "", ""⟩], by decide⟩
  targetIds := by decide
  providerOf := by decide

theorem compileReachable_same_sample :
    ∃ loaded plan after after',
      compileReachable plainHost sampleRoutingDatabase "front" "model" plainBudget =
        .ok ((loaded, plan), after) ∧
      compileRoutingPlan plainHost ⟨"front", "model", sampleRoutingDatabase.store.graph⟩
        plainBudget =
        .ok (plan, after') ∧
      ∀ candidate ∈ plan.candidates,
        FindsStatuses sampleRoutingDatabase loaded.availability candidate := by
  have hloaded : (compileReachable plainHost sampleRoutingDatabase "front" "model"
      plainBudget).toOption.isSome = true := by
    decide +kernel
  have hwhole : (compileRoutingPlan plainHost ⟨"front", "model", sampleRoutingDatabase.store.graph⟩
      plainBudget).toOption.isSome = true := by
    decide +kernel
  rcases compileReachable_same plainHost sampleRoutingDatabase "front" "model" plainBudget
    plainBudget
      (fun error herror => by
        rw [herror] at hloaded
        cases hloaded)
      (fun error herror => by
        rw [herror] at hwhole
        cases hwhole) with
    ⟨loaded, plan, after, after', hrun, hrun', hfinds, -⟩ | ⟨error, error', herror, -⟩
  · exact ⟨loaded, plan, after, after', hrun, hrun', hfinds⟩
  · rw [herror] at hloaded
    cases hloaded

end Frely.ModelAccess
