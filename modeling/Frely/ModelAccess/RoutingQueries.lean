import Frely.ModelAccess.Commands
import Frely.ModelAccess.ProviderManagement
import Mathlib.Data.List.Dedup

/-!
# Routing queries

A query does not read the whole graph: `loadReachableRoutingGraph` reads the AccessPoints that lie
within the reach of an entry, with their enabled targets, and the provider models these name.  Both
reads see one snapshot of the database.  Identifiers are compared byte by byte, as their columns
are.
-/

namespace Frely.ProviderManagement

def ProviderStatus.text : ProviderStatus → String
  | enabled => "enabled"
  | disabled => "disabled"

def SyncStatus.text : SyncStatus → String
  | pending => "pending"
  | ready => "ready"
  | error => "error"
  | cleared => "cleared"

end Frely.ProviderManagement

namespace Frely.ModelAccess

open Frely.ProviderManagement StableSort Stateful

/-! ### The database -/

structure RoutingDatabase where
  accessPoints : Table AccessPointRow
  targets : Table AccessPointTargetRow
  providers : Table ProviderRow
  bindings : Table ProviderBinding
  providerModels : Table ProviderModelRow
  /-- identifiers are created, and never empty -/
  targetIds : ∀ target ∈ targets, target.id ≠ ""
  /-- a model refers to its Provider by a foreign key -/
  providerOf : ∀ model ∈ providerModels, (providers.find? model.providerId).isSome = true

def graphProviderModel (model : ProviderModelRow) : RoutingGraphProviderModel :=
  ⟨model.id, model.providerId, model.providerModelName⟩

namespace RoutingDatabase

variable (db : RoutingDatabase)

def store : RoutingStore where
  accessPoints := db.accessPoints
  targets := db.targets
  providerModels := ⟨db.providerModels.rows.map graphProviderModel, by
    rw [List.map_map]
    exact db.providerModels.nodup⟩

/-! ### The recursive query -/

def enabledRows (id : String) : List ResolvedTarget :=
  (db.store.targetsOf id).filter fun target => target.status = "enabled" ∧ target.removedAt = none

/-- The AccessPoint that a target leads to, unless it is removed. -/
def downstreamOf (target : ResolvedTarget) : Option String :=
  match target.targetType with
  | .providerModel => none
  | .accessPoint => target.targetAccessPointId.filter fun id => (db.store.findUnremoved id).isSome

/-- The rows of `reachable` at a depth. -/
def reachableAt (entryAccessPointId : String) : Nat → List String
  | 0 => if (db.store.findUnremoved entryAccessPointId).isSome then [entryAccessPointId] else []
  | depth + 1 => ((reachableAt entryAccessPointId depth).flatMap fun id =>
      (db.enabledRows id).filterMap db.downstreamOf).dedup

/-- The depth stays below the limit and one sentinel hop. -/
def reachableIds (entryAccessPointId : String) : List String :=
  ((List.range (maxAccessPointToAccessPointHops + 2)).flatMap
    (db.reachableAt entryAccessPointId)).dedup

end RoutingDatabase

/-- What the query finds of one AccessPoint: the row, and the targets that are joined to it. -/
structure ReachableRow where
  accessPoint : AccessPointRow
  targets : List ResolvedTarget
  targetIds : (targets.map fun target => target.id).Nodup

def compareTargetRows (left right : ResolvedTarget) : Ordering :=
  (compare left.position right.position).then (compare left.id right.id)

structure RoutingProviderModelSqlRow where
  model : ProviderModelRow
  provider : ProviderRow
  providerBindingStatus : Option SyncStatus

namespace RoutingDatabase

variable (db : RoutingDatabase)

theorem enabledRows_nodup (id : String) :
    ((db.enabledRows id).map fun target => target.id).Nodup := by
  have hall := graphTargets_nodup db.store id
  rw [List.map_map] at hall
  exact hall.sublist (List.filter_sublist.map _)

/-- A row of the join; a target without an id stands for none. -/
def reachableRow (accessPoint : AccessPointRow) : ReachableRow where
  accessPoint := accessPoint
  targets := (sortBy compareTargetRows (db.enabledRows accessPoint.id)).filter (·.id ≠ "")
  targetIds := by
    have hperm := (@perm_sortBy _ compareTargetRows (db.enabledRows accessPoint.id)).map
      fun target => target.id
    exact (hperm.nodup_iff.mpr (db.enabledRows_nodup accessPoint.id)).sublist
      (List.filter_sublist.map _)

/-- The rows, those of one AccessPoint together, in the order of the AccessPoints. -/
def readReachableRoutingRows (entryAccessPointId : String) : List ReachableRow :=
  let ids := db.reachableIds entryAccessPointId
  (sortBy (fun left right => compare left.id right.id)
    (db.accessPoints.rows.filter (·.id ∈ ids))).map db.reachableRow

/-! ### Provider models -/

def readProviderModelBatch (ids : List String) : List RoutingProviderModelSqlRow :=
  (sortBy (fun left right => compare left.id right.id)
    (db.providerModels.rows.filter (·.id ∈ ids))).filterMap fun model =>
      (db.providers.find? model.providerId).map fun provider =>
        ⟨model, provider, (db.bindings.find? provider.id).map ProviderBinding.syncStatus⟩

end RoutingDatabase

/-! ### The loaded graph -/

structure RoutingAccessPointDiagnostic where
  id : String
  ownerId : String
  scopeRef : String
  name : String
  description : Option String
  exposedModel : String
  targetModel : String
  status : String
  routingRevision : Int

structure RoutingProviderDiagnostic where
  id : String
  scopeRef : String
  name : String
  status : String
  bindingStatus : Option String

structure RoutingProviderModelDiagnostic where
  id : String
  providerId : String
  providerModelName : String
  displayName : String
  status : String

structure LoadedRoutingGraph where
  graph : RoutingGraphSnapshot
  availability : RoutingAvailabilitySnapshot
  accessPoints : List RoutingAccessPointDiagnostic
  providers : List RoutingProviderDiagnostic
  providerModels : List RoutingProviderModelDiagnostic

namespace ReachableRow

variable (row : ReachableRow)

def graphAccessPoint : RoutingGraphAccessPoint where
  id := row.accessPoint.id
  exposedModel := row.accessPoint.exposedModel
  targetModel := row.accessPoint.targetModel
  routingRuleId := row.accessPoint.routingRuleId
  routingRuleBehaviorVersion := row.accessPoint.routingRuleBehaviorVersion
  routingRuleConfigJson := row.accessPoint.routingRuleConfigJson
  routingRevision := row.accessPoint.routingRevision
  removedAt := row.accessPoint.removedAt.map Subtype.val
  targets := row.targets.map graphTarget
  targetIds := by
    rw [List.map_map]
    exact row.targetIds

def diagnostic : RoutingAccessPointDiagnostic where
  id := row.accessPoint.id
  ownerId := row.accessPoint.ownerId
  scopeRef := row.accessPoint.scopeRef
  name := row.accessPoint.name
  description := row.accessPoint.description
  exposedModel := row.accessPoint.exposedModel
  targetModel := row.accessPoint.targetModel
  status := row.accessPoint.status
  routingRevision := row.accessPoint.routingRevision

def providerModelIds : List String :=
  row.targets.filterMap fun target => match target.targetType with
    | .providerModel => truthy target.targetProviderModelId
    | .accessPoint => none

def visit : Budgeted Unit := do
  visitNode row.accessPoint.id row.accessPoint.routingRuleConfigJson.utf8ByteSize
  let _ ← Stateful.traverse (fun target : ResolvedTarget => visitEdge target.id) row.targets

end ReachableRow

namespace RoutingProviderModelSqlRow

variable (row : RoutingProviderModelSqlRow)

def providerDiagnostic : RoutingProviderDiagnostic where
  id := row.provider.id
  scopeRef := row.provider.scopeRef
  name := row.provider.name
  status := row.provider.status.text
  bindingStatus := row.providerBindingStatus.map SyncStatus.text

def modelDiagnostic : RoutingProviderModelDiagnostic where
  id := row.model.id
  providerId := row.model.providerId
  providerModelName := row.model.providerModelName
  displayName := row.model.displayName
  status := row.model.status.text

end RoutingProviderModelSqlRow

/-- What a map holds of a key after the rows have been set one by one: the last value. -/
def lastValue {ρ α : Type} (rows : List ρ) (key : ρ → String) (value : ρ → Option α)
    (id : String) : Option α :=
  (rows.filterMap fun row => if key row = id then value row else none).getLast?

def availabilityOf (rows : List ReachableRow)
    (models : List RoutingProviderModelSqlRow) : RoutingAvailabilitySnapshot where
  accessPointStatuses := lastValue rows (·.accessPoint.id) fun row => some row.accessPoint.status
  providerStatuses := lastValue models (·.provider.id) fun row => some row.provider.status.text
  providerModelStatuses := lastValue models (·.model.id) fun row => some row.model.status.text
  providerBindingStatuses := lastValue models (·.provider.id) fun row =>
    row.providerBindingStatus.map SyncStatus.text

/-- A row for each Provider, in the place of its first one. -/
def providerRows (models : List RoutingProviderModelSqlRow) :
    List RoutingProviderDiagnostic :=
  (models.map (·.provider.id)).dedup.filterMap fun id =>
    lastValue models (·.provider.id) (fun row => some row.providerDiagnostic) id

namespace RoutingDatabase

variable (db : RoutingDatabase)

theorem nodup_reachable (entryAccessPointId : String) :
    (((db.readReachableRoutingRows entryAccessPointId).map ReachableRow.graphAccessPoint).map
      RoutingGraphAccessPoint.id).Nodup := by
  rw [readReachableRoutingRows, List.map_map, List.map_map]
  have hperm := (@perm_sortBy _ (fun left right : AccessPointRow => compare left.id right.id)
    (db.accessPoints.rows.filter (·.id ∈ db.reachableIds entryAccessPointId))).map AccessPointRow.id
  exact hperm.nodup_iff.mpr (db.accessPoints.nodup.sublist (List.filter_sublist.map _))

theorem map_filterMap_sublist (models : List ProviderModelRow) :
    ((models.filterMap fun model => (db.providers.find? model.providerId).map fun provider =>
      (⟨model, provider, (db.bindings.find? provider.id).map ProviderBinding.syncStatus⟩ :
        RoutingProviderModelSqlRow)).map (·.model.id)).Sublist
      (models.map ProviderModelRow.id) := by
  induction models with
  | nil => exact List.Sublist.refl []
  | cons model rest ih =>
    cases hprovider : db.providers.find? model.providerId with
    | none =>
      rw [List.filterMap_cons_none (by rw [hprovider]; rfl), List.map_cons]
      exact ih.cons _
    | some provider =>
      rw [List.filterMap_cons_some (by rw [hprovider]; rfl), List.map_cons, List.map_cons]
      exact ih.cons_cons _

theorem nodup_providerModels (ids : List String) :
    (((db.readProviderModelBatch ids).map fun row => graphProviderModel row.model).map
      RoutingGraphProviderModel.id).Nodup := by
  rw [List.map_map, readProviderModelBatch]
  have hperm := (@perm_sortBy _ (fun left right : ProviderModelRow => compare left.id right.id)
    (db.providerModels.rows.filter (·.id ∈ ids))).map ProviderModelRow.id
  have hsorted := hperm.nodup_iff.mpr
    (db.providerModels.nodup.sublist (List.filter_sublist.map ProviderModelRow.id))
  exact hsorted.sublist (db.map_filterMap_sublist _)

end RoutingDatabase

/-- What the rows are made into. -/
def loadedRoutingGraph (host : Host) (db : RoutingDatabase) (entryAccessPointId : String) :
    LoadedRoutingGraph :=
  let rows := db.readReachableRoutingRows entryAccessPointId
  let ids := (rows.flatMap ReachableRow.providerModelIds).dedup
  let models := db.readProviderModelBatch ids
  let byId {α : Type} (id : α → String) (left right : α) : Ordering :=
    host.localeCompare (id left) (id right)
  { graph := ⟨⟨rows.map ReachableRow.graphAccessPoint, db.nodup_reachable entryAccessPointId⟩,
      ⟨models.map fun row => graphProviderModel row.model, db.nodup_providerModels ids⟩⟩
    availability := availabilityOf rows models
    accessPoints := sortBy (byId RoutingAccessPointDiagnostic.id)
      (rows.map ReachableRow.diagnostic)
    providers := sortBy (byId RoutingProviderDiagnostic.id) (providerRows models)
    providerModels := sortBy (byId RoutingProviderModelDiagnostic.id)
      (models.map RoutingProviderModelSqlRow.modelDiagnostic) }

def loadReachableRoutingGraph (host : Host) (db : RoutingDatabase) (entryAccessPointId : String) :
    Budgeted LoadedRoutingGraph := do
  checkpoint
  let _ ← Stateful.traverse ReachableRow.visit (db.readReachableRoutingRows entryAccessPointId)
  checkpoint
  return loadedRoutingGraph host db entryAccessPointId

/-- What a query compiles: the plan on the graph that it loads. -/
def compileReachable (host : Host) (db : RoutingDatabase)
    (entryAccessPointId requestedModel : String) :
    Budgeted (LoadedRoutingGraph × CompiledRoutingPlan) := do
  let loaded ← loadReachableRoutingGraph host db entryAccessPointId
  let plan ← compileRoutingPlan host ⟨entryAccessPointId, requestedModel, loaded.graph⟩
  return (loaded, plan)

end Frely.ModelAccess
