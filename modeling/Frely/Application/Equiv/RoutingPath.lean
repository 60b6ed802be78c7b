import Frely.Application.Admission
import Frely.ModelAccess.Equiv.RoutingKernel

/-!
# Admissions of compiled candidates

A candidate that the routing compiler returned is admitted later, against the tables as they are
then.  `commonAdmission` is the admission of a candidate.

* `assertFrozenRoutingPath_iff`: the path check passes exactly when the tables still hold every
  AccessPoint, edge and provider model of the path as it was compiled, in service.
* `compiledCandidate_admissible`: with the tables that the graph was read from, a candidate has the
  admission's shape, and passes the path check if it is in service; with later tables the path
  check passes exactly when the path is still in force.
-/

namespace Frely.Application

open Frely.ModelAccess Frely.Postgres Frely.RequestExecution Checked

/-! ### Tables -/

/-- What the keys and the checks of the tables promise.  A routing revision starts at 1 and is
counted in a column of 32 bits. -/
structure IsCatalogue (configuration : Configuration) : Prop where
  accessPoints : (configuration.accessPoints.map AccessPoint.id).Nodup
  accessPointTargets : (configuration.accessPointTargets.map AccessPointTarget.id).Nodup
  providerModels : (configuration.providerModels.map ProviderModel.id).Nodup
  providers : (configuration.providers.map Provider.id).Nodup
  providerBindings : (configuration.providerBindings.map ProviderBinding.providerId).Nodup
  routingRevisions : ∀ row ∈ configuration.accessPoints,
    1 ≤ row.routingRevision ∧ row.routingRevision < 2147483648
  targetReferences : ∀ row ∈ configuration.accessPointTargets, row.targetType = .providerModel →
    row.targetProviderId ≠ none ∧ row.targetProviderModelName ≠ none

/-- The graph and the availability are read from the tables: of the AccessPoints those that are not
removed, with the enabled targets that are not removed, and the provider models of any status. -/
structure IsReadFrom (graph : RoutingGraphSnapshot) (availability : RoutingAvailabilitySnapshot)
    (configuration : Configuration) : Prop where
  accessPoints : ∀ accessPoint ∈ graph.accessPoints, ∃ row ∈ configuration.accessPoints,
    row.id = accessPoint.id ∧ row.removedAt = none ∧
      row.selectorId = accessPoint.routingRuleId ∧
      row.selectorBehaviorVersion = accessPoint.routingRuleBehaviorVersion ∧
      row.routingRevision = accessPoint.routingRevision
  targets : ∀ accessPoint ∈ graph.accessPoints, ∀ target ∈ accessPoint.targets,
    ∃ row ∈ configuration.accessPointTargets, row.id = target.id ∧
      row.accessPointId = accessPoint.id ∧ row.removedAt = none ∧ row.status = target.status ∧
      row.targetType = target.type ∧ row.targetAccessPointId = target.targetAccessPointId ∧
      row.targetProviderModelId = target.targetProviderModelId ∧
      row.targetProviderId = target.targetProviderId ∧
      row.targetProviderModelName = target.targetProviderModelName
  providerModels : ∀ providerModel ∈ graph.providerModels, ∃ row ∈ configuration.providerModels,
    row.id = providerModel.id ∧ row.providerId = providerModel.providerId ∧
      row.providerModelName = providerModel.providerModelName
  accessPointStatuses : ∀ id status, availability.accessPointStatuses id = some status →
    ∃ row ∈ configuration.accessPoints, row.id = id ∧ row.status = status
  providerStatuses : ∀ id status, availability.providerStatuses id = some status →
    ∃ row ∈ configuration.providers, row.id = id ∧ row.status = status
  providerModelStatuses : ∀ id status, availability.providerModelStatuses id = some status →
    ∃ row ∈ configuration.providerModels, row.id = id ∧ row.status = status
  providerBindingStatuses : ∀ id status, availability.providerBindingStatuses id = some status →
    ∃ row ∈ configuration.providerBindings, row.providerId = id ∧ row.syncStatus = status

/-! ### Admissions -/

/-- The part of an admission that the plan and its candidate determine. -/
def commonAdmission (plan : CompiledRoutingPlan) (candidate : CompiledRoutingCandidate)
    (requestId executionOwnerId : String) (attemptIndex : Int) :
    ProviderAttemptAdmissionIdentity where
  requestId
  executionOwnerId
  attemptIndex
  candidate :=
    { candidateId := candidate.candidateId
      providerModelId := candidate.providerModelId
      providerId := candidate.providerId
      providerModelName := candidate.providerModelName }
  routing :=
    { selectorAccessPointId := plan.selectorAccessPointId
      selectorId := plan.selectorId
      selectorBehaviorVersion := plan.selectorBehaviorVersion
      routingRevision := plan.routingRevision
      routingRevisions := candidate.routingRevisions.map fun revision =>
        ⟨revision.accessPointId, revision.routingRevision⟩
      selectorTargetEdgeId := candidate.selectorTargetEdgeId
      pathTargetEdgeIds := candidate.pathTargetEdgeIds
      accessPointChainIds := candidate.accessPointChainIds }

/-- The table holds an AccessPoint as it was compiled, in service. -/
def AccessPointInForce (configuration : Configuration) (accessPoint : RoutingGraphAccessPoint) :
    Prop :=
  ∃ row ∈ configuration.accessPoints, row.id = accessPoint.id ∧ row.removedAt = none ∧
    row.status = "enabled" ∧ row.routingRevision = accessPoint.routingRevision

/-- The table holds an edge as it was compiled, in service: it leaves its AccessPoint and leads
where it led. -/
def EdgeInForce (configuration : Configuration) (providerModel : RoutingGraphProviderModel)
    (source : RoutingGraphAccessPoint) (edge : RoutingGraphTarget) : Prop :=
  ∃ row ∈ configuration.accessPointTargets, row.id = edge.id ∧ row.accessPointId = source.id ∧
    row.removedAt = none ∧ row.status = "enabled" ∧ row.targetType = edge.type ∧
    (edge.type = .accessPoint → row.targetAccessPointId = edge.targetAccessPointId) ∧
    (edge.type = .providerModel → row.targetProviderModelId = edge.targetProviderModelId ∧
      row.targetProviderId = some providerModel.providerId ∧
      row.targetProviderModelName = some providerModel.providerModelName)

/-- The table holds a provider model as it was compiled, in service with its Provider. -/
structure ProviderModelInForce (configuration : Configuration)
    (providerModel : RoutingGraphProviderModel) : Prop where
  model : ∃ row ∈ configuration.providerModels, row.id = providerModel.id ∧
    row.status = "enabled" ∧ row.providerId = providerModel.providerId ∧
    row.providerModelName = providerModel.providerModelName
  provider : ∃ row ∈ configuration.providers, row.id = providerModel.providerId ∧
    row.status = "enabled"
  binding : ∃ row ∈ configuration.providerBindings,
    row.providerId = providerModel.providerId ∧ row.syncStatus = "ready"

/-- The tables hold a path as it was compiled, and everything on it is in service. -/
structure InForce {graph : RoutingGraphSnapshot} {entry : String} (path : RoutingPath graph entry)
    (configuration : Configuration) : Prop where
  accessPoints : ∀ accessPoint ∈ path.accessPoints, AccessPointInForce configuration accessPoint
  edges : ∀ (i : Nat) edge source, path.edges[i]? = some edge →
    path.accessPoints[i]? = some source → EdgeInForce configuration path.providerModel source edge
  providerModel : ProviderModelInForce configuration path.providerModel

/-- An admission names a path: its lists are those of the path, and at the selector the path goes on
over the selector's edge. -/
structure Names {graph : RoutingGraphSnapshot} {entry : String}
    (command : ProviderAttemptAdmissionIdentity) (path : RoutingPath graph entry) : Prop where
  chain : command.routing.accessPointChainIds = path.accessPoints.map RoutingGraphAccessPoint.id
  edges : command.routing.pathTargetEdgeIds = path.edges.map RoutingGraphTarget.id
  revisions : command.routing.routingRevisions = path.accessPoints.map fun accessPoint =>
    ⟨accessPoint.id, accessPoint.routingRevision⟩
  selector : ∃ (i : Nat) (selector : RoutingGraphAccessPoint) (edge : RoutingGraphTarget),
    path.accessPoints[i]? = some selector ∧ path.edges[i]? = some edge ∧
      command.routing.selectorAccessPointId = selector.id ∧
      command.routing.selectorTargetEdgeId = edge.id ∧
      command.routing.routingRevision = selector.routingRevision ∧
      command.routing.selectorBehaviorVersion = 1
  providerModelId : command.candidate.providerModelId = path.providerModel.id
  providerId : command.candidate.providerId = path.providerModel.providerId
  providerModelName : command.candidate.providerModelName = path.providerModel.providerModelName

/-! ### Steps of a path -/

variable {accessPoint : RoutingGraphAccessPoint}

theorem mem_pathSteps {chain edgeIds : List String} (hlength : edgeIds.length = chain.length)
    {step : PathStep} :
    step ∈ pathSteps chain edgeIds ↔ ∃ i : Nat, chain[i]? = some step.accessPointId ∧
      edgeIds[i]? = some step.edgeId ∧ chain[i + 1]? = step.nextAccessPointId := by
  fun_induction pathSteps chain edgeIds with
  | case1 accessPointId edgeId =>
    obtain ⟨stepAccessPointId, stepEdgeId, stepNext⟩ := step
    constructor
    · intro hmem
      obtain ⟨rfl, rfl, rfl⟩ := PathStep.mk.inj (List.mem_singleton.mp hmem)
      exact ⟨0, rfl, rfl, rfl⟩
    · rintro ⟨i, hid, hedge, hnext⟩
      cases i with
      | zero =>
        cases hid
        cases hedge
        cases hnext
        exact List.mem_singleton_self _
      | succ i => cases hid
  | case2 accessPointId next accessPointIds edgeId edgeIds ih =>
    rw [List.mem_cons, ih (by simpa using hlength)]
    obtain ⟨stepAccessPointId, stepEdgeId, stepNext⟩ := step
    constructor
    · rintro (hhead | ⟨i, hid, hedge, hnext⟩)
      · obtain ⟨rfl, rfl, rfl⟩ := PathStep.mk.inj hhead
        exact ⟨0, rfl, rfl, rfl⟩
      · exact ⟨i + 1, hid, hedge, hnext⟩
    · rintro ⟨i, hid, hedge, hnext⟩
      cases i with
      | zero =>
        cases hid
        cases hedge
        cases hnext
        exact .inl rfl
      | succ i => exact .inr ⟨i, hid, hedge, hnext⟩
  | case3 chain edgeIds hone hmore =>
    -- with as many edges as AccessPoints, only the empty path is left
    have hempty : chain = [] := by
      cases chain with
      | nil => rfl
      | cons accessPointId rest =>
        exfalso
        cases edgeIds with
        | nil => cases hlength
        | cons edgeId edgeIds =>
          cases rest with
          | nil =>
            cases edgeIds with
            | nil => exact hone accessPointId edgeId rfl rfl
            | cons _ _ => cases hlength
          | cons next rest => exact hmore accessPointId next rest edgeId edgeIds rfl rfl
    subst hempty
    simp

theorem expectedRevision_eq {accessPoints : List RoutingGraphAccessPoint}
    (hnodup : (accessPoints.map RoutingGraphAccessPoint.id).Nodup)
    (hmem : accessPoint ∈ accessPoints) :
    expectedRevision (accessPoints.map fun accessPoint =>
      ⟨accessPoint.id, accessPoint.routingRevision⟩) accessPoint.id =
        some accessPoint.routingRevision := by
  unfold expectedRevision
  have hids : ((accessPoints.map fun accessPoint : RoutingGraphAccessPoint =>
      (⟨accessPoint.id, accessPoint.routingRevision⟩ : RoutingRevisionExpectation)).reverse.map
        RoutingRevisionExpectation.accessPointId).Nodup := by
    rw [List.map_reverse, List.nodup_reverse, List.map_map]
    exact hnodup
  have hexpected : (⟨accessPoint.id, accessPoint.routingRevision⟩ : RoutingRevisionExpectation) ∈
      (accessPoints.map fun accessPoint : RoutingGraphAccessPoint =>
        (⟨accessPoint.id, accessPoint.routingRevision⟩ : RoutingRevisionExpectation)).reverse :=
    List.mem_reverse.mpr (List.mem_map_of_mem hmem)
  rw [(Table.find?_key_eq_some hids).mpr ⟨hexpected, rfl⟩]
  rfl

theorem assertPathStep_eq_ok {command : ProviderAttemptAdmissionIdentity}
    {accessPoints : List AccessPoint} {edges : List AccessPointTarget} {step : PathStep} :
    assertPathStep command accessPoints edges step = .ok () ↔
      ∃ accessPoint edge, accessPoints.find? (·.id = step.accessPointId) = some accessPoint ∧
        edges.find? (·.id = step.edgeId) = some edge ∧
        expectedRevision command.routing.routingRevisions step.accessPointId =
          some accessPoint.routingRevision ∧
        edge.accessPointId = step.accessPointId ∧
        edgeMatches command.candidate edge step.nextAccessPointId = true := by
  unfold assertPathStep
  cases haccessPoint : accessPoints.find? (·.id = step.accessPointId) with
  | none => simp
  | some accessPoint =>
    cases hedge : edges.find? (·.id = step.edgeId) with
    | none => simp
    | some edge =>
      simp only [bind_eq_ok, rejectIf_eq_ok, Option.some.injEq, not_or, not_not, ne_eq,
        Bool.not_eq_false, exists_const, and_assoc]
      constructor
      · intro h
        exact ⟨accessPoint, edge, rfl, rfl, h⟩
      · rintro ⟨_, _, rfl, rfl, h⟩
        exact h

section Rows

variable {configuration : Configuration} (hcatalogue : IsCatalogue configuration)

include hcatalogue

/-- The AccessPoints in service of a path, by their ids. -/
theorem find?_accessPoint {chain : List String} {id : String} {row : AccessPoint} :
    (configuration.accessPoints.filter fun accessPoint => chain.contains accessPoint.id &&
      accessPoint.removedAt.isNone && accessPoint.status = "enabled").find? (·.id = id) = some row ↔
      row ∈ configuration.accessPoints ∧ row.id = id ∧ id ∈ chain ∧ row.removedAt = none ∧
        row.status = "enabled" := by
  rw [Table.find?_key_eq_some (hcatalogue.accessPoints.sublist (List.filter_sublist.map _))]
  simp only [List.mem_filter, List.contains_eq_mem, Bool.and_eq_true, decide_eq_true_eq,
    Option.isNone_iff_eq_none]
  constructor
  · rintro ⟨⟨hmem, ⟨hchain, hremoved⟩, hstatus⟩, rfl⟩
    exact ⟨hmem, rfl, hchain, hremoved, hstatus⟩
  · rintro ⟨hmem, rfl, hchain, hremoved, hstatus⟩
    exact ⟨⟨hmem, ⟨hchain, hremoved⟩, hstatus⟩, rfl⟩

theorem find?_accessPointTarget {edgeIds : List String} {id : String} {row : AccessPointTarget} :
    (configuration.accessPointTargets.filter fun edge => edgeIds.contains edge.id &&
      edge.removedAt.isNone && edge.status = "enabled").find? (·.id = id) = some row ↔
      row ∈ configuration.accessPointTargets ∧ row.id = id ∧ id ∈ edgeIds ∧ row.removedAt = none ∧
        row.status = "enabled" := by
  rw [Table.find?_key_eq_some (hcatalogue.accessPointTargets.sublist (List.filter_sublist.map _))]
  simp only [List.mem_filter, List.contains_eq_mem, Bool.and_eq_true, decide_eq_true_eq,
    Option.isNone_iff_eq_none]
  constructor
  · rintro ⟨⟨hmem, ⟨hedge, hremoved⟩, hstatus⟩, rfl⟩
    exact ⟨hmem, rfl, hedge, hremoved, hstatus⟩
  · rintro ⟨hmem, rfl, hedge, hremoved, hstatus⟩
    exact ⟨⟨hmem, ⟨hedge, hremoved⟩, hstatus⟩, rfl⟩

theorem providerOwnerScopeRef_iff {candidate : FrozenProviderCandidate} (message : String)
    {providerModel : RoutingGraphProviderModel} (hid : candidate.providerModelId = providerModel.id)
    (hprovider : candidate.providerId = providerModel.providerId)
    (hname : candidate.providerModelName = providerModel.providerModelName) :
    (∃ scopeRef, providerOwnerScopeRef configuration candidate message = .ok scopeRef) ↔
      ProviderModelInForce configuration providerModel := by
  unfold providerOwnerScopeRef
  constructor
  · rintro ⟨scopeRef, h⟩
    split at h
    · cases h
    · next model provider binding hload =>
      obtain ⟨_, hinService, -⟩ := bind_eq_ok.mp h
      have hinService := rejectIf_eq_ok.mp hinService
      push Not at hinService
      obtain ⟨hstatus, hmodelProvider, hmodelName, hproviderStatus, hready⟩ := hinService
      -- the three rows of the join, each found by its key
      obtain ⟨model', hmodel, hload⟩ := Option.bind_eq_some_iff.mp hload
      obtain ⟨provider', hproviderFind, hload⟩ := Option.bind_eq_some_iff.mp hload
      obtain ⟨binding', hbinding, hload⟩ := Option.bind_eq_some_iff.mp hload
      cases hload
      obtain ⟨hmodelMem, hmodelId⟩ :=
        (Table.find?_key_eq_some hcatalogue.providerModels).mp hmodel
      obtain ⟨hproviderMem, hproviderId⟩ :=
        (Table.find?_key_eq_some hcatalogue.providers).mp hproviderFind
      obtain ⟨hbindingMem, hbindingId⟩ :=
        (Table.find?_key_eq_some hcatalogue.providerBindings).mp hbinding
      refine ⟨⟨model, hmodelMem, hmodelId.trans hid, hstatus, hmodelProvider.trans hprovider,
        hmodelName.trans hname⟩, ⟨provider, hproviderMem, ?_, hproviderStatus⟩,
        ⟨binding, hbindingMem, ?_, hready⟩⟩
      · rw [hproviderId, hmodelProvider, hprovider]
      · rw [hbindingId, hproviderId, hmodelProvider, hprovider]
  · rintro ⟨⟨model, hmodel, hmodelId, hstatus, hmodelProvider, hmodelName⟩,
      ⟨provider, hproviderMem, hproviderId, hproviderStatus⟩,
        ⟨binding, hbinding, hbindingId, hready⟩⟩
    have hload : loadProviderTarget configuration candidate.providerModelId =
        some (model, provider, binding) := by
      unfold loadProviderTarget
      rw [(Table.find?_key_eq_some hcatalogue.providerModels).mpr ⟨hmodel, hmodelId.trans hid.symm⟩]
      change (configuration.providers.find? fun provider => provider.id = model.providerId).bind
        _ = _
      rw [(Table.find?_key_eq_some hcatalogue.providers).mpr
        ⟨hproviderMem, hproviderId.trans hmodelProvider.symm⟩]
      change (configuration.providerBindings.find? fun binding =>
        binding.providerId = provider.id).bind _ = _
      rw [(Table.find?_key_eq_some hcatalogue.providerBindings).mpr
        ⟨hbinding, hbindingId.trans hproviderId.symm⟩]
      rfl
    rw [hload]
    refine ⟨provider.scopeRef, bind_eq_ok.mpr ⟨(), rejectIf_eq_ok.mpr ?_, rfl⟩⟩
    push Not
    exact ⟨hstatus, hmodelProvider.trans hprovider.symm, hmodelName.trans hname.symm,
      hproviderStatus, hready⟩

end Rows

/-! ### The path check -/

variable {candidate : CompiledRoutingCandidate}

section Path

variable {graph : RoutingGraphSnapshot} {entry : String} {path : RoutingPath graph entry}
  {configuration : Configuration} {command : ProviderAttemptAdmissionIdentity}

variable {i : Nat} {edge : RoutingGraphTarget}

/-- An edge of a path enters the next AccessPoint, or it is the last. -/
theorem enters_or_arrives (hedge : path.edges[i]? = some edge) :
    (∃ next, path.accessPoints[i + 1]? = some next ∧ edge.type = .accessPoint ∧
        edge.targetAccessPointId = some next.id) ∨
      (path.accessPoints[i + 1]? = none ∧ edge.type = .providerModel ∧
        edge.targetProviderModelId = some path.providerModel.id) := by
  cases hnext : path.accessPoints[i + 1]? with
  | some next => exact .inl ⟨next, rfl, path.enters i edge next hedge hnext⟩
  | none =>
    have hlength := path.sameLength
    have hlast : path.edges.getLast? = some edge := by
      have hlt := (List.getElem?_eq_some_iff.mp hedge).1
      have hend := List.getElem?_eq_none_iff.mp hnext
      rw [List.getLast?_eq_getElem?]
      rw [show path.edges.length - 1 = i by omega]
      exact hedge
    obtain ⟨htype, hmodel, -⟩ := path.arrives edge hlast
    exact .inr ⟨rfl, htype, hmodel⟩

theorem edgeMatches_iff (hnames : Names command path) (hedge : path.edges[i]? = some edge)
    (row : AccessPointTarget) :
    edgeMatches command.candidate row
        ((path.accessPoints[i + 1]?).map RoutingGraphAccessPoint.id) = true ↔
      row.targetType = edge.type ∧
        (edge.type = .accessPoint → row.targetAccessPointId = edge.targetAccessPointId) ∧
        (edge.type = .providerModel → row.targetProviderModelId = edge.targetProviderModelId ∧
          row.targetProviderId = some path.providerModel.providerId ∧
          row.targetProviderModelName = some path.providerModel.providerModelName) := by
  obtain ⟨next, hnext, htype, hreference⟩ | ⟨hend, htype, hmodel⟩ := enters_or_arrives hedge
  · rw [hnext, htype, hreference]
    simp [edgeMatches]
  · rw [hend, htype, hmodel]
    simp [edgeMatches, hnames.providerModelId, hnames.providerId, hnames.providerModelName,
      and_assoc]

variable {source : RoutingGraphAccessPoint}

theorem assertPathStep_iff (hcatalogue : IsCatalogue configuration) (hnames : Names command path)
    (hedge : path.edges[i]? = some edge) (hsource : path.accessPoints[i]? = some source) :
    assertPathStep command
        (configuration.accessPoints.filter fun accessPoint =>
          command.routing.accessPointChainIds.contains accessPoint.id &&
            accessPoint.removedAt.isNone && accessPoint.status = "enabled")
        (configuration.accessPointTargets.filter fun edge =>
          command.routing.pathTargetEdgeIds.contains edge.id && edge.removedAt.isNone &&
            edge.status = "enabled")
        ⟨source.id, edge.id, (path.accessPoints[i + 1]?).map RoutingGraphAccessPoint.id⟩ = .ok () ↔
      AccessPointInForce configuration source ∧
        EdgeInForce configuration path.providerModel source edge := by
  have hsourceMem := List.mem_of_getElem? hsource
  have hchain : source.id ∈ command.routing.accessPointChainIds := by
    rw [hnames.chain]
    exact List.mem_map_of_mem hsourceMem
  have hedgeIds : edge.id ∈ command.routing.pathTargetEdgeIds := by
    rw [hnames.edges]
    exact List.mem_map_of_mem (List.mem_of_getElem? hedge)
  rw [assertPathStep_eq_ok]
  dsimp only
  rw [hnames.revisions, expectedRevision_eq path.simple hsourceMem]
  constructor
  · rintro ⟨accessPoint, target, haccessPoint, htarget, hrevision, hleaves, hmatches⟩
    obtain ⟨hmem, hid, -, hremoved, hstatus⟩ := (find?_accessPoint hcatalogue).mp haccessPoint
    obtain ⟨htargetMem, htargetId, -, htargetRemoved, htargetStatus⟩ :=
      (find?_accessPointTarget hcatalogue).mp htarget
    exact ⟨⟨accessPoint, hmem, hid, hremoved, hstatus, (Option.some.inj hrevision).symm⟩,
      ⟨target, htargetMem, htargetId, hleaves, htargetRemoved, htargetStatus,
        (edgeMatches_iff hnames hedge target).mp hmatches⟩⟩
  · rintro ⟨⟨accessPoint, hmem, hid, hremoved, hstatus, hrevision⟩,
      ⟨target, htargetMem, htargetId, hleaves, htargetRemoved, htargetStatus, hmatches⟩⟩
    exact ⟨accessPoint, target,
      (find?_accessPoint hcatalogue).mpr ⟨hmem, hid, hchain, hremoved, hstatus⟩,
      (find?_accessPointTarget hcatalogue).mpr
        ⟨htargetMem, htargetId, hedgeIds, htargetRemoved, htargetStatus⟩,
      congrArg some hrevision.symm, hleaves, (edgeMatches_iff hnames hedge target).mpr hmatches⟩

/-- Edges whose rows leave the AccessPoints of a path have different ids. -/
theorem nodup_edgeIds (hcatalogue : IsCatalogue configuration)
    (hrows : ∀ (i : Nat) edge source, path.edges[i]? = some edge →
      path.accessPoints[i]? = some source →
      ∃ row ∈ configuration.accessPointTargets, row.id = edge.id ∧ row.accessPointId = source.id) :
    (path.edges.map RoutingGraphTarget.id).Nodup := by
  rw [List.nodup_iff_getElem?_ne_getElem?]
  intro i j hij hj heq
  rw [List.length_map] at hj
  have hlength := path.sameLength
  have hsources : path.accessPoints[i].id = path.accessPoints[j].id := by
    obtain ⟨row, hrow, hid, hleaves⟩ := hrows i path.edges[i] path.accessPoints[i]
      (List.getElem?_eq_getElem _) (List.getElem?_eq_getElem _)
    obtain ⟨other, hother, hotherId, hotherLeaves⟩ := hrows j path.edges[j] path.accessPoints[j]
      (List.getElem?_eq_getElem _) (List.getElem?_eq_getElem _)
    have hsame : row = other := by
      refine List.inj_on_of_nodup_map hcatalogue.accessPointTargets hrow hother ?_
      rw [hid, hotherId]
      rw [List.getElem?_map, List.getElem?_map, List.getElem?_eq_getElem (by omega),
        List.getElem?_eq_getElem (by omega)] at heq
      exact Option.some.inj heq
    rw [← hleaves, ← hotherLeaves, hsame]
  have hne := List.nodup_iff_getElem?_ne_getElem?.mp path.simple i j hij
    (by rw [List.length_map]; omega)
  rw [List.getElem?_map, List.getElem?_map, List.getElem?_eq_getElem (by omega),
    List.getElem?_eq_getElem (by omega), Option.map_some, Option.map_some, hsources] at hne
  exact hne rfl

/-- The steps of the check are the AccessPoints of the path with their edges. -/
theorem forall_pathSteps (hnames : Names command path) {p : PathStep → Prop} :
    (∀ step ∈ pathSteps command.routing.accessPointChainIds command.routing.pathTargetEdgeIds,
        p step) ↔
      ∀ (i : Nat) edge source, path.edges[i]? = some edge → path.accessPoints[i]? = some source →
        p ⟨source.id, edge.id, (path.accessPoints[i + 1]?).map RoutingGraphAccessPoint.id⟩ := by
  have hlength : command.routing.pathTargetEdgeIds.length =
      command.routing.accessPointChainIds.length := by
    rw [hnames.edges, hnames.chain, List.length_map, List.length_map]
    exact path.sameLength
  constructor
  · intro h i edge source hedge hsource
    refine h _ ((mem_pathSteps hlength).mpr ⟨i, ?_, ?_, ?_⟩)
    · rw [hnames.chain, List.getElem?_map, hsource]
      rfl
    · rw [hnames.edges, List.getElem?_map, hedge]
      rfl
    · rw [hnames.chain, List.getElem?_map]
  · rintro h ⟨accessPointId, edgeId, nextId⟩ hmem
    obtain ⟨i, hid, hedgeId, hnext⟩ := (mem_pathSteps hlength).mp hmem
    rw [hnames.chain, List.getElem?_map] at hid hnext
    rw [hnames.edges, List.getElem?_map] at hedgeId
    obtain ⟨source, hsource, rfl⟩ := Option.map_eq_some_iff.mp hid
    obtain ⟨edge, hedge, rfl⟩ := Option.map_eq_some_iff.mp hedgeId
    dsimp only at hnext
    rw [← hnext]
    exact h i edge source hedge hsource

/-- Every AccessPoint of a path has its edge. -/
theorem exists_edge (hsource : path.accessPoints[i]? = some source) :
    ∃ edge, path.edges[i]? = some edge := by
  have hlt := (List.getElem?_eq_some_iff.mp hsource).1
  rw [← path.sameLength] at hlt
  exact ⟨path.edges[i], List.getElem?_eq_getElem hlt⟩

theorem accessPoints_ne_nil : path.accessPoints ≠ [] := by
  intro hempty
  have hstarts := path.starts
  rw [hempty] at hstarts
  cases hstarts

/-- The path check passes exactly when the path is in force. -/
theorem assertFrozenRoutingPath_iff (hcatalogue : IsCatalogue configuration)
    (hnames : Names command path) :
    (∃ facts, assertFrozenRoutingPath configuration command = .ok facts) ↔
      InForce path configuration := by
  have hlength : command.routing.pathTargetEdgeIds.length =
      command.routing.accessPointChainIds.length := by
    rw [hnames.edges, hnames.chain, List.length_map, List.length_map]
    exact path.sameLength
  have howner := providerOwnerScopeRef_iff hcatalogue
    "Provider or Provider binding changed before Provider invocation admission"
      hnames.providerModelId hnames.providerId hnames.providerModelName
  constructor
  · rintro ⟨facts, h⟩
    obtain ⟨_, -, h⟩ := bind_eq_ok.mp h
    obtain ⟨_, -, h⟩ := bind_eq_ok.mp h
    obtain ⟨_, hsteps, h⟩ := bind_eq_ok.mp h
    obtain ⟨_, -, h⟩ := bind_eq_ok.mp h
    obtain ⟨scopeRef, hscope, -⟩ := bind_eq_ok.mp h
    have hsteps := (forall_pathSteps hnames).mp (forAll_eq_ok.mp hsteps)
    refine ⟨?_, ?_, howner.mp ⟨scopeRef, hscope⟩⟩
    · intro source hmem
      obtain ⟨i, hsource⟩ := List.mem_iff_getElem?.mp hmem
      obtain ⟨edge, hedge⟩ := exists_edge hsource
      exact ((assertPathStep_iff hcatalogue hnames hedge hsource).mp
        (hsteps i edge source hedge hsource)).1
    · -- the steps, one edge after the other
      intro i edge source hedge hsource
      exact ((assertPathStep_iff hcatalogue hnames hedge hsource).mp
        (hsteps i edge source hedge hsource)).2
  · intro hforce
    obtain ⟨scopeRef, hscope⟩ := howner.mpr hforce.providerModel
    obtain ⟨i, selector, edge, hselector, hedge, hselectorId, hedgeId, -, -⟩ := hnames.selector
    have hnodup : (path.edges.map RoutingGraphTarget.id).Nodup := by
      refine nodup_edgeIds hcatalogue fun i edge source hedge hsource => ?_
      obtain ⟨row, hrow, hid, hleaves, -⟩ := hforce.edges i edge source hedge hsource
      exact ⟨row, hrow, hid, hleaves⟩
    have hselectorMem : selector.id ∈ path.accessPoints.map RoutingGraphAccessPoint.id :=
      List.mem_map_of_mem (List.mem_of_getElem? hselector)
    refine ⟨_, bind_eq_ok.mpr ⟨(), rejectIf_eq_ok.mpr ?_, bind_eq_ok.mpr ⟨(), rejectIf_eq_ok.mpr ?_,
      bind_eq_ok.mpr ⟨(), forAll_eq_ok.mpr ((forall_pathSteps hnames).mpr ?_),
        bind_eq_ok.mpr ⟨(), rejectIf_eq_ok.mpr ?_, bind_eq_ok.mpr ⟨scopeRef, hscope, rfl⟩⟩⟩⟩⟩⟩
    · -- the shape of the evidence: as many edges as AccessPoints, and the selector among these
      rw [hnames.revisions, hselectorId, hlength, hnames.chain]
      simp only [List.map_eq_nil_iff, accessPoints_ne_nil, List.length_map, ne_eq, hselectorMem,
        not_true_eq_false, false_or, not_not, List.any_map, List.any_eq_true, Function.comp_apply,
        decide_eq_true_eq]
      exact ⟨selector, List.mem_of_getElem? hselector, rfl⟩
    · rw [hnames.chain, hnames.edges]
      simp only [not_or, not_not]
      exact ⟨path.simple, hnodup⟩
    · intro i edge source hedge hsource
      exact (assertPathStep_iff hcatalogue hnames hedge hsource).mpr
        ⟨hforce.accessPoints source (List.mem_of_getElem? hsource),
          hforce.edges i edge source hedge hsource⟩
    · -- the edge of the selector leaves the selector
      obtain ⟨row, hrow, hid, hleaves, hremoved, hstatus, -⟩ :=
        hforce.edges i edge selector hedge hselector
      have hedgeIds : command.routing.selectorTargetEdgeId ∈ command.routing.pathTargetEdgeIds := by
        rw [hedgeId, hnames.edges]
        exact List.mem_map_of_mem (List.mem_of_getElem? hedge)
      rw [(find?_accessPointTarget hcatalogue).mpr
        ⟨hrow, hid.trans hedgeId.symm, hedgeIds, hremoved, hstatus⟩, hselectorId]
      simpa using hleaves

/-- The admission of a claimless invocation has a shape that fits. -/
theorem assertCpaBasicAdmissionShape_of_names {command : AdmitCpaBasicProviderInvocationCommand}
    (hnames : Names command.toProviderAttemptAdmissionIdentity path)
    (hedges : (path.edges.map RoutingGraphTarget.id).Nodup)
    (hrevisions : ∀ accessPoint ∈ path.accessPoints,
      1 ≤ accessPoint.routingRevision ∧ IsSafeInteger accessPoint.routingRevision)
    (howner : command.executionOwnerId ≠ "") (hindex : IsSafeInteger command.attemptIndex)
    (hnonneg : 0 ≤ command.attemptIndex)
    (hprices : command.accessPointPriceIds.length = path.accessPoints.length) :
    assertCpaBasicAdmissionShape command = .ok () := by
  obtain ⟨i, selector, edge, hselector, hedge, hselectorId, hedgeId, hrevision, hversion⟩ :=
    hnames.selector
  obtain ⟨hpositive, hsafe⟩ := hrevisions selector (List.mem_of_getElem? hselector)
  have hlength := path.sameLength
  have hpos : 0 < path.accessPoints.length := List.length_pos_iff.mpr accessPoints_ne_nil
  refine rejectIf_eq_ok.mpr ?_
  simp only [not_or]
  refine ⟨howner, not_not.mpr hindex, by omega, ?_, ?_, ?_, ?_, ?_, ?_, ?_, ?_, ?_, ?_, ?_, ?_,
    ?_, ?_⟩
  · rw [hversion]
    decide
  · rw [hversion]
    decide
  · rw [hrevision]
    exact not_not.mpr hsafe
  · rw [hrevision]
    omega
  · rw [hnames.chain, List.length_map]
    omega
  · rw [hnames.chain, hnames.edges, List.length_map, List.length_map]
    omega
  · rw [hnames.chain, hnames.revisions, List.length_map, List.length_map]
    exact not_not.mpr rfl
  · rw [hnames.chain, List.length_map]
    omega
  · rw [hnames.chain]
    exact not_not.mpr path.simple
  · rw [hnames.edges]
    exact not_not.mpr hedges
  · rw [hnames.revisions, List.map_map]
    exact not_not.mpr path.simple
  · rw [hnames.revisions]
    rintro ⟨revision, hmem, hinvalid⟩
    obtain ⟨accessPoint, haccessPoint, rfl⟩ := List.mem_map.mp hmem
    obtain ⟨hpositive, hsafe⟩ := hrevisions accessPoint haccessPoint
    obtain hunsafe | hlow := hinvalid
    · exact hunsafe hsafe
    · exact absurd hlow (by dsimp only; omega)
  · rw [hnames.chain, hselectorId]
    exact not_not.mpr (List.mem_map_of_mem (List.mem_of_getElem? hselector))
  · rw [hnames.edges, hedgeId]
    exact not_not.mpr (List.mem_map_of_mem (List.mem_of_getElem? hedge))

section Read

variable {availability : RoutingAvailabilitySnapshot} (hcatalogue : IsCatalogue configuration)
  (hread : IsReadFrom graph availability configuration)

include hread

theorem nodup_edgeIds_of_read (hcatalogue : IsCatalogue configuration) :
    (path.edges.map RoutingGraphTarget.id).Nodup := by
  refine nodup_edgeIds hcatalogue fun i edge source hedge hsource => ?_
  have hleaves := (path.leaves i edge source hedge hsource).leaves
  obtain ⟨hgraph, -⟩ := path.inGraph source (List.mem_of_getElem? hsource)
  obtain ⟨row, hrow, hid, hsourceId, -⟩ := hread.targets source hgraph edge hleaves
  exact ⟨row, hrow, hid, hsourceId⟩

include hcatalogue

theorem routingRevision_of_read (hmem : accessPoint ∈ graph.accessPoints) :
    1 ≤ accessPoint.routingRevision ∧ IsSafeInteger accessPoint.routingRevision := by
  obtain ⟨row, hrow, -, -, -, -, hrevision⟩ := hread.accessPoints accessPoint hmem
  obtain ⟨hlow, hhigh⟩ := hcatalogue.routingRevisions row hrow
  rw [hrevision] at hlow hhigh
  exact ⟨hlow, by unfold IsSafeInteger; omega⟩

theorem edgeInForce_of_read (hedge : path.edges[i]? = some edge)
    (hsource : path.accessPoints[i]? = some source) :
    EdgeInForce configuration path.providerModel source edge := by
  have henabled := path.leaves i edge source hedge hsource
  obtain ⟨hgraph, -⟩ := path.inGraph source (List.mem_of_getElem? hsource)
  obtain ⟨row, hrow, hid, hsourceId, hremoved, hstatus, htype, hreference, hmodel, hprovider,
    hname⟩ := hread.targets source hgraph edge henabled.leaves
  refine ⟨row, hrow, hid, hsourceId, hremoved, hstatus.trans henabled.status, htype,
    fun _ => hreference, ?_⟩
  intro hproviderModel
  obtain ⟨next, -, haccessPoint, -⟩ | ⟨hend, -, -⟩ := enters_or_arrives hedge
  · rw [hproviderModel] at haccessPoint
    cases haccessPoint
  · have hlength := path.sameLength
    have hlast : path.edges.getLast? = some edge := by
      have hlt := (List.getElem?_eq_some_iff.mp hedge).1
      have hend := List.getElem?_eq_none_iff.mp hend
      rw [List.getLast?_eq_getElem?, show path.edges.length - 1 = i by omega]
      exact hedge
    obtain ⟨-, -, hsameProvider, hsameName⟩ := path.arrives edge hlast
    obtain ⟨hproviderKnown, hnameKnown⟩ :=
      hcatalogue.targetReferences row hrow (htype.trans hproviderModel)
    obtain ⟨providerId, hproviderId⟩ := Option.ne_none_iff_exists'.mp hproviderKnown
    obtain ⟨providerName, hproviderName⟩ := Option.ne_none_iff_exists'.mp hnameKnown
    refine ⟨hmodel, ?_, ?_⟩
    · rw [hproviderId, hsameProvider providerId (hprovider ▸ hproviderId)]
    · rw [hproviderName, hsameName providerName (hname ▸ hproviderName)]

/-- A path of the graph whose candidate is in service is in force in the tables the graph was read
from. -/
theorem inForce_of_inService
    (hchain : candidate.accessPointChainIds = path.accessPoints.map RoutingGraphAccessPoint.id)
    (hmodelId : candidate.providerModelId = path.providerModel.id)
    (hproviderId : candidate.providerId = path.providerModel.providerId)
    (hservice : IsInService availability candidate) : InForce path configuration := by
  refine ⟨?_, fun i edge source hedge hsource => edgeInForce_of_read hcatalogue hread hedge hsource,
    ?_, ?_, ?_⟩
  · intro accessPoint hmem
    obtain ⟨row, hrow, hid, hremoved, -, -, hrevision⟩ :=
      hread.accessPoints accessPoint (path.inGraph accessPoint hmem).1
    have hstatus := hservice.accessPoints accessPoint.id (by
      rw [hchain]
      exact List.mem_map_of_mem hmem)
    obtain ⟨other, hother, hotherId, henabled⟩ := hread.accessPointStatuses _ _ hstatus
    have hsame := List.inj_on_of_nodup_map hcatalogue.accessPoints hrow hother
      (hid.trans hotherId.symm)
    rw [← hsame] at henabled
    exact ⟨row, hrow, hid, hremoved, henabled, hrevision⟩
  · obtain ⟨row, hrow, hid, hprovider, hname⟩ :=
      hread.providerModels path.providerModel path.target
    obtain ⟨other, hother, hotherId, henabled⟩ :=
      hread.providerModelStatuses _ _ hservice.providerModel
    have hsame := List.inj_on_of_nodup_map hcatalogue.providerModels hrow hother
      (by rw [hid, hotherId, hmodelId])
    rw [← hsame] at henabled
    exact ⟨row, hrow, hid, henabled, hprovider, hname⟩
  · rw [← hproviderId]
    exact hread.providerStatuses _ _ hservice.provider
  · rw [← hproviderId]
    exact hread.providerBindingStatuses _ _ hservice.providerBinding

end Read

end Path

/-! ### Compiled candidates -/

/-- The admission of a candidate names the path that was compiled to it. -/
theorem names_commonAdmission {host : Host} {graph : RoutingGraphSnapshot}
    {plan : CompiledRoutingPlan} {selector : RoutingGraphAccessPoint} {rule : CompiledRule}
    (hplan : IsCompiledPlan host graph plan selector rule) (hmem : candidate ∈ plan.candidates) :
    ∃ path : RoutingPath graph plan.entryAccessPointId,
      candidate.accessPointChainIds = path.accessPoints.map RoutingGraphAccessPoint.id ∧
      candidate.pathTargetEdgeIds = path.edges.map RoutingGraphTarget.id ∧
      candidate.providerModelId = path.providerModel.id ∧
      candidate.providerId = path.providerModel.providerId ∧
      ∀ requestId executionOwnerId attemptIndex,
        Names (commonAdmission plan candidate requestId executionOwnerId attemptIndex) path := by
  obtain ⟨target, -, path, rfl, i, hselector, htarget⟩ :=
    Stateful.exists_of_forall₂ hplan.candidates hmem
  refine ⟨path, rfl, rfl, rfl, rfl, fun requestId executionOwnerId attemptIndex => ?_⟩
  refine ⟨rfl, rfl, ?_, ⟨i, selector, target, hselector, htarget, hplan.selectorAccessPointId, rfl,
    hplan.routingRevision, ?_⟩, rfl, rfl, rfl⟩
  · change (List.map _ (List.map _ path.accessPoints)) = _
    rw [List.map_map]
    rfl
  · exact hplan.selectorBehaviorVersion.trans hplan.compiled.behaviorVersion

/-- A candidate compiled from the graph of some tables: its admission has the right shape and passes
the path check of these tables when the candidate is in service, and passes the one of later
tables exactly when these still hold its path, in service. -/
theorem compiledCandidate_admissible {host : Host} {input : CompileRoutingPlanInput}
    {plan : CompiledRoutingPlan} {budget budget' : GraphCompilationBudget}
    {configuration : Configuration} {availability : RoutingAvailabilitySnapshot}
    (hplan : compileRoutingPlan host input budget = .ok (plan, budget'))
    (hcatalogue : IsCatalogue configuration)
    (hread : IsReadFrom input.graph availability configuration)
    {candidate : CompiledRoutingCandidate} (hmem : candidate ∈ plan.candidates) :
    ∃ path : RoutingPath input.graph plan.entryAccessPointId,
      candidate.accessPointChainIds = path.accessPoints.map RoutingGraphAccessPoint.id ∧
      candidate.pathTargetEdgeIds = path.edges.map RoutingGraphTarget.id ∧
      candidate.providerModelId = path.providerModel.id ∧
      ∀ requestId executionOwnerId attemptIndex,
        (∀ command : AdmitCpaBasicProviderInvocationCommand,
          command.toProviderAttemptAdmissionIdentity =
            commonAdmission plan candidate requestId executionOwnerId attemptIndex →
          executionOwnerId ≠ "" → IsSafeInteger attemptIndex → 0 ≤ attemptIndex →
          command.accessPointPriceIds.length = candidate.accessPointChainIds.length →
          assertCpaBasicAdmissionShape command = .ok ()) ∧
        (IsInService availability candidate → ∃ facts, assertFrozenRoutingPath configuration
          (commonAdmission plan candidate requestId executionOwnerId attemptIndex) = .ok facts) ∧
        ∀ later, IsCatalogue later →
          ((∃ facts, assertFrozenRoutingPath later
            (commonAdmission plan candidate requestId executionOwnerId attemptIndex) = .ok facts) ↔
              InForce path later) := by
  obtain ⟨-, -, selector, rule, hcompiled⟩ := compileRoutingPlan_returns hplan
  -- the path that the candidate spells is what all three parts are about
  obtain ⟨path, hchain, hedges, hmodelId, hproviderId, hnames⟩ :=
    names_commonAdmission hcompiled hmem
  refine ⟨path, hchain, hedges, hmodelId, fun requestId executionOwnerId attemptIndex =>
    ⟨?_, ?_, ?_⟩⟩
  · intro command hcommand howner hindex hnonneg hprices
    have hcommandNames := hnames requestId executionOwnerId attemptIndex
    rw [← hcommand] at hcommandNames
    refine assertCpaBasicAdmissionShape_of_names hcommandNames
      (nodup_edgeIds_of_read hread hcatalogue) ?_ ?_ ?_ ?_ ?_
    · intro accessPoint haccessPoint
      exact routingRevision_of_read hcatalogue hread (path.inGraph accessPoint haccessPoint).1
    · rw [hcommand]
      exact howner
    · rw [hcommand]
      exact hindex
    · rw [hcommand]
      exact hnonneg
    · rw [hprices, hchain, List.length_map]
  · intro hservice
    exact (assertFrozenRoutingPath_iff hcatalogue (hnames _ _ _)).mpr
      (inForce_of_inService hcatalogue hread hchain hmodelId hproviderId hservice)
  · intro later hlater
    exact assertFrozenRoutingPath_iff hlater (hnames _ _ _)

/-! ### A disabled provider model -/

/-- The tables that `referringInput` is read from. -/
def storedConfiguration (modelStatus : String) : Configuration where
  accessPoints := [⟨"entry", "team:seller", "enabled", none, "direct", 1, 1⟩,
    ⟨"inner", "team:seller", "enabled", none, "ordered-fallback", 1, 1⟩]
  accessPointTargets := [
    ⟨"edge", "entry", .accessPoint, some "inner", none, none, none, "enabled", none⟩,
    ⟨"edgeA", "inner", .providerModel, none, some "providerA", some "model", some "modelA",
      "enabled", none⟩,
    ⟨"edgeB", "inner", .providerModel, none, some "providerB", some "model", some "modelB",
      "enabled", none⟩]
  providerModels := [⟨"modelA", "providerA", "model", modelStatus⟩,
    ⟨"modelB", "providerB", "model", "enabled"⟩]
  providers := [⟨"providerA", "team:seller", "enabled"⟩, ⟨"providerB", "team:seller", "enabled"⟩]
  providerBindings := [⟨"providerA", "ready"⟩, ⟨"providerB", "ready"⟩]

/-- The statuses that the tables have. -/
def storedAvailability (configuration : Configuration) : RoutingAvailabilitySnapshot where
  accessPointStatuses id := (configuration.accessPoints.find? (·.id = id)).map (·.status)
  providerStatuses id := (configuration.providers.find? (·.id = id)).map (·.status)
  providerModelStatuses id := (configuration.providerModels.find? (·.id = id)).map (·.status)
  providerBindingStatuses id :=
    (configuration.providerBindings.find? (·.providerId = id)).map (·.syncStatus)

theorem exists_of_find?_map {α : Type} {rows : List α} {key status : α → String}
    {id found : String} (h : (rows.find? (key · = id)).map status = some found) :
    ∃ row ∈ rows, key row = id ∧ status row = found := by
  obtain ⟨row, hrow, hstatus⟩ := Option.map_eq_some_iff.mp h
  exact ⟨row, List.mem_of_find?_eq_some hrow, by simpa using List.find?_some hrow, hstatus⟩

theorem isCatalogue_stored (modelStatus : String) :
    IsCatalogue (storedConfiguration modelStatus) where
  accessPoints := by simp [storedConfiguration]
  accessPointTargets := by simp [storedConfiguration]
  providerModels := by simp [storedConfiguration]
  providers := by simp [storedConfiguration]
  providerBindings := by simp [storedConfiguration]
  routingRevisions := by simp [storedConfiguration]
  targetReferences := by simp [storedConfiguration]

theorem isReadFrom_stored (modelStatus : String) : IsReadFrom referringInput.graph
    (storedAvailability (storedConfiguration modelStatus)) (storedConfiguration modelStatus) where
  accessPoints := by
    simp [referringInput, orderedAccessPoint, directAccessPoint, storedConfiguration,
      Table.mem_rows]
  targets := by
    simp [referringInput, orderedAccessPoint, directAccessPoint, storedConfiguration,
      Table.mem_rows]
  providerModels := by simp [referringInput, storedConfiguration, Table.mem_rows]
  accessPointStatuses _ _ := exists_of_find?_map
  providerStatuses _ _ := exists_of_find?_map
  providerModelStatuses _ _ := exists_of_find?_map
  providerBindingStatuses _ _ := exists_of_find?_map

/-- The tables have not changed since the graph was read, but a provider model is disabled. -/
theorem disabledProviderModel_rejected :
    ∃ plan budget', compileRoutingPlan plainHost referringInput plainBudget = .ok (plan, budget') ∧
      IsCatalogue (storedConfiguration "disabled") ∧
      IsReadFrom referringInput.graph (storedAvailability (storedConfiguration "disabled"))
        (storedConfiguration "disabled") ∧
      ∃ candidate ∈ plan.candidates, ∀ facts, assertFrozenRoutingPath
        (storedConfiguration "disabled")
        (commonAdmission plan candidate "request" "owner" 0) ≠ .ok facts := by
  have hrun : (compileRoutingPlan plainHost referringInput plainBudget).toOption.any
      (fun compiled => compiled.1.candidates.any fun candidate =>
        (assertFrozenRoutingPath (storedConfiguration "disabled")
          (commonAdmission compiled.1 candidate "request" "owner" 0)).toOption.isNone) = true := by
    decide +kernel
  obtain ⟨⟨plan, budget'⟩, hcompiled, htest⟩ := exists_of_test hrun
  obtain ⟨candidate, hmem, hnone⟩ := List.any_eq_true.mp htest
  refine ⟨plan, budget', hcompiled, isCatalogue_stored _, isReadFrom_stored _, candidate, hmem, ?_⟩
  intro facts hok
  rw [hok] at hnone
  cases hnone

/-- The second candidate goes by two AccessPoints, and its admission is accepted. -/
theorem compiledCandidate_admissible_referring :
    ∃ plan budget', compileRoutingPlan plainHost referringInput plainBudget = .ok (plan, budget') ∧
      ∃ candidate ∈ plan.candidates, candidate.pathTargetEdgeIds = ["edge", "edgeB"] ∧
        ∃ path : RoutingPath referringInput.graph plan.entryAccessPointId,
          candidate.accessPointChainIds = path.accessPoints.map RoutingGraphAccessPoint.id ∧
          ∃ facts, assertFrozenRoutingPath (storedConfiguration "enabled")
            (commonAdmission plan candidate "request" "owner" 0) = .ok facts := by
  have hrun : (compileRoutingPlan plainHost referringInput plainBudget).toOption.any
      (fun compiled => compiled.1.candidates.any fun candidate =>
        candidate.pathTargetEdgeIds = ["edge", "edgeB"] &&
          candidate.accessPointChainIds = ["entry", "inner"] &&
          candidate.providerId = "providerB" && candidate.providerModelId = "modelB") = true := by
    decide +kernel
  obtain ⟨⟨plan, budget'⟩, hcompiled, htest⟩ := exists_of_test hrun
  obtain ⟨candidate, hmem, hcandidate⟩ := List.any_eq_true.mp htest
  simp only [Bool.and_eq_true, decide_eq_true_eq] at hcandidate
  obtain ⟨⟨⟨hedges, hchain⟩, hprovider⟩, hmodel⟩ := hcandidate
  have hservice : IsInService (storedAvailability (storedConfiguration "enabled")) candidate := by
    refine ⟨?_, ?_, ?_, ?_⟩
    · rw [hchain]
      decide
    · rw [hprovider]
      rfl
    · rw [hmodel]
      rfl
    · rw [hprovider]
      rfl
  obtain ⟨path, hpath, -, -, hadmissible⟩ := compiledCandidate_admissible hcompiled
    (isCatalogue_stored "enabled") (isReadFrom_stored "enabled") hmem
  exact ⟨plan, budget', hcompiled, candidate, hmem, hedges, path, hpath,
    (hadmissible "request" "owner" 0).2.1 hservice⟩

end Frely.Application
