import Frely.ModelAccess.Equiv.Completeness
import Frely.ModelAccess.Equiv.RoutingRevision
import Mathlib.Logic.Equiv.List

/-!
# Enabled AccessPoints stay routable

An enabled AccessPoint compiles when every path of enabled targets from it is a `SoundPath`.  The
commands do not check that: a change looks at the AccessPoint that it edits, and not at those that
refer to it.  `run_routable`: when every accepted change leaves sound paths through the AccessPoint
that it edits (`SoundChange`), every enabled AccessPoint of every state compiles.
`renamedTarget_unroutable` is a change without that.

* `SoundStore.soundRoutes`: what the compiler checks follows from what is stored.
* `StepOf.soundStore`: a step changes the paths through one AccessPoint only.
-/

namespace Frely.ModelAccess

open Frely.Postgres Frely.RequestExecution Checked Transaction StableSort Stateful DepthFirst

variable {host : CommandHost} {store old new : RoutingStore}

/-! ### Paths -/

/-- What is checked of the paths through an AccessPoint: its models, its rule, and what its enabled
targets refer to, AccessPoints by their identifiers and models of providers by their names. -/
structure RoutingNode where
  exposedModel : String
  targetModel : String
  ruleId : String
  enabled : Bool
  accessPoints : Set String
  providerModelNames : Set String

/-- The AccessPoints by id. -/
abbrev RoutingNodes := String → Option RoutingNode

/-- The AccessPoints that enabled targets name. -/
def referredAccessPoints (targets : List ResolvedTarget) : Set String :=
  {id | ∃ target ∈ targets, target.status = "enabled" ∧ target.targetType = .accessPoint ∧
    target.targetAccessPointId = some id}

/-- The provider models that enabled targets name. -/
def referredModelNames (targets : List ResolvedTarget) : Set String :=
  {name | ∃ target ∈ targets, target.status = "enabled" ∧ target.targetType = .providerModel ∧
    target.targetProviderModelName = some name}

/-- An AccessPoint as it is stored. -/
def storedNode (store : RoutingStore) (row : AccessPointRow) : RoutingNode where
  exposedModel := row.exposedModel
  targetModel := row.targetModel
  ruleId := row.routingRuleId
  enabled := row.status = "enabled"
  accessPoints := referredAccessPoints (store.unremovedTargetsOf row.id)
  providerModelNames := referredModelNames (store.unremovedTargetsOf row.id)

/-- The AccessPoints that are not removed. -/
def storedNodes (store : RoutingStore) : RoutingNodes :=
  fun id => (store.findUnremoved id).map (storedNode store)

/-- One AccessPoint refers to the other. -/
def LeadsTo (nodes : RoutingNodes) (source target : String) : Prop :=
  ∃ node ∈ nodes source, target ∈ node.accessPoints

/-- A path of enabled targets from an enabled AccessPoint, through AccessPoints of any status. -/
structure IsPath (nodes : RoutingNodes) (path : List String) : Prop where
  starts : ∃ id ∈ path.head?, ∃ node ∈ nodes id, node.enabled = true
  chain : path.IsChain (LeadsTo nodes)

/-- The AccessPoint falls back in order. -/
def isFallback (nodes : RoutingNodes) (id : String) : Bool :=
  (nodes id).any (·.ruleId = "ordered-fallback")

/-- Models that fit along the path, at most one fallback rule, and no more hops than allowed. -/
structure SoundPath (nodes : RoutingNodes) (path : List String) : Prop where
  models : path.IsChain fun source target => ∀ node ∈ nodes source, ∀ next ∈ nodes target,
    next.exposedModel = node.targetModel
  names : ∀ id ∈ path, ∀ node ∈ nodes id, ∀ name ∈ node.providerModelNames,
    name = node.targetModel
  fallbacks : path.countP (isFallback nodes) ≤ 1
  hops : path.length ≤ maxAccessPointToAccessPointHops + 1

/-! ### What a change will store -/

def trimmedText (value : String) : String := String.ofList (trimmed value.toList)

/-- A given target that is enabled. -/
def IsGivenEnabled (target : RoutingTargetInput) : Prop := target.status.getD "enabled" = "enabled"

/-- The AccessPoints that the command's enabled targets name. -/
def givenAccessPoints (definition : RoutingDefinitionInput) : Set String :=
  {id | ∃ target ∈ definition.targets, IsGivenEnabled target ∧ target.type = "access-point" ∧
    trimmedText (target.targetAccessPointId.getD "") = id}

/-- The provider models that the command's enabled targets name. -/
def givenModelNames (definition : RoutingDefinitionInput) (targetModel : String) : Set String :=
  {name | ∃ target ∈ definition.targets, IsGivenEnabled target ∧ target.type = "provider-model" ∧
    trimmedText (target.targetProviderModelName.getD targetModel) = name}

/-- The edited AccessPoint as the command gives it: without a routing, it keeps its own. -/
def changedNode (store : RoutingStore) (existing : AccessPointRow)
    (command : ChangeAccessPointCommand) : RoutingNode where
  exposedModel := trimmedText command.exposedModel
  targetModel := trimmedText command.targetModel
  ruleId := (command.routing.map (·.selectorId)).getD existing.routingRuleId
  enabled := command.status.getD existing.status = "enabled"
  accessPoints := match command.routing with
    | some definition => givenAccessPoints definition
    | none => (storedNode store existing).accessPoints
  providerModelNames := match command.routing with
    | some definition => givenModelNames definition (trimmedText command.targetModel)
    | none => (storedNode store existing).providerModelNames

/-- The AccessPoints as the change would leave them. -/
def prospectiveNodes (store : RoutingStore) (id : String) (command : ChangeAccessPointCommand) :
    RoutingNodes :=
  fun key => if key = id then
      (store.findUnremoved id).map fun existing => changedNode store existing command
    else storedNodes store key

/-- Every path through the edited AccessPoint will be sound. -/
def SoundChange (store : RoutingStore) (id : String) (command : ChangeAccessPointCommand) : Prop :=
  ∀ path, IsPath (prospectiveNodes store id command) path → id ∈ path →
    SoundPath (prospectiveNodes store id command) path

/-! ### What is stored -/

/-- How many targets are enabled. -/
def enabledCount (targets : List ResolvedTarget) : Nat :=
  (targets.filter (·.status = "enabled")).length

/-- The row of an AccessPoint with targets and a configuration that were normalized. -/
structure ValidRow (host : CommandHost) (store : RoutingStore) (row : AccessPointRow) : Prop where
  targets : ∀ target ∈ store.unremovedTargetsOf row.id,
    ∃ targetModel, ValidTarget store targetModel target
  config : ∃ config, row.routingRuleConfigJson = host.canonicalizeConfig config ∧
    normalizeAccessPointSelectorConfig row.routingRuleId row.routingRuleBehaviorVersion config.json
      (enabledCount (store.unremovedTargetsOf row.id)) = .ok config

/-- The tables of a graph in which every path can be routed. -/
structure SoundStore (host : CommandHost) (store : RoutingStore) : Prop where
  inv : RoutingInv store
  normal : StoredNormal host store
  valid : ∀ id row, store.findUnremoved id = some row → ValidRow host store row
  sound : ∀ path, IsPath (storedNodes store) path → SoundPath (storedNodes store) path

/-- Parsing a configuration that was written gives it back. -/
def RoundTrips (host : CommandHost) : Prop :=
  ∀ config : AccessPointSelectorConfig,
    (∀ maxAttempts ∈ config.maxAttempts, IsSafeInteger maxAttempts) →
      host.parseJson (host.canonicalizeConfig config) = some config.json

/-! ### From the store to the graph -/

variable {row : AccessPointRow} {id targetModel : String} {source : RoutingGraphAccessPoint}
  {target : ResolvedTarget}

theorem find?_graph (h : store.findUnremoved id = some row) :
    store.graph.accessPoints.find? id = some (graphAccessPoint store row) := by
  obtain ⟨hfind, -⟩ := findUnremoved_eq_some.mp h
  obtain ⟨hmem, hkey⟩ := Table.find?_eq_some.mp hfind
  exact Table.find?_eq_some.mpr ⟨List.mem_map_of_mem hmem, hkey⟩

/-- An AccessPoint of the graph that is not removed. -/
def IsStored (store : RoutingStore) (accessPoint : RoutingGraphAccessPoint) : Prop :=
  ∃ row, store.findUnremoved accessPoint.id = some row ∧ accessPoint = graphAccessPoint store row

theorem isStored_of_leads {target : RoutingGraphAccessPoint}
    (h : Leads host.toHost store.graph source target) : IsStored store target := by
  obtain ⟨edge, -, -, hrequire⟩ := h
  obtain ⟨hfind, hremoved, -⟩ := requireTargetAccessPoint_eq_ok hrequire
  obtain ⟨row, hrow, rfl⟩ := List.mem_map.mp (Table.mem_of_find? hfind)
  refine ⟨row, findUnremoved_eq_some.mpr ⟨Table.find?_of_mem hrow, ?_⟩, rfl⟩
  exact (truthy_nonEmpty row.removedAt).mp hremoved

theorem enabledTargets_perm (row : AccessPointRow) :
    (enabledTargets host.toHost (graphAccessPoint store row)).Perm
      (((store.unremovedTargetsOf row.id).filter (·.status = "enabled")).map graphTarget) := by
  refine (perm_sortBy _).trans (.of_eq ?_)
  rw [show (graphAccessPoint store row).targets = (store.targetsOf row.id).map graphTarget from rfl,
    List.filter_map, RoutingStore.unremovedTargetsOf, List.filter_filter]
  refine congrArg (List.map graphTarget) (List.filter_congr fun target _ => ?_)
  rw [← Bool.decide_and]
  exact decide_eq_decide.mpr (and_congr_right fun _ => truthy_nonEmpty target.removedAt)

theorem mem_enabledTargets_graph {target : RoutingGraphTarget} :
    target ∈ enabledTargets host.toHost (graphAccessPoint store row) ↔
      ∃ stored ∈ store.unremovedTargetsOf row.id, stored.status = "enabled" ∧
        graphTarget stored = target := by
  rw [(enabledTargets_perm row).mem_iff, List.mem_map]
  constructor
  · rintro ⟨stored, hstored, rfl⟩
    obtain ⟨hmem, henabled⟩ := List.mem_filter.mp hstored
    exact ⟨stored, hmem, of_decide_eq_true henabled, rfl⟩
  · rintro ⟨stored, hmem, henabled, rfl⟩
    exact ⟨stored, List.mem_filter.mpr ⟨hmem, decide_eq_true henabled⟩, rfl⟩

theorem ValidTarget.shape (h : ValidTarget store targetModel target) :
    validateTargetShape (graphTarget target) = .ok () := by
  unfold validateTargetShape graphTarget
  cases htype : target.targetType with
  | accessPoint =>
    obtain ⟨⟨id, hid, hne⟩, -⟩ := h.reference.accessPoint htype
    simp [hid, h.accessPoint htype, truthy, hne]
  | providerModel =>
    obtain ⟨model, -, hne, hmodelId, -⟩ := h.providerModel htype
    simp [(h.reference.providerModel htype).1, hmodelId, truthy, hne]

/-! ### Configurations -/

variable {config : AccessPointSelectorConfig}

theorem retryableFailureClass_text {failureClass : ProviderFailureClass} {item : Json}
    (h : retryableFailureClass item = some failureClass) :
    retryableFailureClass (.string (failureClassText failureClass)) = some failureClass := by
  unfold retryableFailureClass at h
  split at h <;> cases h <;> rfl

theorem mapM_failureClassText {items : List Json} {classes : List ProviderFailureClass}
    (h : items.mapM retryableFailureClass = some classes) :
    (classes.map fun failureClass => Json.string (failureClassText failureClass)).mapM
      retryableFailureClass = some classes := by
  induction items generalizing classes with
  | nil =>
    cases h
    rfl
  | cons item items ih =>
    rw [List.mapM_cons] at h
    obtain ⟨failureClass, hfirst, h⟩ := Option.bind_eq_some_iff.mp h
    obtain ⟨others, hothers, h⟩ := Option.bind_eq_some_iff.mp h
    cases h
    rw [List.map_cons, List.mapM_cons, retryableFailureClass_text hfirst, ih hothers]
    rfl

theorem normalizedMaxAttempts_number {value : Option Json} {count : Nat} {maxAttempts : Int}
    (hcount : 2 ≤ count) (h : normalizedMaxAttempts value count = .ok maxAttempts) :
    normalizedMaxAttempts (some (.number (some maxAttempts))) count = .ok maxAttempts ∧
      IsSafeInteger maxAttempts := by
  obtain ⟨hlow, hhigh⟩ := normalizedMaxAttempts_eq_ok hcount h
  have hsafe : IsSafeInteger maxAttempts := by
    unfold normalizedMaxAttempts at h
    split at h
    · cases h
      unfold IsSafeInteger
      omega
    · obtain ⟨_, hvalid, h⟩ := bind_eq_ok.mp h
      have hvalid := rejectIf_eq_ok.mp hvalid
      cases h
      tauto
    · cases h
  refine ⟨bind_eq_ok.mpr ⟨(), rejectIf_of_not ?_, rfl⟩, hsafe⟩
  rintro (hrange | hsmall | hlarge)
  · exact hrange hsafe
  · omega
  · omega

theorem normalizedRetryOn_array {value : Option Json} {retryOn : List ProviderFailureClass}
    (h : normalizedRetryOn value = .ok retryOn) :
    normalizedRetryOn (some (.array (retryOn.map fun failureClass =>
      .string (failureClassText failureClass)))) = .ok retryOn := by
  unfold normalizedRetryOn at h
  split at h
  · cases h
    rfl
  · next items =>
    split at h
    · cases h
    · next classes hclasses =>
      obtain ⟨_, hvalid, h⟩ := bind_eq_ok.mp h
      cases h
      unfold normalizedRetryOn
      simp only [mapM_failureClassText hclasses]
      exact bind_eq_ok.mpr ⟨(), hvalid, rfl⟩
  · cases h

/-- Normalizing a normal configuration does not change it. -/
theorem normalizeConfig_json {selector : AccessPointSelectorId} {input : Json} {count : Nat}
    (h : selector.normalizeConfig input count = .ok config) :
    selector.normalizeConfig config.json count = .ok config ∧
      ∀ maxAttempts ∈ config.maxAttempts, IsSafeInteger maxAttempts := by
  cases selector with
  | direct =>
    obtain ⟨_, -, h⟩ := bind_eq_ok.mp h
    obtain ⟨_, hcount, h⟩ := bind_eq_ok.mp h
    cases h
    exact ⟨bind_eq_ok.mpr ⟨[], rfl, bind_eq_ok.mpr ⟨(), hcount, rfl⟩⟩, by
      simp [AccessPointSelectorConfig.maxAttempts]⟩
  | orderedFallback =>
    obtain ⟨_, hcount, h⟩ := bind_eq_ok.mp h
    obtain ⟨record, -, h⟩ := bind_eq_ok.mp h
    obtain ⟨maxAttempts, hmax, h⟩ := bind_eq_ok.mp h
    obtain ⟨retryOn, hretryOn, h⟩ := bind_eq_ok.mp h
    cases h
    have hrange := rejectIf_eq_ok.mp hcount
    obtain ⟨hnumber, hsafe⟩ := normalizedMaxAttempts_number (by omega) hmax
    constructor
    · apply bind_eq_ok.mpr
      refine ⟨(), hcount, bind_eq_ok.mpr ⟨_, rfl, ?_⟩⟩
      apply bind_eq_ok.mpr
      exact ⟨maxAttempts, hnumber, bind_eq_ok.mpr ⟨retryOn, normalizedRetryOn_array hretryOn, rfl⟩⟩
    · intro other hother
      cases hother
      exact hsafe

theorem normalizeAccessPointSelectorConfig_json {ruleId : String} {behaviorVersion : Int}
    {input : Json} {count : Nat}
    (h : normalizeAccessPointSelectorConfig ruleId behaviorVersion input count = .ok config) :
    normalizeAccessPointSelectorConfig ruleId behaviorVersion config.json count = .ok config ∧
      ∀ maxAttempts ∈ config.maxAttempts, IsSafeInteger maxAttempts := by
  obtain ⟨selector, hselector, hconfig⟩ := bind_eq_ok.mp h
  obtain ⟨hsame, hsafe⟩ := normalizeConfig_json hconfig
  exact ⟨bind_eq_ok.mpr ⟨selector, hselector, hsame⟩, hsafe⟩

/-! ### From stored paths to routes -/

theorem ValidTarget.requireProviderModel (h : ValidTarget store targetModel target)
    (htype : target.targetType = .providerModel)
    (hname : ∀ name ∈ target.targetProviderModelName, name = row.targetModel) :
    ∃ providerModel, requireProviderModel store.graph (graphAccessPoint store row)
      (graphTarget target) = .ok providerModel := by
  obtain ⟨model, hmodel, hne, hmodelId, hproviderId, hmodelName⟩ := h.providerModel htype
  have hfind : store.graph.providerModels.find? model.id = some model := Table.find?_of_mem hmodel
  have hequal : model.providerModelName = row.targetModel := hname _ hmodelName
  refine ⟨model, ?_⟩
  unfold Frely.ModelAccess.requireProviderModel
  have htruthy : truthy (graphTarget target).targetProviderModelId = some model.id := by
    simp [graphTarget, hmodelId, truthy, hne]
  simp only [htruthy, hfind]
  refine bind_eq_ok.mpr ⟨(), rejectIf_of_not ?_, rfl⟩
  simp [graphTarget, graphAccessPoint, hproviderId, hmodelName, hequal]

theorem requireTargetAccessPoint_graph {next : AccessPointRow}
    (hid : target.targetAccessPointId = some id) (hne : id ≠ "")
    (hnext : store.findUnremoved id = some next) (hmodel : next.exposedModel = row.targetModel) :
    requireTargetAccessPoint store.graph (graphAccessPoint store row) (graphTarget target) =
      .ok (graphAccessPoint store next) := by
  have hremoved := (findUnremoved_eq_some.mp hnext).2
  have htruthy : truthy (graphTarget target).targetAccessPointId = some id := by
    simp [graphTarget, hid, truthy, hne]
  unfold requireTargetAccessPoint
  simp only [htruthy]
  refine bind_eq_ok.mpr ⟨graphAccessPoint store next, ?_, bind_eq_ok.mpr ⟨(), rejectIf_of_not ?_,
    rfl⟩⟩
  · unfold requireAccessPoint
    simp only [find?_graph hnext]
    refine bind_eq_ok.mpr ⟨(), rejectIf_of_not ?_, rfl⟩
    simp [graphAccessPoint, hremoved, truthy]
  · exact not_not.mpr hmodel

namespace SoundStore

theorem soundStop (h : SoundStore host store) (htrips : RoundTrips host) {id : String}
    {row : AccessPointRow} (hrow : store.findUnremoved id = some row)
    (hmodels : ∀ key ∈ referredAccessPoints (store.unremovedTargetsOf row.id), ∀ next,
      store.findUnremoved key = some next → next.exposedModel = row.targetModel)
    (hnames : ∀ name ∈ referredModelNames (store.unremovedTargetsOf row.id),
      name = row.targetModel) :
    SoundStop host.toHost store.graph (graphAccessPoint store row) := by
  obtain ⟨hfind, hremoved⟩ := findUnremoved_eq_some.mp hrow
  have hid : row.id = id := Table.key_of_find? hfind
  have hvalid := h.valid id row hrow
  obtain ⟨config, hwritten, hconfig⟩ := hvalid.config
  constructor
  · exact List.mem_map_of_mem (Table.mem_of_find? hfind)
  · exact (truthy_nonEmpty row.removedAt).mpr hremoved
  · intro target htarget
    obtain ⟨stored, hstored, -, rfl⟩ := mem_enabledTargets_graph.mp htarget
    obtain ⟨_, hvalidTarget⟩ := hvalid.targets stored hstored
    exact ⟨hvalidTarget.position, hvalidTarget.shape⟩
  · have hpositions : DistinctPositions store row.id := hid ▸ h.normal.positions id (by simp [hrow])
    rw [((enabledTargets_perm row).map RoutingGraphTarget.position).nodup_iff, List.map_map]
    exact hpositions.sublist (List.filter_sublist.map _)
  · obtain ⟨hnormal, hsafe⟩ := normalizeAccessPointSelectorConfig_json hconfig
    refine ⟨config.json, config, ?_, mapError_eq_ok.mpr ?_⟩
    · unfold parseConfig
      rw [show (graphAccessPoint store row).routingRuleConfigJson = row.routingRuleConfigJson from
        rfl, hwritten, htrips config hsafe]
    · rw [(enabledTargets_perm row).length_eq, List.length_map]
      exact hnormal
  · intro target htarget htype
    obtain ⟨stored, hstored, henabled, rfl⟩ := mem_enabledTargets_graph.mp htarget
    obtain ⟨_, hvalidTarget⟩ := hvalid.targets stored hstored
    obtain ⟨⟨key, hkey, hne⟩, -⟩ := hvalidTarget.reference.accessPoint htype
    obtain ⟨hmem, hunremoved⟩ := mem_unremovedTargetsOf.mp hstored
    obtain ⟨next, hnext⟩ := Option.ne_none_iff_exists'.mp
      (h.inv.references _ hmem hunremoved key hkey).2
    have hmodel := hmodels key ⟨stored, hstored, henabled, htype, hkey⟩ next hnext
    exact ⟨_, requireTargetAccessPoint_graph hkey hne hnext hmodel⟩
  · intro target htarget htype
    obtain ⟨stored, hstored, henabled, rfl⟩ := mem_enabledTargets_graph.mp htarget
    obtain ⟨_, hvalidTarget⟩ := hvalid.targets stored hstored
    refine hvalidTarget.requireProviderModel htype fun name hname => ?_
    exact hnames name ⟨stored, hstored, henabled, htype, hname⟩

/-- A route goes along a path of the store. -/
theorem leadsTo_of_leads {target : RoutingGraphAccessPoint} (hsource : IsStored store source)
    (h : Leads host.toHost store.graph source target) :
    LeadsTo (storedNodes store) source.id target.id := by
  obtain ⟨row, hrow, rfl⟩ := hsource
  obtain ⟨edge, hedge, htype, hrequire⟩ := h
  obtain ⟨-, -, hrefers⟩ := requireTargetAccessPoint_eq_ok hrequire
  obtain ⟨stored, hstored, henabled, rfl⟩ := mem_enabledTargets_graph.mp hedge
  exact ⟨storedNode store row, Option.map_eq_some_iff.mpr ⟨row, hrow, rfl⟩, stored, hstored,
    henabled, htype, hrefers⟩

theorem isStored_of_chain {route : List RoutingGraphAccessPoint} :
    ∀ {first : RoutingGraphAccessPoint}, IsStored store first →
      (first :: route).IsChain (Leads host.toHost store.graph) →
      (∀ accessPoint ∈ first :: route, IsStored store accessPoint) ∧
        ((first :: route).map RoutingGraphAccessPoint.id).IsChain
          (LeadsTo (storedNodes store)) := by
  induction route with
  | nil =>
    intro first hfirst _
    refine ⟨fun accessPoint hmem => ?_, List.isChain_singleton _⟩
    rw [List.mem_singleton.mp hmem]
    exact hfirst
  | cons next rest ih =>
    intro first hfirst hchain
    obtain ⟨hleads, hrest⟩ := List.isChain_cons_cons.mp hchain
    obtain ⟨hall, hids⟩ := ih (isStored_of_leads hleads) hrest
    exact ⟨List.forall_mem_cons.mpr ⟨hfirst, hall⟩,
      List.isChain_cons_cons.mpr ⟨leadsTo_of_leads hfirst hleads, hids⟩⟩

theorem enabledTarget_of_leadsTo (h : SoundStore host store) {source target : String}
    (hleads : LeadsTo (storedNodes store) source target) : EnabledTarget store source target := by
  obtain ⟨node, hnode, hrefers⟩ := hleads
  obtain ⟨row, hrow, rfl⟩ := Option.map_eq_some_iff.mp hnode
  obtain ⟨stored, hstored, henabled, htype, hrefers⟩ := hrefers
  have hid : row.id = source := id_of_findUnremoved hrow
  rw [hid] at hstored
  obtain ⟨hmem, hunremoved⟩ := mem_unremovedTargetsOf.mp hstored
  exact ⟨by simp [hrow], (h.inv.references _ hmem hunremoved target hrefers).2, stored, hstored,
    henabled, htype, hrefers⟩

/-- What the compiler checks on its way from an enabled AccessPoint. -/
theorem soundRoutes (h : SoundStore host store) (htrips : RoundTrips host)
    (hrow : store.findUnremoved id = some row) (henabled : row.status = "enabled") :
    SoundRoutes host.toHost store.graph (graphAccessPoint store row) := by
  intro before current hroute
  have hid : row.id = id := id_of_findUnremoved hrow
  obtain ⟨rest, hrest⟩ := List.head?_eq_some_iff.mp hroute.starts
  have hstart : IsStored store (graphAccessPoint store row) := by
    refine ⟨row, ?_, rfl⟩
    rw [show (graphAccessPoint store row).id = id from hid]
    exact hrow
  have hchain := hroute.chain
  rw [hrest] at hchain
  obtain ⟨hstored, hids⟩ := isStored_of_chain hstart hchain
  rw [← hrest] at hstored hids
  have hpath : IsPath (storedNodes store) ((before ++ [current]).map
    RoutingGraphAccessPoint.id) := by
    refine ⟨⟨id, ?_, storedNode store row, Option.map_eq_some_iff.mpr ⟨row, hrow, rfl⟩,
      decide_eq_true henabled⟩, hids⟩
    rw [hrest, ← hid]
    rfl
  have hsound := h.sound _ hpath
  obtain ⟨currentRow, hcurrent, rfl⟩ := hstored current (by simp)
  have hnode : storedNode store currentRow ∈
      storedNodes store (graphAccessPoint store currentRow).id :=
    Option.map_eq_some_iff.mpr ⟨currentRow, hcurrent, rfl⟩
  constructor
  · apply h.soundStop htrips hcurrent
    · -- the path may go on to everything that the AccessPoint refers to
      intro key hkey next hnext
      have hlast : LeadsTo (storedNodes store) (graphAccessPoint store currentRow).id key :=
        ⟨storedNode store currentRow, hnode, hkey⟩
      rw [List.map_append, List.map_singleton] at hpath
      have hlonger : IsPath (storedNodes store) (before.map RoutingGraphAccessPoint.id ++
          [(graphAccessPoint store currentRow).id, key]) := by
        constructor
        · have hstarts := hpath.starts
          rw [List.head?_append] at hstarts ⊢
          exact hstarts
        · exact List.isChain_append_cons_cons.mpr
            ⟨hpath.chain, hlast, List.isChain_singleton _⟩
      have hmodels := (List.isChain_append_cons_cons.mp (h.sound _ hlonger).models).2.1
      exact hmodels _ hnode (storedNode store next) (Option.map_eq_some_iff.mpr ⟨next, hnext, rfl⟩)
    · exact hsound.names _ (by simp) _ hnode
  · have hnodup := h.inv.acyclic.nodup
      (hids.imp fun source target => h.enabledTarget_of_leadsTo)
    rw [List.map_append, List.nodup_append] at hnodup
    exact fun hmem => hnodup.2.2 _ hmem _ (by simp) rfl
  · have hhops := hsound.hops
    simp only [List.length_map, List.length_append, List.length_singleton] at hhops
    omega
  · have hfallbacks := hsound.fallbacks
    rw [List.countP_map] at hfallbacks
    refine le_of_eq_of_le (List.countP_congr fun accessPoint hmem => ?_) hfallbacks
    obtain ⟨other, hother, rfl⟩ := hstored accessPoint hmem
    have hfound : store.findUnremoved other.id = some other := hother
    simp [isFallback, storedNodes, hfound, storedNode, isOrderedFallback, graphAccessPoint]

end SoundStore

/-- An AccessPoint compiles for the model that it exposes, when nothing stops the compilation and
its limits are not below the size of the graph. -/
def Compiles (host : CommandHost) (store : RoutingStore) (row : AccessPointRow) : Prop :=
  ∀ options budget, GraphCompilationBudget.create options = .ok budget →
    Suffices options store.graph → ∃ plan budget',
      compileRoutingPlan host.toHost ⟨row.id, row.exposedModel, store.graph⟩ budget =
        .ok (plan, budget')

theorem SoundStore.compiles (h : SoundStore host store) (htrips : RoundTrips host)
    (hrow : store.findUnremoved id = some row) (henabled : row.status = "enabled") :
    Compiles host store row := by
  intro options budget hcreate hsuffices
  have hid : row.id = id := id_of_findUnremoved hrow
  have hentry : requireAccessPoint store.graph row.id = .ok (graphAccessPoint store row) := by
    unfold requireAccessPoint
    simp only [find?_graph (hid ▸ hrow)]
    refine bind_eq_ok.mpr ⟨(), rejectIf_of_not (not_not.mpr ?_), rfl⟩
    exact (truthy_nonEmpty row.removedAt).mpr (findUnremoved_eq_some.mp hrow).2
  obtain ⟨plan, hplan⟩ := @compileRoutingPlan_returns_of_sound host.toHost
    (graphAccessPoint store row) ⟨row.id, row.exposedModel, store.graph⟩ hentry rfl
    (h.soundRoutes htrips hrow henabled)
  obtain ⟨budget', hcompiled, -⟩ := hplan budget (hasRoom_create hcreate hsuffices)
  exact ⟨plan, budget', hcompiled⟩

/-! ### What a step leaves -/

variable {targets : List ResolvedTarget}

theorem ValidTarget.congr (hmodels : new.providerModels = old.providerModels)
    (h : ValidTarget old targetModel target) : ValidTarget new targetModel target :=
  ⟨h.position, h.reference, h.accessPoint, hmodels ▸ h.providerModel⟩

theorem enabledCount_of_perm {others : List ResolvedTarget} (h : targets.Perm others) :
    enabledCount targets = enabledCount others :=
  (h.filter _).length_eq

section Edits

variable {now : NonEmptyText} {row : AccessPointRow} {targets : List ResolvedTarget}

theorem Edited.validRow_of_ne (h : Edited now row targets old new) {other : AccessPointRow}
    (hid : other.id ≠ row.id) (hvalid : ValidRow host old other) : ValidRow host new other := by
  obtain ⟨config, hwritten, hconfig⟩ := hvalid.config
  refine ⟨fun target htarget => ?_, config, hwritten, ?_⟩
  · obtain ⟨targetModel, hvalidTarget⟩ :=
      hvalid.targets target ((h.mem_unremovedTargetsOf_of_ne hid).mp htarget)
    exact ⟨targetModel, hvalidTarget.congr h.providerModels⟩
  · rw [enabledCount_of_perm (h.perm_of_ne hid)]
    exact hconfig

theorem Edited.storedNodes_of_ne (h : Edited now row targets old new) (hid : id ≠ row.id) :
    storedNodes new id = storedNodes old id := by
  unfold storedNodes
  rw [h.findUnremoved_of_ne hid]
  refine Option.map_congr fun other hother => ?_
  have hkey : other.id ≠ row.id := by
    rw [id_of_findUnremoved hother]
    exact hid
  simp only [storedNode, referredAccessPoints, referredModelNames,
    h.mem_unremovedTargetsOf_of_ne hkey]

end Edits

variable {freshId : Nat → String} {existing : List ResolvedTarget}
  {providerModelIds : ProviderModelIds}

theorem enabledCount_of_resolves {normalized : List NormalizedRoutingTarget}
    (h : List.Forall₂ (Resolves freshId existing providerModelIds) normalized targets) :
    enabledCount targets = enabledTargetCount normalized := by
  have hstatuses : targets.map ResolvedTarget.status =
      normalized.map NormalizedRoutingTarget.status := by
    refine map_of_forall₂ h fun hresolves => ?_
    obtain ⟨_, -, hnew⟩ := hresolves.eq_new
    rw [hnew]
    rfl
  have hcount := congrArg (fun statuses => (statuses.filter (· = "enabled")).length) hstatuses
  simp only [List.filter_map, List.length_map] at hcount
  exact hcount

variable {now : NonEmptyText}

/-- The row that a step writes with the targets of a normal definition. -/
theorem validRow_of_resolves {env : CommandEnvironment} {now : NonEmptyText} {row : AccessPointRow}
    {targets : List ResolvedTarget} {freshId : Nat → String} {existing : List ResolvedTarget}
    {providerModelIds : ProviderModelIds} {targetModel : String} {input : RoutingDefinitionInput}
    {routing : NormalizedRoutingDefinition} {source : RoutingSource}
    (hedited : Edited now row targets old new) (hfresh : DrawsFresh old freshId)
    (hnormal : IsNormal host targetModel input routing)
    (hvalid : validateRoutingTargets env old source routing.targets = .ok providerModelIds)
    (hresolved : List.Forall₂ (Resolves freshId existing providerModelIds) routing.targets targets)
    (hrule : row.routingRuleId = routing.ruleId ∧
      row.routingRuleBehaviorVersion = routing.behaviorVersion ∧
      row.routingRuleConfigJson = routing.configJson) : ValidRow host new row := by
  obtain ⟨hruleId, hversion, hconfigJson⟩ := hrule
  constructor
  · intro target htarget
    obtain ⟨normalized, hmem, hresolves⟩ :=
      exists_of_forall₂ hresolved (hedited.mem_unremovedTargetsOf_self htarget)
    have hvalidTarget := hresolves.validTarget (hnormal.normalTarget hmem)
      (validateRoutingTargets_eq_ok hvalid).2
    exact ⟨targetModel, hvalidTarget.congr hedited.providerModels⟩
  · refine ⟨routing.config, hconfigJson.trans hnormal.configJson, ?_⟩
    have hnodup := nodup_of_resolves hfresh hnormal hresolved hedited
    rw [hruleId, hversion, enabledCount_of_perm (hedited.perm hnodup),
      enabledCount_of_resolves hresolved]
    exact (normalizeAccessPointSelectorConfig_json hnormal.config).1

/-! ### Paths after a step -/

variable {path : List String} {nodes : RoutingNodes}

theorem IsPath.congr {nodes' : RoutingNodes} (h : IsPath nodes path)
    (hsame : ∀ id ∈ path, nodes' id = nodes id) : IsPath nodes' path := by
  obtain ⟨⟨id, hhead, hnode⟩, hchain⟩ := h
  refine ⟨⟨id, hhead, ?_⟩, ?_⟩
  · rw [hsame id (List.mem_of_head? hhead)]
    exact hnode
  · refine (List.IsChain.iff_mem.mp hchain).imp fun source target hboth => ?_
    unfold LeadsTo
    rw [hsame source hboth.1]
    exact hboth.2.2

theorem SoundPath.congr {nodes' : RoutingNodes} (h : SoundPath nodes path)
    (hsame : ∀ id ∈ path, nodes' id = nodes id) : SoundPath nodes' path := by
  refine ⟨?_, fun id hid => ?_, ?_, h.hops⟩
  · refine (List.IsChain.iff_mem.mp h.models).imp fun source target hboth => ?_
    rw [hsame source hboth.1, hsame target hboth.2.1]
    exact hboth.2.2
  · rw [hsame id hid]
    exact h.names id hid
  · refine le_of_eq_of_le (List.countP_congr fun id hid => ?_) h.fallbacks
    unfold isFallback
    rw [hsame id hid]

theorem not_mem_of_isChain {R : String → String → Prop}
    (h : ∀ source target, source ≠ id → R source target → target ≠ id) :
    ∀ {first : String}, first ≠ id → (first :: path).IsChain R → id ∉ first :: path := by
  induction path with
  | nil =>
    intro first hfirst _ hmem
    exact hfirst (List.mem_singleton.mp hmem).symm
  | cons next rest ih =>
    intro first hfirst hchain hmem
    obtain ⟨hstep, hrest⟩ := List.isChain_cons_cons.mp hchain
    rcases List.mem_cons.mp hmem with hequal | hmem
    · exact hfirst hequal.symm
    · exact ih (h first next hfirst hstep) hrest hmem

/-- Paths that do not come to the edited AccessPoint are as sound as before. -/
theorem Edited.sound_of_not_mem (h : Edited now row targets old new)
    (hsound : ∀ path, IsPath (storedNodes old) path → SoundPath (storedNodes old) path)
    (hpath : IsPath (storedNodes new) path) (hmem : row.id ∉ path) :
    SoundPath (storedNodes new) path := by
  have hsame : ∀ id ∈ path, storedNodes new id = storedNodes old id := fun id hid =>
    h.storedNodes_of_ne (ne_of_mem_of_not_mem hid hmem)
  exact (hsound path (hpath.congr fun id hid => (hsame id hid).symm)).congr hsame

/-- No path comes to an AccessPoint that is not enabled and that nothing refers to. -/
theorem Edited.sound_of_unreferenced (h : Edited now row targets old new)
    (hsound : ∀ path, IsPath (storedNodes old) path → SoundPath (storedNodes old) path)
    (hunreferenced : ∀ source target, LeadsTo (storedNodes old) source target → target ≠ row.id)
    (hdisabled : ∀ node ∈ storedNodes new row.id, node.enabled = false) :
    ∀ path, IsPath (storedNodes new) path → SoundPath (storedNodes new) path := by
  intro path hpath
  refine h.sound_of_not_mem hsound hpath ?_
  obtain ⟨⟨id, hhead, node, hnode, henabled⟩, hchain⟩ := hpath
  obtain ⟨rest, rfl⟩ := List.head?_eq_some_iff.mp hhead
  refine not_mem_of_isChain (fun source target hne hleads => ?_) ?_ hchain
  · unfold LeadsTo at hleads
    rw [h.storedNodes_of_ne hne] at hleads
    exact hunreferenced source target hleads
  · rintro rfl
    rw [hdisabled node hnode] at henabled
    cases henabled

/-! ### The edited AccessPoint -/

variable {candidate : RoutingTargetInput}

theorem requiredTrimmed_text {code name text : String} {value : Option String}
    (h : requiredTrimmed code value name = .ok text) : text = trimmedText (value.getD "") := by
  unfold requiredTrimmed at h
  dsimp only at h
  split_ifs at h
  cases h
  rfl

theorem required_text {value name text : String} (h : required value name = .ok text) :
    text = trimmedText value := by
  have htrimmed := requiredTrimmed_text h
  rwa [Option.getD_some] at htrimmed

/-- A target that stands for a given one. -/
structure StandsFor (targetModel : String) (candidate : RoutingTargetInput) (status : String)
    (type : AccessPointTargetType) (targetAccessPointId targetProviderModelName : Option String) :
    Prop where
  status : status = candidate.status.getD "enabled"
  kind : candidate.type = "access-point" ∧ type = .accessPoint ∧
      targetAccessPointId = some (trimmedText (candidate.targetAccessPointId.getD "")) ∨
    candidate.type = "provider-model" ∧ type = .providerModel ∧
      targetProviderModelName = some (trimmedText
        (candidate.targetProviderModelName.getD targetModel))

theorem normalizeReference_standsFor {index : Nat} {target : NormalizedRoutingTarget}
    (h : normalizeReference targetModel index candidate = .ok target) :
    StandsFor targetModel candidate target.status target.type target.targetAccessPointId
      target.targetProviderModelName := by
  unfold normalizeReference at h
  split_ifs at h with htype
  · obtain ⟨id, hid, h⟩ := bind_eq_ok.mp h
    obtain ⟨_, -, h⟩ := bind_eq_ok.mp h
    cases h
    exact ⟨rfl, .inl ⟨htype, rfl, congrArg some (requiredTrimmed_text hid)⟩⟩
  · obtain ⟨_, hprovider, h⟩ := bind_eq_ok.mp h
    obtain ⟨providerId, -, h⟩ := bind_eq_ok.mp h
    obtain ⟨name, hname, h⟩ := bind_eq_ok.mp h
    obtain ⟨_, -, h⟩ := bind_eq_ok.mp h
    obtain ⟨_, -, h⟩ := bind_eq_ok.mp h
    have hname := requiredTrimmed_text hname
    rw [Option.getD_some] at hname
    cases h
    exact ⟨rfl, .inr ⟨not_not.mp (rejectIf_eq_ok.mp hprovider), rfl, congrArg some hname⟩⟩

theorem normalizeTargets_standsFor {candidates : List RoutingTargetInput}
    {targets : List NormalizedRoutingTarget} : ∀ {index : Nat} {ids : List String}
      {positions : List Int},
      normalizeTargets targetModel index ids positions candidates = .ok targets →
      List.Forall₂ (fun candidate target => StandsFor targetModel candidate target.status
        target.type
        target.targetAccessPointId target.targetProviderModelName) candidates targets := by
  induction candidates generalizing targets with
  | nil =>
    intro index ids positions h
    cases h
    exact .nil
  | cons candidate rest ih =>
    intro index ids positions h
    obtain ⟨_, -, h⟩ := bind_eq_ok.mp h
    obtain ⟨_, -, h⟩ := bind_eq_ok.mp h
    obtain ⟨_, -, h⟩ := bind_eq_ok.mp h
    obtain ⟨target, htarget, h⟩ := bind_eq_ok.mp h
    obtain ⟨others, hothers, h⟩ := bind_eq_ok.mp h
    cases h
    exact .cons (normalizeReference_standsFor htarget) (ih hothers)

theorem Resolves.standsFor {freshId : Nat → String} {existing : List ResolvedTarget}
    {providerModelIds : ProviderModelIds} {target : NormalizedRoutingTarget}
    {resolved : ResolvedTarget} {targetModel : String} {candidate : RoutingTargetInput}
    (h : Resolves freshId existing providerModelIds target resolved)
    (hstands : StandsFor targetModel candidate target.status target.type target.targetAccessPointId
      target.targetProviderModelName) :
    StandsFor targetModel candidate resolved.status resolved.targetType resolved.targetAccessPointId
      resolved.targetProviderModelName := by
  obtain ⟨_, -, hnew⟩ := h.eq_new
  rw [hnew]
  exact hstands

section Changes

variable {env : CommandEnvironment} {freshId : Nat → String} {id : String}
  {command : ChangeAccessPointCommand} {change : PreparedChange} {targets : List ResolvedTarget}
  {changed : Bool} {row : AccessPointRow}

/-- The targets that are stored after a change with a routing stand for the given ones. -/
theorem Changed.standsFor
    (h : Changed env host freshId id command change targets changed row old new)
    (hfresh : DrawsFresh old freshId) {definition : RoutingDefinitionInput}
    (hdefinition : command.routing = some definition) :
    (∀ target ∈ new.unremovedTargetsOf row.id, ∃ candidate ∈ definition.targets,
      StandsFor change.targetModel candidate target.status target.targetType
        target.targetAccessPointId target.targetProviderModelName) ∧
      ∀ candidate ∈ definition.targets, ∃ target ∈ new.unremovedTargetsOf row.id,
        StandsFor change.targetModel candidate target.status target.targetType
          target.targetAccessPointId target.targetProviderModelName := by
  have hrouting := h.prepared.routing
  rw [hdefinition] at hrouting
  obtain ⟨_, -, hrouting⟩ := bind_eq_ok.mp hrouting
  obtain ⟨_, -, hrouting⟩ := bind_eq_ok.mp hrouting
  obtain ⟨_, -, hrouting⟩ := bind_eq_ok.mp hrouting
  obtain ⟨unsorted, hunsorted, hrouting⟩ := bind_eq_ok.mp hrouting
  obtain ⟨config, -, hrouting⟩ := bind_eq_ok.mp hrouting
  obtain ⟨overrides, -, hrouting⟩ := bind_eq_ok.mp hrouting
  have hsorted : sortTargets host.toHost unsorted = change.routing.targets :=
    congrArg NormalizedRoutingDefinition.targets (Except.ok.inj hrouting)
  have hall := normalizeTargets_standsFor hunsorted
  have hresolved := h.resolved
  rw [← hsorted] at hresolved
  constructor
  · intro target htarget
    obtain ⟨normalized, hmem, hresolves⟩ :=
      exists_of_forall₂ hresolved (h.edited.mem_unremovedTargetsOf_self htarget)
    obtain ⟨candidate, hcandidate, hstands⟩ := exists_of_forall₂ hall (mem_sortBy.mp hmem)
    exact ⟨candidate, hcandidate, hresolves.standsFor hstands⟩
  · intro candidate hcandidate
    obtain ⟨normalized, hmem, hstands⟩ := exists_right_of_forall₂ hall hcandidate
    obtain ⟨target, htarget, hresolves⟩ :=
      exists_right_of_forall₂ hresolved (mem_sortBy.mpr hmem)
    exact ⟨target, (h.edited.mem_unremovedTargetsOf_iff (h.nodup hfresh)).mpr htarget,
      hresolves.standsFor hstands⟩

/-- Without a routing the targets stay. -/
theorem Changed.mem_unremovedTargetsOf_kept (howned : WellOwned old)
    (h : Changed env host freshId id command change targets changed row old new)
    (hfresh : DrawsFresh old freshId) (hnone : command.routing = none) :
    target ∈ new.unremovedTargetsOf row.id ↔
      target ∈ old.unremovedTargetsOf change.existing.id := by
  have hid : change.existing.id = id := id_of_findUnremoved h.prepared.existing
  obtain ⟨config, -, hnormal⟩ :=
    ((changedRouting_eq_ok h.prepared.routing).resolve_left (by simp [hnone])).2
  have hresolved := h.resolved
  rw [← hid] at hresolved
  have hstored : ∀ resolved ∈ targets, resolved ∈ old.unremovedTargetsOf change.existing.id := by
    intro resolved hmem
    obtain ⟨normalized, hnormalized, hresolves⟩ := exists_of_forall₂ hresolved hmem
    exact stored_of_resolves howned hnormal hnormalized hresolves
  rw [h.edited.mem_unremovedTargetsOf_iff (h.nodup hfresh)]
  refine ⟨hstored target, fun htarget => ?_⟩
  -- the target that stands for the stored one has its identifier
  obtain ⟨normalized, hnormalized, hnormalizes⟩ :=
    hnormal.exists_target (List.mem_map_of_mem htarget)
  obtain ⟨resolved, hmem, hresolves⟩ := exists_right_of_forall₂ hresolved hnormalized
  have hrow := (mem_unremovedTargetsOf.mp htarget).1
  have hsame : resolved.id = target.id := by
    refine hresolves.given target.id ?_
    rw [hnormalizes.id]
    exact Option.filter_eq_some_iff.mpr ⟨rfl, decide_eq_true (howned.ids _ hrow)⟩
  obtain rfl : resolved = target := List.inj_on_of_nodup_map
    (nodup_unremovedTargetsOf old change.existing.id) (hstored resolved hmem) htarget hsame
  exact hmem

theorem Changed.storedNode_eq (howned : WellOwned old)
    (h : Changed env host freshId id command change targets changed row old new)
    (hfresh : DrawsFresh old freshId) :
    storedNode new row = changedNode old change.existing command := by
  have hexposed : row.exposedModel = trimmedText command.exposedModel :=
    h.stored.exposedModel.trans (required_text h.prepared.exposedModel)
  have htargetModel : change.targetModel = trimmedText command.targetModel :=
    required_text h.prepared.targetModel
  have hstatus : row.status = command.status.getD change.existing.status :=
    h.stored.status.trans h.prepared.status
  unfold storedNode changedNode
  rw [hexposed, h.stored.targetModel, htargetModel, hstatus, h.stored.routingRuleId]
  cases hrouting : command.routing with
  -- the routing is kept, and so are the targets
  | none =>
    obtain ⟨config, -, hnormal⟩ :=
      ((changedRouting_eq_ok h.prepared.routing).resolve_left (by simp [hrouting])).2
    simp only [hnormal.ruleId, storedRouting, storedNode, referredAccessPoints, referredModelNames,
      h.mem_unremovedTargetsOf_kept howned hfresh hrouting, Option.map_none, Option.getD_none]
  | some definition =>
    have hrule : change.routing.ruleId = definition.selectorId := by
      rcases changedRouting_eq_ok h.prepared.routing with ⟨_, hgiven, hnormal⟩ | ⟨hnone, -⟩
      · cases hrouting.symm.trans hgiven
        exact hnormal.ruleId
      · rw [hrouting] at hnone
        cases hnone
    -- each target stands for a candidate of the definition, and each candidate has one
    obtain ⟨hstands, hgiven⟩ := h.standsFor hfresh hrouting
    have haccessPoints : referredAccessPoints (new.unremovedTargetsOf row.id) =
        givenAccessPoints definition := by
      ext key
      constructor
      · rintro ⟨target, htarget, henabled, htype, hkey⟩
        obtain ⟨candidate, hcandidate, hstatus, hkind⟩ := hstands target htarget
        refine ⟨candidate, hcandidate, hstatus.symm.trans henabled, ?_⟩
        rcases hkind with ⟨hcandidateType, -, hid⟩ | ⟨-, hother, -⟩
        · exact ⟨hcandidateType, Option.some.inj (hid.symm.trans hkey)⟩
        · cases htype.symm.trans hother
      · rintro ⟨candidate, hcandidate, henabled, htype, rfl⟩
        obtain ⟨target, htarget, hstatus, hkind⟩ := hgiven candidate hcandidate
        refine ⟨target, htarget, hstatus.trans henabled, ?_⟩
        rcases hkind with ⟨-, htargetType, hid⟩ | ⟨hother, -⟩
        · exact ⟨htargetType, hid⟩
        · rw [htype] at hother
          simp at hother
    have hnames : referredModelNames (new.unremovedTargetsOf row.id) =
        givenModelNames definition (trimmedText command.targetModel) := by
      rw [← htargetModel]
      ext name
      constructor
      · rintro ⟨target, htarget, henabled, htype, hname⟩
        obtain ⟨candidate, hcandidate, hstatus, hkind⟩ := hstands target htarget
        refine ⟨candidate, hcandidate, hstatus.symm.trans henabled, ?_⟩
        rcases hkind with ⟨-, hother, -⟩ | ⟨hcandidateType, -, hgivenName⟩
        · cases htype.symm.trans hother
        · exact ⟨hcandidateType, Option.some.inj (hgivenName.symm.trans hname)⟩
      · rintro ⟨candidate, hcandidate, henabled, htype, rfl⟩
        obtain ⟨target, htarget, hstatus, hkind⟩ := hgiven candidate hcandidate
        refine ⟨target, htarget, hstatus.trans henabled, ?_⟩
        rcases hkind with ⟨hother, -⟩ | ⟨-, htargetType, hgivenName⟩
        · rw [htype] at hother
          simp at hother
        · exact ⟨htargetType, hgivenName⟩
    simp only [haccessPoints, hnames, hrule, Option.map_some, Option.getD_some]

theorem Changed.storedNodes_eq (howned : WellOwned old)
    (h : Changed env host freshId id command change targets changed row old new)
    (hfresh : DrawsFresh old freshId) : storedNodes new = prospectiveNodes old id command := by
  obtain ⟨hid, hremoved, -⟩ := h.removedAt
  funext key
  unfold prospectiveNodes
  split_ifs with hkey
  · rw [hkey, storedNodes, ← hid, h.edited.findUnremoved_self hremoved, hid, h.prepared.existing,
      Option.map_some, Option.map_some, h.storedNode_eq howned hfresh]
  · exact h.edited.storedNodes_of_ne (hid ▸ hkey)

end Changes

/-! ### Steps and runs -/

/-- An accepted change leaves sound paths through the AccessPoint that it edits. -/
def SoundInput (host : CommandHost) (store : RoutingStore) (input : RoutingInput) : Prop :=
  ∀ id command, input.command = .changeAccessPoint id command →
    (∃ result, (routingStep host input store).1 = .ok result) → SoundChange store id command

theorem Edited.soundStore (h : Edited now row targets old new) (hold : SoundStore host old)
    (hinv : RoutingInv new) (hnormal : StoredNormal host new)
    (hrow : row.removedAt = none → ValidRow host new row)
    (hsound : ∀ path, IsPath (storedNodes new) path → SoundPath (storedNodes new) path) :
    SoundStore host new := by
  refine ⟨hinv, hnormal, fun id other hother => ?_, hsound⟩
  rcases h.findUnremoved_cases hother with ⟨rfl, hremoved⟩ | ⟨hid, hbefore⟩
  · exact hrow hremoved
  · refine h.validRow_of_ne ?_ (hold.valid id other hbefore)
    rw [id_of_findUnremoved hbefore]
    exact hid

theorem StepOf.soundStore {input : RoutingInput}
    (hfresh : DrawsFresh old input.freshId) (hold : SoundStore host old)
    (h : StepOf host input old new)
    (hchange : ∀ id command, input.command = .changeAccessPoint id command →
      SoundChange old id command) : SoundStore host new := by
  have hinv : RoutingInv new := (h.routingInv hold.inv).1
  have hnormal : StoredNormal host new := h.storedNormal hfresh hold.normal
  cases h with
  | unchanged hsame =>
    subst hsame
    exact hold
  | @created _ _ _ request _ id _ _ _ hcreated =>
    have hedited := hcreated.edited
    refine hedited.soundStore hold hinv hnormal (fun _ => validRow_of_resolves hedited hfresh
      hcreated.routing hcreated.valid hcreated.resolved ⟨rfl, rfl, rfl⟩) ?_
    refine hedited.sound_of_unreferenced hold.sound (fun source target hleads hid => ?_) ?_
    · -- what a stored target refers to is stored
      obtain ⟨row, hrow⟩ := Option.ne_none_iff_exists'.mp (hold.enabledTarget_of_leadsTo hleads).2.1
      have hfree : old.accessPoints.find? target = none := hid ▸ hcreated.fresh
      cases hfree.symm.trans (findUnremoved_eq_some.mp hrow).1
    · intro node hnode
      obtain ⟨row, hrow, rfl⟩ := Option.map_eq_some_iff.mp hnode
      cases (hedited.findUnremoved_self rfl).symm.trans hrow
      rfl
  | @changed id command _ _ _ row hcommand hchanged =>
    have hedited := hchanged.edited
    obtain ⟨_, _, hdefinition⟩ := hchanged.exists_normal
    refine hedited.soundStore hold hinv hnormal (fun _ => validRow_of_resolves hedited hfresh
      hdefinition hchanged.prepared.valid hchanged.resolved ⟨hchanged.stored.routingRuleId,
        hchanged.stored.routingRuleBehaviorVersion, hchanged.stored.routingRuleConfigJson⟩) ?_
    intro path hpath
    by_cases hmem : id ∈ path
    · rw [hchanged.storedNodes_eq hold.inv.owned hfresh] at hpath ⊢
      exact hchange id command hcommand path hpath hmem
    · rw [← hchanged.removedAt.1] at hmem
      exact hedited.sound_of_not_mem hold.sound hpath hmem
  | @removed id existing _ hremoved =>
    have hedited := hremoved.edited
    refine hedited.soundStore hold hinv hnormal (by simp) ?_
    refine hedited.sound_of_unreferenced hold.sound (fun source target hleads hid => ?_) ?_
    · obtain ⟨-, -, edge, hedge, -, -, hrefers⟩ := hold.enabledTarget_of_leadsTo hleads
      obtain ⟨hmem, hunremoved⟩ := mem_unremovedTargetsOf.mp hedge
      have hkey : existing.id = id := id_of_findUnremoved hremoved.found
      have htarget : target = id := hid.trans hkey
      exact hremoved.unreferenced _ hmem (htarget ▸ hrefers) hunremoved
    · intro node hnode
      obtain ⟨row, hrow, -⟩ := Option.map_eq_some_iff.mp hnode
      rcases hedited.findUnremoved_cases hrow with ⟨-, hnow⟩ | ⟨hne, -⟩
      · cases hnow
      · exact absurd rfl hne

theorem soundStore_step {input : RoutingInput} (hfresh : DrawsFresh store input.freshId)
    (h : SoundStore host store) (hinput : SoundInput host store input) :
    SoundStore host (routingStep host input store).2 := by
  cases hresult : (routingStep host input store).1 with
  | error e =>
    have hsame : (routingStep host input store).2 = store := commit_error hresult
    rw [hsame]
    exact h
  | ok result =>
    exact (stepOf_routingStep h.inv.owned input).soundStore hfresh h
      fun id command hcommand => hinput id command hcommand ⟨result, hresult⟩

theorem soundStore_empty (providerModels : Table RoutingGraphProviderModel) :
    SoundStore host (emptyRoutingStore providerModels) where
  inv := routingInv_empty providerModels
  normal := storedNormal_empty providerModels
  valid := by
    intro id row hrow
    cases hrow
  sound := by
    rintro path ⟨⟨id, -, node, hnode, -⟩, -⟩
    cases hnode

/-- Every accepted change of a run leaves sound paths through the AccessPoint that it edits. -/
def SoundRun (host : CommandHost) (start : RoutingStore) (inputs : List RoutingInput) : Prop :=
  ∀ step ∈ Machine.trace (routingStep host) start inputs, SoundInput host step.before step.input

theorem soundStore_final {start : RoutingStore} (hstart : SoundStore host start)
    {inputs : List RoutingInput} (hfresh : FreshRun host start inputs)
    (hsound : SoundRun host start inputs) :
    SoundStore host (Machine.final (routingStep host) start inputs) := by
  induction inputs generalizing start with
  | nil => exact hstart
  | cons input inputs ih =>
    have hdraws : DrawsFresh start input.freshId :=
      hfresh (Machine.stepOf (routingStep host) start input) List.mem_cons_self
    have hinput : SoundInput host start input :=
      hsound (Machine.stepOf (routingStep host) start input) List.mem_cons_self
    exact ih (soundStore_step hdraws hstart hinput)
      (fun step hmem => hfresh step (List.mem_cons_of_mem _ hmem))
      fun step hmem => hsound step (List.mem_cons_of_mem _ hmem)

/-- **Routability.** In a run whose accepted changes leave sound paths, every enabled AccessPoint
that is not removed compiles for the model that it exposes. -/
theorem run_routable (host : CommandHost) (htrips : RoundTrips host)
    (providerModels : Table RoutingGraphProviderModel) (inputs : List RoutingInput)
    (hfresh : FreshRun host (emptyRoutingStore providerModels) inputs)
    (hsound : SoundRun host (emptyRoutingStore providerModels) inputs) :
    let store := Machine.final (routingStep host) (emptyRoutingStore providerModels) inputs
    ∀ id row, store.findUnremoved id = some row → row.status = "enabled" →
      Compiles host store row := by
  intro store id row hrow henabled
  exact (soundStore_final (soundStore_empty providerModels) hfresh hsound).compiles htrips hrow
    henabled

/-! ### A renamed model -/

def enableOne : RoutingInput :=
  plainRoutingInput "2" (.changeAccessPoint "ap_1" (plainChange "model" none (some "enabled")))

def accessPointTarget (id targetAccessPointId : String) : RoutingTargetInput where
  id := some id
  type := "access-point"
  targetAccessPointId := some targetAccessPointId
  targetProviderId := none
  targetProviderModelName := none
  position := 0
  status := none

/-- `ap_3`, which refers to `ap_1`. -/
def createFront : RoutingInput :=
  plainRoutingInput "3" (.createAccessPoint
    (plainCreation "front" "front" (accessPointTarget "front_edge" "ap_1")) none none)

def enableFront : RoutingInput :=
  plainRoutingInput "4" (.changeAccessPoint "ap_3" (plainChange "front" none (some "enabled")))

def renameOne : RoutingInput :=
  plainRoutingInput "5" (.changeAccessPoint "ap_1" (plainChange "renamed" none none))

def plainOptions : GraphCompilationBudgetOptions :=
  ⟨10, 10, 100, 10, none, fun _ => false, fun _ => 0⟩

def plainStart : GraphCompilationBudget := ⟨plainOptions, [], [], 0, 0, 0⟩

def errorCode {α : Type} : Except RelayError α → Option String
  | .ok _ => none
  | .error e => some e.code

/-- `ap_1` gets another name for its model while `ap_3` refers to it: the command is accepted, and
`ap_3` does not compile any more. -/
theorem renamedTarget_unroutable :
    let start := emptyRoutingStore plainProviderModels
    let inputs := [createOne, enableOne, createFront, enableFront, renameOne]
    let store := Machine.final (routingStep plainCommandHost) start inputs
    (∀ step ∈ Machine.trace (routingStep plainCommandHost) start inputs,
      ∃ result, step.output = .ok result) ∧
    (store.findUnremoved "ap_3").map AccessPointRow.status = some "enabled" ∧
    Suffices plainOptions store.graph ∧
    GraphCompilationBudget.create plainOptions = .ok plainStart ∧
    errorCode (compileRoutingPlan plainHost ⟨"ap_3", "front", store.graph⟩ plainStart) =
      some "access_point_target_model_not_allowed" := by
  intro start inputs store
  have haccepted : (Machine.trace (routingStep plainCommandHost) start inputs).all
      (fun step => step.output.toOption.any fun _ => true) = true := by
    decide
  have hsize : (nodeIds store.graph).length = 2 ∧ (edgeIds store.graph).length = 2 ∧
      ((nodeIds store.graph).map (configBytes store.graph)).sum = 4 := by
    decide
  obtain ⟨hnodes, hedges, hbytes⟩ := hsize
  refine ⟨fun step hstep => ?_, by decide, ⟨fun _ => rfl, by simp [plainOptions], ?_, ?_, ?_⟩,
    rfl, by decide +kernel⟩
  · obtain ⟨result, hresult, -⟩ := exists_of_test (List.all_eq_true.mp haccepted step hstep)
    exact ⟨result, hresult⟩
  · rw [hnodes]
    decide
  · rw [hedges]
    decide
  · rw [hbytes]
    decide

/-! ### Enabled AccessPoints, one of which refers to the other -/

def failureClassCode : ProviderFailureClass → Nat
  | .connectError => 0
  | .timeout => 1
  | .rateLimited => 2
  | .upstream5xx => 3
  | .nonRetryable => 4

def failureClassOf : Nat → ProviderFailureClass
  | 0 => .connectError
  | 1 => .timeout
  | 2 => .rateLimited
  | 3 => .upstream5xx
  | _ => .nonRetryable

/-- The configurations of ordered-fallback rules written as numbers of strokes. -/
def strokes (maxAttempts : Int) (retryOn : List ProviderFailureClass) : String :=
  String.ofList (List.replicate (Encodable.encode (maxAttempts, retryOn.map failureClassCode)) '1')

def readStrokes (text : String) : Option Json :=
  (Encodable.decode (α := Int × List Nat) text.toList.length).map fun config =>
    (AccessPointSelectorConfig.orderedFallback config.1 (config.2.map failureClassOf)).json

/-- A language that reads every configuration that it writes. -/
def strokesHost : CommandHost :=
  { plainCommandHost with
    parseJson := fun text => if text = "\x7b\x7d" then some (.object []) else readStrokes text
    canonicalizeConfig := fun config => match config with
      | .direct => "\x7b\x7d"
      | .orderedFallback maxAttempts retryOn => strokes maxAttempts retryOn }

theorem roundTrips_strokesHost : RoundTrips strokesHost := by
  intro config _
  cases config with
  | direct => rfl
  | orderedFallback maxAttempts retryOn =>
    have hne : strokes maxAttempts retryOn ≠ "\x7b\x7d" := by
      intro hequal
      have hchars := congrArg String.toList hequal
      rw [strokes, String.toList_ofList] at hchars
      have hmem : '\x7b' ∈ List.replicate
          (Encodable.encode (maxAttempts, retryOn.map failureClassCode)) '1' := by
        rw [hchars]
        decide
      cases (List.mem_replicate.mp hmem).2
    have hclasses : (retryOn.map failureClassCode).map failureClassOf = retryOn := by
      rw [List.map_map, List.map_id'']
      intro failureClass
      cases failureClass <;> rfl
    change (if strokes maxAttempts retryOn = "\x7b\x7d" then some (Json.object [])
      else readStrokes (strokes maxAttempts retryOn)) = _
    rw [if_neg hne, readStrokes, strokes, String.toList_ofList, List.length_replicate,
      Encodable.encodek, Option.map_some, hclasses]

/-- An AccessPoint with a direct rule for `model` that refers to nothing but, from `ap_3`,
`ap_1`. -/
def isShallow (store : RoutingStore) (row : AccessPointRow) : Bool :=
  row.routingRuleId = "direct" && row.targetModel = "model" &&
    (row.id ≠ "ap_1" || row.exposedModel = "model") &&
    (store.unremovedTargetsOf row.id).all fun target =>
      target.targetProviderModelName.all (· = "model") &&
        target.targetAccessPointId.all fun referred => row.id = "ap_3" && referred = "ap_1"

structure ShallowNode (id : String) (node : RoutingNode) : Prop where
  ruleId : node.ruleId = "direct"
  targetModel : node.targetModel = "model"
  exposedModel : id = "ap_1" → node.exposedModel = "model"
  names : ∀ name ∈ node.providerModelNames, name = "model"
  accessPoints : ∀ target ∈ node.accessPoints, id = "ap_3" ∧ target = "ap_1"

theorem shallowNode_storedNode (h : isShallow store row = true) :
    ShallowNode row.id (storedNode store row) := by
  simp only [isShallow, Bool.and_eq_true, Bool.or_eq_true, decide_eq_true_eq,
    List.all_eq_true] at h
  obtain ⟨⟨⟨hrule, hmodel⟩, hexposed⟩, htargets⟩ := h
  refine ⟨hrule, hmodel, fun hid => hexposed.resolve_left (not_not.mpr hid), ?_, ?_⟩
  · rintro name ⟨target, hmem, -, -, hname⟩
    simpa [hname] using (htargets target hmem).1
  · rintro referred ⟨target, hmem, -, -, hreferred⟩
    simpa [hreferred] using (htargets target hmem).2

theorem soundPath_of_shallow (hnodes : ∀ id, ∀ node ∈ nodes id, ShallowNode id node)
    (hpath : IsPath nodes path) : SoundPath nodes path := by
  have hleads : ∀ source target, LeadsTo nodes source target →
      source = "ap_3" ∧ target = "ap_1" := by
    rintro source target ⟨node, hnode, htarget⟩
    exact (hnodes source node hnode).accessPoints target htarget
  have hlength : path.length ≤ 2 := by
    have hchain := hpath.chain
    rcases path with - | ⟨first, - | ⟨second, - | ⟨third, rest⟩⟩⟩
    · simp
    · simp
    · simp
    · obtain ⟨hfirst, hchain⟩ := List.isChain_cons_cons.mp hchain
      obtain ⟨hsecond, -⟩ := List.isChain_cons_cons.mp hchain
      exact absurd ((hleads _ _ hfirst).2.symm.trans (hleads _ _ hsecond).1) (by decide)
  have hdirect : ∀ id ∈ path, ¬isFallback nodes id = true := by
    intro id _
    unfold isFallback
    cases hnode : nodes id with
    | none => simp
    | some node => simp [(hnodes id node hnode).ruleId]
  refine ⟨?_, ?_, ?_, le_trans hlength (by decide)⟩
  · refine hpath.chain.imp fun source target hlead node hnode next hnext => ?_
    rw [(hnodes source node hnode).targetModel]
    exact (hnodes target next hnext).exposedModel (hleads _ _ hlead).2
  · intro id _ node hnode name hname
    rw [(hnodes id node hnode).targetModel]
    exact (hnodes id node hnode).names name hname
  · rw [List.countP_eq_zero.mpr hdirect]
    exact Nat.zero_le _

/-- A change that leaves the routing leaves such AccessPoints as they are. -/
theorem soundChange_of_shallow (h : store.accessPoints.rows.all (isShallow store) = true)
    {exposedModel : String} (hexposed : id = "ap_1" → trimmedText exposedModel = "model")
    (status : Option String) : SoundChange store id (plainChange exposedModel none status) := by
  have hstored : ∀ key found, store.findUnremoved key = some found →
      ShallowNode key (storedNode store found) := by
    intro key found hfound
    have hmem := (Table.find?_eq_some.mp (findUnremoved_eq_some.mp hfound).1).1
    have hshallow := shallowNode_storedNode (List.all_eq_true.mp h found hmem)
    rwa [id_of_findUnremoved hfound] at hshallow
  intro path hpath _
  refine soundPath_of_shallow (fun key node hnode => ?_) hpath
  have hnode : prospectiveNodes store id _ key = some node := hnode
  unfold prospectiveNodes at hnode
  split_ifs at hnode with hid
  · obtain ⟨existing, hexisting, rfl⟩ := Option.map_eq_some_iff.mp hnode
    have hshallow := hstored id existing hexisting
    refine ⟨hshallow.ruleId, ?_, fun hfirst => hexposed (hid.symm.trans hfirst), hshallow.names,
      hid ▸ hshallow.accessPoints⟩
    show trimmedText "model" = "model"
    decide
  · obtain ⟨found, hfound, rfl⟩ := Option.map_eq_some_iff.mp hnode
    exact hstored key found hfound

theorem drawsFresh_of {suffix : String}
    (h : store.targets.find? ("ap_target" ++ "_" ++ suffix) = none) :
    DrawsFresh store fun _ => suffix :=
  fun _ => h

theorem run_routable_enabled :
    let store := Machine.final (routingStep strokesHost) (emptyRoutingStore plainProviderModels)
      [createOne, enableOne, createFront, enableFront]
    ∃ row, store.findUnremoved "ap_3" = some row ∧
      (store.unremovedTargetsOf "ap_3").map ResolvedTarget.targetAccessPointId = [some "ap_1"] ∧
      Compiles strokesHost store row := by
  intro store
  have hfound : (store.findUnremoved "ap_3").any (·.status = "enabled") = true := by decide
  obtain ⟨row, hrow⟩ : ∃ row, store.findUnremoved "ap_3" = some row :=
    Option.isSome_iff_exists.mp (by decide)
  have henabled : row.status = "enabled" := by
    rw [hrow] at hfound
    exact of_decide_eq_true hfound
  refine ⟨row, hrow, by decide, run_routable strokesHost roundTrips_strokesHost plainProviderModels
    [createOne, enableOne, createFront, enableFront] ?_ ?_ "ap_3" row hrow henabled⟩
  · intro step hstep
    simp only [Machine.trace, List.mem_cons, List.not_mem_nil, or_false] at hstep
    rcases hstep with rfl | rfl | rfl | rfl
    all_goals exact drawsFresh_of (by decide)
  · intro step hstep id command hcommand _
    simp only [Machine.trace, List.mem_cons, List.not_mem_nil, or_false] at hstep
    rcases hstep with rfl | rfl | rfl | rfl
    · cases hcommand
    · cases hcommand
      exact soundChange_of_shallow (by decide) (fun _ => by decide) _
    · cases hcommand
    · cases hcommand
      exact soundChange_of_shallow (by decide) (fun hid => absurd hid (by decide)) _

end Frely.ModelAccess
