import Frely.ModelAccess.Equiv.RoutingKernel
import Mathlib.Algebra.Order.BigOperators.Group.Finset

/-!
# Completeness of the routing compiler

`compileRoutingPlan_returns_of_sound`: the compiler returns a plan when every route of enabled
targets from the entry is sound, and nothing stops it in the middle.  A budget suffices when its
limits are not below the size of the graph: `HasRoom` is what every step of the compiler keeps,
since it counts an AccessPoint and a target once.

* `compileRule_returns_of_sound`: the rule of an AccessPoint with everything that is checked of it.
* `findSelectorFrom_returns_of_sound`, `compileCandidateFrom_returns_of_sound`: the two loops.
  Their invariant is a `Route`, whose length and hops left add up to the limit.
-/

namespace Frely.ModelAccess

open Frely.Postgres Checked StableSort Stateful

variable {host : Host} {graph : RoutingGraphSnapshot}

/-! ### Budgets that suffice -/

variable {budget : GraphCompilationBudget} {accessPoint : RoutingGraphAccessPoint}

/-- The AccessPoints of a graph. -/
def nodeIds (graph : RoutingGraphSnapshot) : List String :=
  graph.accessPoints.rows.map RoutingGraphAccessPoint.id

/-- The targets of a graph. -/
def edgeIds (graph : RoutingGraphSnapshot) : List String :=
  graph.accessPoints.rows.flatMap fun accessPoint => accessPoint.targets.map RoutingGraphTarget.id

/-- The size of the configuration of an AccessPoint. -/
def configBytes (graph : RoutingGraphSnapshot) (id : String) : Nat :=
  ((graph.accessPoints.find? id).map (·.routingRuleConfigJson.utf8ByteSize)).getD 0

/-- Limits that are not below the size of the graph, and nothing that stops the compilation. -/
structure Suffices (options : GraphCompilationBudgetOptions) (graph : RoutingGraphSnapshot) :
    Prop where
  running : ∀ n, options.aborted n = false
  inTime : ∀ deadline ∈ options.deadlineAtMs, ∀ n, options.now n < deadline
  nodes : ((nodeIds graph).length : Int) ≤ options.maxVisitedNodes
  edges : ((edgeIds graph).length : Int) ≤ options.maxVisitedEdges
  bytes : (((nodeIds graph).map (configBytes graph)).sum : Int) ≤ options.maxDecodedConfigBytes

/-- What is visited are AccessPoints and targets of the graph, each counted once. -/
structure HasRoom (graph : RoutingGraphSnapshot) (budget : GraphCompilationBudget) : Prop where
  options : Suffices budget.options graph
  safe : IsSafeInteger budget.options.maxDecodedConfigBytes
  nodes : budget.visitedNodeIds.Nodup ∧ budget.visitedNodeIds ⊆ nodeIds graph
  edges : budget.visitedEdgeIds.Nodup ∧ budget.visitedEdgeIds ⊆ edgeIds graph
  bytes : budget.decodedConfigBytes = (budget.visitedNodeIds.map (configBytes graph)).sum

theorem hasRoom_create {options : GraphCompilationBudgetOptions}
    (h : GraphCompilationBudget.create options = .ok budget) (hsuffices : Suffices options graph) :
    HasRoom graph budget := by
  obtain ⟨_, -, h⟩ := bind_eq_ok.mp h
  obtain ⟨_, -, h⟩ := bind_eq_ok.mp h
  obtain ⟨_, hbytes, h⟩ := bind_eq_ok.mp h
  obtain ⟨_, -, h⟩ := bind_eq_ok.mp h
  cases h
  have hsafe := rejectIf_eq_ok.mp hbytes
  exact ⟨hsuffices, by tauto, ⟨.nil, by simp⟩, ⟨.nil, by simp⟩, rfl⟩

theorem sum_le_of_subset {f : String → Nat} {l m : List String} (hl : l.Nodup) (hm : m.Nodup)
    (hsub : l ⊆ m) : (l.map f).sum ≤ (m.map f).sum := by
  rw [← List.sum_toFinset f hl, ← List.sum_toFinset f hm]
  apply Finset.sum_le_sum_of_subset
  intro id hid
  exact List.mem_toFinset.mpr (hsub (List.mem_toFinset.mp hid))

theorem nodup_nodeIds (graph : RoutingGraphSnapshot) : (nodeIds graph).Nodup :=
  graph.accessPoints.nodup

/-- With the next AccessPoint what is visited is still within the limits. -/
theorem HasRoom.node {id : String} (h : HasRoom graph budget) (hid : id ∈ nodeIds graph)
    (hnew : id ∉ budget.visitedNodeIds) :
    ((id :: budget.visitedNodeIds).length : Int) ≤ budget.options.maxVisitedNodes ∧
      ((budget.decodedConfigBytes + configBytes graph id : Nat) : Int) ≤
        budget.options.maxDecodedConfigBytes := by
  have hnodup : (id :: budget.visitedNodeIds).Nodup := List.nodup_cons.mpr ⟨hnew, h.nodes.1⟩
  have hsub : id :: budget.visitedNodeIds ⊆ nodeIds graph := List.cons_subset.mpr ⟨hid, h.nodes.2⟩
  have hlength := (List.subperm_of_subset hnodup hsub).length_le
  have hsum := sum_le_of_subset (f := configBytes graph) hnodup (nodup_nodeIds graph) hsub
  rw [List.map_cons, List.sum_cons, ← h.bytes] at hsum
  have hnodes := h.options.nodes
  have hbytes := h.options.bytes
  omega

theorem returns_checkpoint : Returns (HasRoom graph) checkpoint () := by
  refine returns_change fun budget h => ⟨{ budget with checkpoints := budget.checkpoints + 1 }, ?_,
    ⟨h.options, h.safe, h.nodes, h.edges, h.bytes⟩⟩
  refine bind_eq_ok.mpr ⟨(), rejectIf_of_not ?_, bind_eq_ok.mpr ⟨(), rejectIf_of_not ?_, rfl⟩⟩
  · rw [h.options.running]
    simp
  · rintro ⟨deadline, hdeadline, hpassed⟩
    exact absurd (h.options.inTime deadline hdeadline budget.checkpoints) (not_lt.mpr hpassed)

theorem returns_visitNode (hstored : accessPoint ∈ graph.accessPoints) : Returns (HasRoom graph)
      (visitNode accessPoint.id accessPoint.routingRuleConfigJson.utf8ByteSize) () := by
  have hfind : graph.accessPoints.find? accessPoint.id = some accessPoint :=
    Table.find?_of_mem hstored
  have hbytes : configBytes graph accessPoint.id =
      accessPoint.routingRuleConfigJson.utf8ByteSize := by
    rw [configBytes, hfind]
    rfl
  refine returns_checkpoint.bind (returns_change fun budget h => ?_)
  unfold GraphCompilationBudget.withNode
  split_ifs with hvisited
  · exact ⟨budget, rfl, h⟩
  · have hid : accessPoint.id ∈ nodeIds graph := List.mem_map_of_mem hstored
    obtain ⟨hnodes, hsum⟩ := h.node hid hvisited
    rw [← hbytes]
    have hsafe : IsSafeInteger (configBytes graph accessPoint.id) := by
      have := h.safe
      unfold IsSafeInteger at this ⊢
      omega
    refine ⟨_, bind_eq_ok.mpr ⟨(), rejectIf_of_not (not_not.mpr hsafe), bind_eq_ok.mpr ⟨(), ?_,
      bind_eq_ok.mpr ⟨(), ?_, rfl⟩⟩⟩, ⟨h.options, h.safe, ?_, h.edges, ?_⟩⟩
    · exact rejectIf_of_not (not_lt.mpr hnodes)
    · exact rejectIf_of_not (not_lt.mpr hsum)
    · exact ⟨List.nodup_cons.mpr ⟨hvisited, h.nodes.1⟩, List.cons_subset.mpr ⟨hid, h.nodes.2⟩⟩
    · rw [List.map_cons, List.sum_cons, ← h.bytes]
      exact Nat.add_comm _ _

theorem returns_visitEdge {id : String} (hid : id ∈ edgeIds graph) :
    Returns (HasRoom graph) (visitEdge id) () := by
  refine returns_checkpoint.bind (returns_change fun budget h => ?_)
  unfold GraphCompilationBudget.withEdge
  split_ifs with hvisited
  · exact ⟨budget, rfl, h⟩
  · have hnodup : (id :: budget.visitedEdgeIds).Nodup := List.nodup_cons.mpr ⟨hvisited, h.edges.1⟩
    have hsub : id :: budget.visitedEdgeIds ⊆ edgeIds graph :=
      List.cons_subset.mpr ⟨hid, h.edges.2⟩
    have hlength := (List.subperm_of_subset hnodup hsub).length_le
    have hedges := h.options.edges
    refine ⟨_, bind_eq_ok.mpr ⟨(), rejectIf_of_not (not_lt.mpr ?_), rfl⟩,
      ⟨h.options, h.safe, h.nodes, ⟨hnodup, hsub⟩, h.bytes⟩⟩
    omega

/-! ### Routes -/

variable {current : RoutingGraphAccessPoint}

/-- An enabled target leads from one AccessPoint to another. -/
def Leads (host : Host) (graph : RoutingGraphSnapshot) (source target : RoutingGraphAccessPoint) :
    Prop :=
  ∃ edge ∈ enabledTargets host source, edge.type = .accessPoint ∧
    requireTargetAccessPoint graph source edge = .ok target

/-- A way along enabled targets. -/
structure Route (host : Host) (graph : RoutingGraphSnapshot) (entry : RoutingGraphAccessPoint)
    (route : List RoutingGraphAccessPoint) : Prop where
  starts : route.head? = some entry
  chain : route.IsChain (Leads host graph)

/-- An AccessPoint of which every check succeeds. -/
structure SoundStop (host : Host) (graph : RoutingGraphSnapshot)
    (accessPoint : RoutingGraphAccessPoint) : Prop where
  stored : accessPoint ∈ graph.accessPoints
  notRemoved : truthy accessPoint.removedAt = none
  targets : ∀ target ∈ enabledTargets host accessPoint,
    (IsSafeInteger target.position ∧ 0 ≤ target.position) ∧ validateTargetShape target = .ok ()
  positions : ((enabledTargets host accessPoint).map RoutingGraphTarget.position).Nodup
  config : ∃ configInput config, parseConfig host accessPoint = .ok configInput ∧
    compileConfig accessPoint configInput (enabledTargets host accessPoint).length = .ok config
  accessPoints : ∀ target ∈ enabledTargets host accessPoint, target.type = .accessPoint →
    ∃ downstream, requireTargetAccessPoint graph accessPoint target = .ok downstream
  providerModels : ∀ target ∈ enabledTargets host accessPoint, target.type = .providerModel →
    ∃ providerModel, requireProviderModel graph accessPoint target = .ok providerModel

/-- A way that may go on from `current`. -/
structure SoundRoute (host : Host) (graph : RoutingGraphSnapshot)
    (before : List RoutingGraphAccessPoint) (current : RoutingGraphAccessPoint) : Prop where
  stop : SoundStop host graph current
  simple : current.id ∉ before.map RoutingGraphAccessPoint.id
  hops : before.length ≤ maxAccessPointToAccessPointHops
  fallbacks : (before ++ [current]).countP isOrderedFallback ≤ 1

/-- Every way from the entry is one that may go on. -/
def SoundRoutes (host : Host) (graph : RoutingGraphSnapshot) (entry : RoutingGraphAccessPoint) :
    Prop :=
  ∀ before current, Route host graph entry (before ++ [current]) →
    SoundRoute host graph before current

theorem Route.concat {entry downstream : RoutingGraphAccessPoint}
    {route : List RoutingGraphAccessPoint} (h : Route host graph entry (route ++ [current]))
    (hleads : Leads host graph current downstream) :
    Route host graph entry (route ++ [current] ++ [downstream]) := by
  constructor
  · rw [List.head?_append_of_ne_nil _ (by simp)]
    exact h.starts
  · apply h.chain.append (List.isChain_singleton _)
    intro last hlast next hnext
    rw [List.getLast?_concat, Option.mem_some_iff] at hlast
    rw [List.head?_singleton, Option.mem_some_iff] at hnext
    rw [← hlast, ← hnext]
    exact hleads

/-! ### Rules -/

variable {target : RoutingGraphTarget}

theorem mem_edgeIds (hstored : accessPoint ∈ graph.accessPoints)
    (htarget : target ∈ enabledTargets host accessPoint) : target.id ∈ edgeIds graph :=
  List.mem_flatMap.mpr ⟨accessPoint, hstored,
    List.mem_map_of_mem (mem_enabledTargets.mp htarget).leaves⟩

theorem returns_checkTargets {targets : List RoutingGraphTarget}
    (hids : ∀ target ∈ targets, target.id ∈ edgeIds graph)
    (htargets : ∀ target ∈ targets, (IsSafeInteger target.position ∧ 0 ≤ target.position) ∧
      validateTargetShape target = .ok ())
    (hpositions : (targets.map RoutingGraphTarget.position).Nodup) : ∀ {positions : List Int},
      (∀ target ∈ targets, target.position ∉ positions) →
      Returns (HasRoom graph) (checkTargets accessPoint positions targets) () := by
  induction targets with
  | nil =>
    intro positions _
    exact returns_pure ()
  | cons target rest ih =>
    intro positions hnew
    obtain ⟨⟨hsafe, hnonneg⟩, hshape⟩ := htargets target List.mem_cons_self
    rw [List.map_cons, List.nodup_cons] at hpositions
    have hposition : ¬(¬IsSafeInteger target.position ∨ target.position < 0 ∨
        target.position ∈ positions) := by
      rintro (hrange | hneg | hmem)
      · exact hrange hsafe
      · omega
      · exact hnew target List.mem_cons_self hmem
    apply (returns_visitEdge (hids target List.mem_cons_self)).bind
    apply (returns_check (rejectIf_of_not hposition)).bind
    apply (returns_check hshape).bind
    apply ih (fun other hother => hids other (List.mem_cons_of_mem _ hother))
      (fun other hother => htargets other (List.mem_cons_of_mem _ hother)) hpositions.2
    intro other hother hmem
    rcases List.mem_cons.mp hmem with hequal | hmem
    · exact hpositions.1 (hequal ▸ List.mem_map_of_mem hother)
    · exact hnew other (List.mem_cons_of_mem _ hother) hmem

namespace SoundStop

variable {accessPoint : RoutingGraphAccessPoint}

theorem compileRule_returns (h : SoundStop host graph accessPoint) :
    ∃ rule, Returns (HasRoom graph) (compileRule host accessPoint) rule ∧
      rule.targets = enabledTargets host accessPoint := by
  obtain ⟨configInput, config, hparse, hconfig⟩ := h.config
  refine ⟨⟨config, enabledTargets host accessPoint⟩, ?_, rfl⟩
  apply (returns_check (rejectIf_of_not (not_not.mpr h.notRemoved))).bind
  apply (returns_visitNode h.stored).bind
  apply (returns_checkTargets (fun target => mem_edgeIds h.stored) h.targets h.positions
    (by simp)).bind
  exact (returns_check hparse).bind ((returns_check hconfig).bind (returns_pure _))

/-- A rule other than ordered-fallback has a single target. -/
theorem exists_single (h : SoundStop host graph accessPoint)
    (hrule : accessPoint.routingRuleId ≠ "ordered-fallback") :
    ∃ target, enabledTargets host accessPoint = [target] := by
  obtain ⟨configInput, config, -, hconfig⟩ := h.config
  obtain ⟨selector, hselector, hnormalized⟩ := bind_eq_ok.mp (mapError_eq_ok.mp hconfig)
  have hid := (getAccessPointSelector_eq_ok hselector).1
  have hkind := normalizeConfig_eq_ok hnormalized
  rw [← hid] at hkind
  apply List.length_eq_one_iff.mp
  generalize accessPoint.routingRuleId = ruleId at hrule hkind
  cases hkind with
  | direct hcount => exact hcount
  | orderedFallback => exact absurd rfl hrule

end SoundStop

/-! ### The search for the selector -/

variable {visited : List RoutingGraphAccessPoint}

/-- Where the search for the selector ends: at an ordered-fallback rule, or at a rule of which the
target is the model of a provider. -/
structure ReachesSelector (host : Host) (graph : RoutingGraphSnapshot)
    (entry : RoutingGraphAccessPoint) (path : SelectorPath) : Prop where
  route : ∃ before, path.accessPointChain = before ++ [path.selector] ∧
    Route host graph entry path.accessPointChain
  targets : path.rule.targets = enabledTargets host path.selector
  kind : isOrderedFallback path.selector = true ∨
    ∀ target ∈ path.rule.targets, target.type = .providerModel

variable {entry : RoutingGraphAccessPoint}

/-- What every round of the search begins with. -/
theorem returns_round (h : SoundRoute host graph visited current) :
    ∃ rule, rule.targets = enabledTargets host current ∧
      ∀ {f : CompiledRule → Budgeted SelectorPath} {path : SelectorPath},
        Returns (HasRoom graph) (f rule) path → Returns (HasRoom graph) (do
          checkpoint
          check (rejectIf (current.id ∈ visited.map RoutingGraphAccessPoint.id)
            (routingCycle current.id))
          let rule ← compileRule host current
          f rule) path := by
  obtain ⟨rule, hrule, htargets⟩ := h.stop.compileRule_returns
  refine ⟨rule, htargets, fun hrest => ?_⟩
  exact returns_checkpoint.bind ((returns_check (rejectIf_of_not h.simple)).bind (hrule.bind hrest))

/-- The search ends at an AccessPoint that chooses, or that refers to the model of a provider. -/
theorem findSelectorFrom_returns_here {visited : List RoutingGraphAccessPoint}
    {targetEdgeIds : List String} {current : RoutingGraphAccessPoint} {hops : Nat}
    (hroute : Route host graph entry (visited ++ [current]))
    (hsound : SoundRoute host graph visited current)
    (hhere : isOrderedFallback current = true ∨ ∃ target,
      enabledTargets host current = [target] ∧ target.type = .providerModel) :
    ∃ path, Returns (HasRoom graph)
      (findSelectorFrom host graph hops visited targetEdgeIds current) path ∧
        ReachesSelector host graph entry path := by
  obtain ⟨rule, htargets, hround⟩ := returns_round hsound
  refine ⟨⟨current, visited ++ [current], targetEdgeIds, rule⟩, ?_,
    ⟨visited, rfl, hroute⟩, htargets, ?_⟩
  · unfold findSelectorFrom
    apply hround
    split_ifs with hfallback
    · exact returns_pure _
    · rcases hhere with hhere | ⟨target, hsingle, htype⟩
      · exact absurd (of_decide_eq_true hhere) hfallback
      · simp only [htargets, hsingle, htype]
        exact returns_pure _
  · rcases hhere with hhere | ⟨target, hsingle, htype⟩
    · exact .inl hhere
    · refine .inr fun other hother => ?_
      rw [htargets, hsingle, List.mem_singleton] at hother
      rw [hother, htype]

theorem findSelectorFrom_returns_of_sound
    (hsound : SoundRoutes host graph entry) {hops : Nat} :
    ∀ {visited : List RoutingGraphAccessPoint} {targetEdgeIds : List String}
      {current : RoutingGraphAccessPoint}, Route host graph entry (visited ++ [current]) →
      visited.length + hops = maxAccessPointToAccessPointHops →
      ∃ path, Returns (HasRoom graph)
        (findSelectorFrom host graph hops visited targetEdgeIds current) path ∧
          ReachesSelector host graph entry path := by
  induction hops with
  | zero =>
    intro visited targetEdgeIds current hroute hhops
    refine findSelectorFrom_returns_here hroute (hsound _ _ hroute) ?_
    -- a target that leads on would make a route that is too long
    by_contra hother
    obtain ⟨hrule, hnone⟩ := not_or.mp hother
    have hstop := (hsound _ _ hroute).stop
    obtain ⟨target, hsingle⟩ := hstop.exists_single fun hrule' => hrule (decide_eq_true hrule')
    have hmem : target ∈ enabledTargets host current := by simp [hsingle]
    cases htype : target.type with
    | providerModel => exact hnone ⟨target, hsingle, htype⟩
    | accessPoint =>
      obtain ⟨downstream, hdownstream⟩ := hstop.accessPoints target hmem htype
      have hlong := (hsound _ _ (hroute.concat ⟨target, hmem, htype, hdownstream⟩)).hops
      simp only [List.length_append, List.length_singleton] at hlong
      omega
  | succ hops ih =>
    intro visited targetEdgeIds current hroute hhops
    by_cases hhere : isOrderedFallback current = true ∨ ∃ target,
        enabledTargets host current = [target] ∧ target.type = .providerModel
    · exact findSelectorFrom_returns_here hroute (hsound _ _ hroute) hhere
    · obtain ⟨hrule, hnone⟩ := not_or.mp hhere
      have hfallback : ¬current.routingRuleId = "ordered-fallback" :=
        fun hrule' => hrule (decide_eq_true hrule')
      have hstop := (hsound _ _ hroute).stop
      obtain ⟨target, hsingle⟩ := hstop.exists_single hfallback
      have hmem : target ∈ enabledTargets host current := by simp [hsingle]
      have htype : target.type = .accessPoint := by
        cases htype : target.type with
        | providerModel => exact absurd ⟨target, hsingle, htype⟩ hnone
        | accessPoint => rfl
      obtain ⟨downstream, hdownstream⟩ := hstop.accessPoints target hmem htype
      obtain ⟨rule, htargets, hround⟩ := returns_round (hsound _ _ hroute)
      obtain ⟨path, hpath, hreaches⟩ := @ih (visited ++ [current]) (targetEdgeIds ++ [target.id])
        downstream (hroute.concat ⟨target, hmem, htype, hdownstream⟩) (by simp; omega)
      refine ⟨path, ?_, hreaches⟩
      unfold findSelectorFrom
      apply hround
      rw [if_neg hfallback]
      simp only [htargets, hsingle, htype]
      exact (returns_check hdownstream).bind hpath

/-! ### The candidates -/

variable {selector : RoutingGraphAccessPoint} {selectorTarget : RoutingGraphTarget}

theorem compileCandidateFrom_returns_here {hops : Nat}
    {accessPointChain : List RoutingGraphAccessPoint} {pathTargetEdgeIds : List String}
    (hstop : SoundStop host graph current) (hmem : target ∈ enabledTargets host current)
    (htype : target.type = .providerModel) :
    ∃ candidate, Returns (HasRoom graph) (compileCandidateFrom host graph selector selectorTarget
      hops accessPointChain pathTargetEdgeIds current target) candidate := by
  obtain ⟨providerModel, hprovider⟩ := hstop.providerModels target hmem htype
  unfold compileCandidateFrom
  simp only [htype]
  exact ⟨_, returns_checkpoint.bind ((returns_check hprovider).bind (returns_pure _))⟩

/-- Past a fallback rule, single targets lead on to the model of a provider. -/
theorem compileCandidateFrom_returns_of_sound (hsound : SoundRoutes host graph entry) {hops : Nat} :
    ∀ {before : List RoutingGraphAccessPoint} {current : RoutingGraphAccessPoint}
      {pathTargetEdgeIds : List String} {target : RoutingGraphTarget},
      Route host graph entry (before ++ [current]) → target ∈ enabledTargets host current →
      (target.type = .accessPoint → ∃ accessPoint ∈ before ++ [current],
        isOrderedFallback accessPoint = true) →
      before.length + hops = maxAccessPointToAccessPointHops →
      ∃ candidate, Returns (HasRoom graph) (compileCandidateFrom host graph selector selectorTarget
        hops (before ++ [current]) pathTargetEdgeIds current target) candidate := by
  induction hops with
  | zero =>
    intro before current pathTargetEdgeIds target hroute hmem hfallback hhops
    have hstop := (hsound _ _ hroute).stop
    cases htype : target.type with
    | providerModel => exact compileCandidateFrom_returns_here hstop hmem htype
    | accessPoint =>
      obtain ⟨downstream, hdownstream⟩ := hstop.accessPoints target hmem htype
      have hlong := (hsound _ _ (hroute.concat ⟨target, hmem, htype, hdownstream⟩)).hops
      simp only [List.length_append, List.length_singleton] at hlong
      omega
  | succ hops ih =>
    intro before current pathTargetEdgeIds target hroute hmem hfallback hhops
    have hstop := (hsound _ _ hroute).stop
    cases htype : target.type with
    | providerModel => exact compileCandidateFrom_returns_here hstop hmem htype
    | accessPoint =>
      obtain ⟨downstream, hdownstream⟩ := hstop.accessPoints target hmem htype
      have hnext := hroute.concat ⟨target, hmem, htype, hdownstream⟩
      have hsoundNext := hsound _ _ hnext
      have hstopNext := hsoundNext.stop
      -- the route has its fallback rule already
      obtain ⟨chosen, hchosen, hordered⟩ := hfallback htype
      have hrule : ¬downstream.routingRuleId = "ordered-fallback" := by
        intro hrule
        have hcount := hsoundNext.fallbacks
        have hpositive := List.countP_pos_iff.mpr ⟨chosen, hchosen, hordered⟩
        have hone : [downstream].countP isOrderedFallback = 1 :=
          List.countP_singleton.trans (if_pos (decide_eq_true hrule))
        rw [List.countP_append, hone] at hcount
        omega
      obtain ⟨next, hsingle⟩ := hstopNext.exists_single hrule
      obtain ⟨rule, hcompiled, htargets⟩ := hstopNext.compileRule_returns
      obtain ⟨candidate, hcandidate⟩ := @ih (before ++ [current]) downstream
        (pathTargetEdgeIds ++ [target.id]) next hnext (by simp [hsingle])
        (fun _ => ⟨chosen, List.mem_append_left _ hchosen, hordered⟩) (by simp; omega)
      refine ⟨candidate, ?_⟩
      unfold compileCandidateFrom
      simp only [htype]
      apply returns_checkpoint.bind
      apply (returns_check hdownstream).bind
      apply (returns_check (rejectIf_of_not hsoundNext.simple)).bind
      apply hcompiled.bind
      apply (returns_check (rejectIf_of_not hrule)).bind
      simp only [htargets, hsingle]
      exact hcandidate

/-- **Completeness.** When every route from the entry is sound, and what is visited has room, the
entry compiles for the model that it exposes. -/
theorem compileRoutingPlan_returns_of_sound {input : CompileRoutingPlanInput}
    (hentry : requireAccessPoint input.graph input.entryAccessPointId = .ok entry)
    (hmodel : entry.exposedModel = input.requestedModel)
    (hsound : SoundRoutes host input.graph entry) :
    ∃ plan, Returns (HasRoom input.graph) (compileRoutingPlan host input) plan := by
  have hstart : Route host input.graph entry ([] ++ [entry]) := ⟨rfl, List.isChain_singleton _⟩
  obtain ⟨path, hpath, ⟨before, hchain, hroute⟩, htargets, hkind⟩ :=
    @findSelectorFrom_returns_of_sound host input.graph entry hsound
      maxAccessPointToAccessPointHops [] [] entry hstart (by simp)
  have hhops := (hsound before path.selector (hchain ▸ hroute)).hops
  have hcandidates : ∃ candidates, Returns (HasRoom input.graph)
      (Stateful.traverse (compileCandidate host input.graph path) path.rule.targets)
        candidates := by
    refine returns_traverse fun target htarget => ?_
    unfold compileCandidate
    rw [hchain] at hroute ⊢
    refine compileCandidateFrom_returns_of_sound hsound hroute (htargets ▸ htarget) ?_ ?_
    · intro htype
      rcases hkind with hordered | hproviders
      · exact ⟨path.selector, by simp, hordered⟩
      · rw [hproviders target htarget] at htype
        cases htype
    · simp only [List.length_append, List.length_singleton]
      omega
  obtain ⟨candidates, hcandidates⟩ := hcandidates
  unfold compileRoutingPlan
  exact ⟨_, returns_checkpoint.bind ((returns_check hentry).bind
    ((returns_check (rejectIf_of_not (not_not.mpr hmodel))).bind
      (hpath.bind (hcandidates.bind (returns_pure _)))))⟩

end Frely.ModelAccess
