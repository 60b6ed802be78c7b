import Frely.ModelAccess.RoutingKernel
import Mathlib.Data.List.Forall2

/-!
# Soundness of the routing compiler

* `compileRule_returns`: what a compiled rule is, the facts that everything else uses.
* `findSelectorFrom_returns`, `compileCandidateFrom_returns`: the two loops of the compiler extend
  an `Approach`, a simple path of enabled edges from the entry.
* `compileRoutingPlan_sound`: every candidate of a plan is a `RoutingPath`, no two have one id, and
  the budget is kept.
-/

namespace Frely.ModelAccess

open Frely.Postgres Checked StableSort Stateful

variable {host : Host} {graph : RoutingGraphSnapshot} {budget budget' : GraphCompilationBudget}

/-! ### Budgets -/

/-- What is consumed does not exceed the limits of the budget. -/
structure GraphCompilationBudget.WithinLimits (budget : GraphCompilationBudget) : Prop where
  nodes : (budget.visitedNodeIds.length : Int) ≤ budget.options.maxVisitedNodes
  edges : (budget.visitedEdgeIds.length : Int) ≤ budget.options.maxVisitedEdges
  bytes : (budget.decodedConfigBytes : Int) ≤ budget.options.maxDecodedConfigBytes
  candidates : (budget.evaluatedCandidates : Int) ≤ budget.options.maxEvaluationCandidates

theorem assertWithin_eq_ok {consumed : Nat} {limit : Int} {u : Unit}
    (h : assertWithin consumed limit = .ok u) : (consumed : Int) ≤ limit := by
  have := rejectIf_eq_ok.mp h
  omega

open GraphCompilationBudget (WithinLimits)

theorem keeps_checkpoint : Keeps WithinLimits checkpoint := by
  apply keeps_change
  intro budget budget' h hwithin
  obtain ⟨_, -, h⟩ := bind_eq_ok.mp h
  obtain ⟨_, -, h⟩ := bind_eq_ok.mp h
  cases h
  exact ⟨hwithin.nodes, hwithin.edges, hwithin.bytes, hwithin.candidates⟩

theorem keeps_visitNode (accessPointId : String) (bytes : Nat) :
    Keeps WithinLimits (visitNode accessPointId bytes) := by
  refine keeps_checkpoint.bind fun _ => keeps_change ?_
  intro budget budget' h hwithin
  unfold GraphCompilationBudget.withNode at h
  split_ifs at h with hvisited
  · cases h
    exact hwithin
  · obtain ⟨_, -, h⟩ := bind_eq_ok.mp h
    obtain ⟨_, hnodes, h⟩ := bind_eq_ok.mp h
    obtain ⟨_, hbytes, h⟩ := bind_eq_ok.mp h
    cases h
    exact ⟨assertWithin_eq_ok hnodes, hwithin.edges, assertWithin_eq_ok hbytes, hwithin.candidates⟩

theorem keeps_visitEdge (edgeId : String) : Keeps WithinLimits (visitEdge edgeId) := by
  refine keeps_checkpoint.bind fun _ => keeps_change ?_
  intro budget budget' h hwithin
  unfold GraphCompilationBudget.withEdge at h
  split_ifs at h with hvisited
  · cases h
    exact hwithin
  · obtain ⟨_, hedges, h⟩ := bind_eq_ok.mp h
    cases h
    exact ⟨hwithin.nodes, assertWithin_eq_ok hedges, hwithin.bytes, hwithin.candidates⟩

theorem keeps_checkTargets (accessPoint : RoutingGraphAccessPoint)
    (targets : List RoutingGraphTarget) :
    ∀ positions, Keeps WithinLimits (checkTargets accessPoint positions targets) := by
  induction targets with
  | nil =>
    intro positions
    exact keeps_pure ()
  | cons target rest ih =>
    intro positions
    exact (keeps_visitEdge target.id).bind fun _ => (keeps_check _).bind fun _ =>
      (keeps_check _).bind fun _ => ih (target.position :: positions)

theorem keeps_compileRule (accessPoint : RoutingGraphAccessPoint) :
    Keeps WithinLimits (compileRule host accessPoint) :=
  (keeps_check _).bind fun _ => (keeps_visitNode _ _).bind fun _ =>
    (keeps_checkTargets accessPoint _ []).bind fun _ => (keeps_check _).bind fun _ =>
      (keeps_check _).bind fun _ => keeps_pure _

theorem keeps_findSelectorFrom (hops : Nat) :
    ∀ visited targetEdgeIds current,
      Keeps WithinLimits (findSelectorFrom host graph hops visited targetEdgeIds current) := by
  induction hops with
  | zero =>
    intro visited targetEdgeIds current
    unfold findSelectorFrom
    refine keeps_checkpoint.bind fun _ => (keeps_check _).bind fun _ =>
      (keeps_compileRule current).bind fun rule => ?_
    split_ifs
    · exact keeps_pure _
    · split
      · exact keeps_check _
      · split
        · exact keeps_pure _
        · exact keeps_check _
  | succ hops ih =>
    intro visited targetEdgeIds current
    unfold findSelectorFrom
    refine keeps_checkpoint.bind fun _ => (keeps_check _).bind fun _ =>
      (keeps_compileRule current).bind fun rule => ?_
    split_ifs
    · exact keeps_pure _
    · split
      · exact keeps_check _
      · split
        · exact keeps_pure _
        · exact (keeps_check _).bind fun downstream => ih _ _ downstream

theorem keeps_compileCandidateFrom (selector : RoutingGraphAccessPoint)
    (selectorTarget : RoutingGraphTarget) (hops : Nat) :
    ∀ chain edgeIds current target, Keeps WithinLimits
      (compileCandidateFrom host graph selector selectorTarget hops chain edgeIds current
        target) := by
  induction hops with
  | zero =>
    intro chain edgeIds current target
    unfold compileCandidateFrom
    refine keeps_checkpoint.bind fun _ => ?_
    dsimp only
    split
    · exact (keeps_check _).bind fun _ => keeps_pure _
    · exact keeps_check _
  | succ hops ih =>
    intro chain edgeIds current target
    unfold compileCandidateFrom
    refine keeps_checkpoint.bind fun _ => ?_
    dsimp only
    split
    · exact (keeps_check _).bind fun _ => keeps_pure _
    · refine (keeps_check _).bind fun downstream => (keeps_check _).bind fun _ =>
        (keeps_compileRule downstream).bind fun rule => (keeps_check _).bind fun _ => ?_
      split
      · exact keeps_check _
      · exact ih _ _ downstream _

theorem keeps_compileRoutingPlan (input : CompileRoutingPlanInput) :
    Keeps WithinLimits (compileRoutingPlan host input) :=
  keeps_checkpoint.bind fun _ => (keeps_check _).bind fun entry => (keeps_check _).bind fun _ =>
    (keeps_findSelectorFrom _ _ _ entry).bind fun _ =>
      (keeps_traverse (fun _ => keeps_compileCandidateFrom _ _ _ _ _ _ _) _).bind fun _ =>
        keeps_pure _

/-! ### Rules -/

variable {accessPoint : RoutingGraphAccessPoint} {target : RoutingGraphTarget} {rule : CompiledRule}

/-- An edge that is in service and leaves an AccessPoint. -/
structure IsEnabledEdge (source : RoutingGraphAccessPoint) (edge : RoutingGraphTarget) : Prop where
  leaves : edge ∈ source.targets
  status : edge.status = "enabled"
  notRemoved : truthy edge.removedAt = none

theorem mem_enabledTargets :
    target ∈ enabledTargets host accessPoint ↔ IsEnabledEdge accessPoint target := by
  unfold enabledTargets
  rw [mem_sortBy, List.mem_filter, decide_eq_true_eq]
  constructor
  · rintro ⟨hmem, hstatus, hremoved⟩
    exact ⟨hmem, hstatus, hremoved⟩
  · rintro ⟨hmem, hstatus, hremoved⟩
    exact ⟨hmem, hstatus, hremoved⟩

theorem nodup_enabledTargets (accessPoint : RoutingGraphAccessPoint) :
    ((enabledTargets host accessPoint).map RoutingGraphTarget.id).Nodup := by
  have hperm : ((enabledTargets host accessPoint).map RoutingGraphTarget.id).Perm
      ((accessPoint.targets.filter fun target =>
        target.status = "enabled" ∧ truthy target.removedAt = none).map RoutingGraphTarget.id) :=
    (perm_sortBy _).map RoutingGraphTarget.id
  exact hperm.nodup_iff.mpr (accessPoint.targetIds.sublist (List.filter_sublist.map _))

/-- The two selectors, with the configurations they normalize. -/
inductive IsSelectorConfig (targetCount : Nat) : String → AccessPointSelectorConfig → Prop
  | direct : targetCount = 1 → IsSelectorConfig targetCount "direct" .direct
  | orderedFallback {maxAttempts retryOn} : 2 ≤ targetCount → 2 ≤ maxAttempts →
      maxAttempts ≤ (targetCount : Int) →
      IsSelectorConfig targetCount "ordered-fallback" (.orderedFallback maxAttempts retryOn)

theorem getAccessPointSelector_eq_ok {id : String} {behaviorVersion : Int}
    {selector : AccessPointSelectorId} (h : getAccessPointSelector id behaviorVersion =
      .ok selector) :
    id = selector.text ∧ behaviorVersion = 1 := by
  obtain ⟨_, hknown, h⟩ := bind_eq_ok.mp h
  have hknown := rejectIf_eq_ok.mp hknown
  have hselector := Except.ok.inj h
  split_ifs at hselector with hdirect
  · subst hselector
    exact ⟨hdirect, by tauto⟩
  · subst hselector
    exact ⟨by tauto, by tauto⟩

theorem normalizedMaxAttempts_eq_ok {value : Option Json} {targetCount : Nat} {maxAttempts : Int}
    (hcount : 2 ≤ targetCount) (h : normalizedMaxAttempts value targetCount = .ok maxAttempts) :
    2 ≤ maxAttempts ∧ maxAttempts ≤ targetCount := by
  unfold normalizedMaxAttempts at h
  split at h
  · cases h
    omega
  · obtain ⟨_, hvalid, h⟩ := bind_eq_ok.mp h
    have hvalid := rejectIf_eq_ok.mp hvalid
    cases h
    omega
  · cases h

theorem normalizeConfig_eq_ok {selector : AccessPointSelectorId} {input : Json} {targetCount : Nat}
    {config : AccessPointSelectorConfig} (h : selector.normalizeConfig input targetCount =
      .ok config) :
    IsSelectorConfig targetCount selector.text config := by
  cases selector with
  | direct =>
    obtain ⟨_, -, h⟩ := bind_eq_ok.mp h
    obtain ⟨_, hcount, h⟩ := bind_eq_ok.mp h
    have hcount := rejectIf_eq_ok.mp hcount
    cases h
    exact .direct (by omega)
  | orderedFallback =>
    obtain ⟨_, hcount, h⟩ := bind_eq_ok.mp h
    have hcount := rejectIf_eq_ok.mp hcount
    obtain ⟨record, -, h⟩ := bind_eq_ok.mp h
    obtain ⟨maxAttempts, hmax, h⟩ := bind_eq_ok.mp h
    obtain ⟨retryOn, -, h⟩ := bind_eq_ok.mp h
    cases h
    obtain ⟨hlow, hhigh⟩ := normalizedMaxAttempts_eq_ok (by omega) hmax
    exact .orderedFallback (by omega) hlow hhigh

/-- What a compiled rule of an AccessPoint is. -/
structure IsCompiledRule (host : Host) (accessPoint : RoutingGraphAccessPoint)
    (rule : CompiledRule) :
    Prop where
  notRemoved : truthy accessPoint.removedAt = none
  targets : rule.targets = enabledTargets host accessPoint
  shapes : ∀ target ∈ rule.targets, validateTargetShape target = .ok ()
  positions : (rule.targets.map RoutingGraphTarget.position).Nodup
  behaviorVersion : accessPoint.routingRuleBehaviorVersion = 1
  config : IsSelectorConfig rule.targets.length accessPoint.routingRuleId rule.config

theorem checkTargets_eq_ok {targets : List RoutingGraphTarget} {u : Unit} :
    ∀ {positions : List Int} {budget budget'},
      checkTargets accessPoint positions targets budget = .ok (u, budget') →
      (∀ target ∈ targets, validateTargetShape target = .ok () ∧ target.position ∉ positions) ∧
        (targets.map RoutingGraphTarget.position).Nodup := by
  induction targets with
  | nil => simp
  | cons target rest ih =>
    intro positions budget budget' h
    obtain ⟨_, _, -, h⟩ := run_bind.mp h
    obtain ⟨_, hposition, h⟩ := run_check_bind.mp h
    obtain ⟨_, hshape, h⟩ := run_check_bind.mp h
    have hposition := rejectIf_eq_ok.mp hposition
    obtain ⟨hrest, hnodup⟩ := ih h
    constructor
    · intro other hmem
      obtain rfl | hmem := List.mem_cons.mp hmem
      · exact ⟨hshape, by tauto⟩
      · obtain ⟨hshape, hnew⟩ := hrest other hmem
        exact ⟨hshape, fun hold => hnew (List.mem_cons_of_mem _ hold)⟩
    · rw [List.map_cons, List.nodup_cons]
      refine ⟨?_, hnodup⟩
      intro hmem
      obtain ⟨other, hother, hequal⟩ := List.mem_map.mp hmem
      have hnew := (hrest other hother).2
      rw [hequal] at hnew
      exact hnew List.mem_cons_self

theorem compileRule_returns (h : compileRule host accessPoint budget = .ok (rule, budget')) :
    IsCompiledRule host accessPoint rule := by
  obtain ⟨_, hremoved, h⟩ := run_check_bind.mp h
  obtain ⟨_, _, -, h⟩ := run_bind.mp h
  obtain ⟨_, _, htargets, h⟩ := run_bind.mp h
  obtain ⟨configInput, -, h⟩ := run_check_bind.mp h
  obtain ⟨config, hconfig, h⟩ := run_check_bind.mp h
  obtain ⟨rfl, -⟩ := run_pure.mp h
  obtain ⟨hshapes, hpositions⟩ := checkTargets_eq_ok htargets
  obtain ⟨selector, hselector, hnormalized⟩ := bind_eq_ok.mp (mapError_eq_ok.mp hconfig)
  obtain ⟨hid, hversion⟩ := getAccessPointSelector_eq_ok hselector
  refine ⟨not_not.mp (rejectIf_eq_ok.mp hremoved), rfl, fun target hmem => (hshapes target hmem).1,
    hpositions, hversion, ?_⟩
  rw [hid]
  exact normalizeConfig_eq_ok hnormalized

theorem IsCompiledRule.enabledEdge (h : IsCompiledRule host accessPoint rule)
    (hmem : target ∈ rule.targets) : IsEnabledEdge accessPoint target := by
  rw [h.targets] at hmem
  exact mem_enabledTargets.mp hmem

/-! ### Paths -/

variable {source : RoutingGraphAccessPoint}

theorem truthy_eq_some {value : Option String} {text : String} (h : truthy value = some text) :
    value = some text :=
  (Option.filter_eq_some_iff.mp h).1

theorem requireAccessPoint_eq_ok {id : String} (h : requireAccessPoint graph id = .ok accessPoint) :
    graph.accessPoints.find? id = some accessPoint ∧ truthy accessPoint.removedAt = none := by
  unfold requireAccessPoint at h
  split at h
  · cases h
  · next hfind =>
    obtain ⟨_, hremoved, h⟩ := bind_eq_ok.mp h
    cases h
    exact ⟨hfind, not_not.mp (rejectIf_eq_ok.mp hremoved)⟩

/-- An edge of a source leads to another AccessPoint. -/
theorem requireTargetAccessPoint_eq_ok {downstream : RoutingGraphAccessPoint}
    (h : requireTargetAccessPoint graph source target = .ok downstream) :
    graph.accessPoints.find? downstream.id = some downstream ∧
      truthy downstream.removedAt = none ∧ target.targetAccessPointId = some downstream.id := by
  unfold requireTargetAccessPoint at h
  split at h
  · cases h
  · next id hid =>
    obtain ⟨accessPoint, hrequire, h⟩ := bind_eq_ok.mp h
    obtain ⟨_, -, h⟩ := bind_eq_ok.mp h
    cases h
    obtain ⟨hfind, hremoved⟩ := requireAccessPoint_eq_ok hrequire
    have hkey : downstream.id = id := Table.key_of_find? hfind
    rw [hkey]
    exact ⟨hfind, hremoved, truthy_eq_some hid⟩

/-- The last edge of a path leads to a provider model of the graph. -/
theorem requireProviderModel_eq_ok {providerModel : RoutingGraphProviderModel}
    (h : requireProviderModel graph source target = .ok providerModel) :
    providerModel ∈ graph.providerModels ∧ target.targetProviderModelId = some providerModel.id ∧
      (∀ id ∈ target.targetProviderId, id = providerModel.providerId) ∧
      ∀ name ∈ target.targetProviderModelName, name = providerModel.providerModelName := by
  unfold requireProviderModel at h
  split at h
  · cases h
  · next id hid =>
    split at h
    · cases h
    · next found hfind =>
      obtain ⟨_, hconsistent, h⟩ := bind_eq_ok.mp h
      have hconsistent := rejectIf_eq_ok.mp hconsistent
      cases h
      have hkey : providerModel.id = id := Table.key_of_find? hfind
      push Not at hconsistent
      rw [hkey]
      exact ⟨Table.mem_of_find? hfind, truthy_eq_some hid, hconsistent.2⟩

/-- The AccessPoint falls back in order. -/
def isOrderedFallback (accessPoint : RoutingGraphAccessPoint) : Bool :=
  accessPoint.routingRuleId = "ordered-fallback"

/-- A simple path of enabled edges of a graph, from the AccessPoint `entry` to a provider model. -/
structure RoutingPath (graph : RoutingGraphSnapshot) (entry : String) where
  accessPoints : List RoutingGraphAccessPoint
  edges : List RoutingGraphTarget
  providerModel : RoutingGraphProviderModel
  starts : (accessPoints.map RoutingGraphAccessPoint.id).head? = some entry
  inGraph : ∀ accessPoint ∈ accessPoints, accessPoint ∈ graph.accessPoints ∧
    truthy accessPoint.removedAt = none
  simple : (accessPoints.map RoutingGraphAccessPoint.id).Nodup
  sameLength : edges.length = accessPoints.length
  leaves : ∀ (i : Nat) edge source, edges[i]? = some edge → accessPoints[i]? = some source →
    IsEnabledEdge source edge
  enters : ∀ (i : Nat) edge next, edges[i]? = some edge → accessPoints[i + 1]? = some next →
    edge.type = .accessPoint ∧ edge.targetAccessPointId = some next.id
  arrives : ∀ edge ∈ edges.getLast?, edge.type = .providerModel ∧
    edge.targetProviderModelId = some providerModel.id ∧
    (∀ id ∈ edge.targetProviderId, id = providerModel.providerId) ∧
    ∀ name ∈ edge.targetProviderModelName, name = providerModel.providerModelName
  target : providerModel ∈ graph.providerModels
  hops : accessPoints.length ≤ maxAccessPointToAccessPointHops + 1
  fallbacks : accessPoints.countP isOrderedFallback ≤ 1

/-- A path on its way: it has come to the AccessPoint `current`. -/
structure Approach (graph : RoutingGraphSnapshot) (entry : String)
    (accessPoints : List RoutingGraphAccessPoint) (edges : List RoutingGraphTarget)
    (current : RoutingGraphAccessPoint) : Prop where
  starts : (accessPoints.map RoutingGraphAccessPoint.id).head? = some entry
  last : accessPoints[edges.length]? = some current
  inGraph : ∀ accessPoint ∈ accessPoints, accessPoint ∈ graph.accessPoints ∧
    truthy accessPoint.removedAt = none
  simple : (accessPoints.map RoutingGraphAccessPoint.id).Nodup
  sameLength : accessPoints.length = edges.length + 1
  leaves : ∀ (i : Nat) edge source, edges[i]? = some edge → accessPoints[i]? = some source →
    IsEnabledEdge source edge
  enters : ∀ (i : Nat) edge next, edges[i]? = some edge → accessPoints[i + 1]? = some next →
    edge.type = .accessPoint ∧ edge.targetAccessPointId = some next.id

namespace Approach

variable {entry : String} {accessPoints : List RoutingGraphAccessPoint}
  {edges : List RoutingGraphTarget} {current : RoutingGraphAccessPoint}

theorem start (hcurrent : current ∈ graph.accessPoints)
    (hremoved : truthy current.removedAt = none) :
    Approach graph current.id [current] [] current where
  starts := rfl
  last := rfl
  inGraph := by
    intro accessPoint hmem
    rw [List.mem_singleton.mp hmem]
    exact ⟨hcurrent, hremoved⟩
  simple := List.nodup_singleton _
  sameLength := rfl
  leaves := by simp
  enters := by simp

/-- The edge after the ones of an approach leaves its last AccessPoint. -/
theorem leaves_append (h : Approach graph entry accessPoints edges current)
    {edge : RoutingGraphTarget} (hedge : IsEnabledEdge current edge) (i : Nat)
    (other : RoutingGraphTarget) (source : RoutingGraphAccessPoint)
    (hi : (edges ++ [edge])[i]? = some other) (hsource : accessPoints[i]? = some source) :
    IsEnabledEdge source other := by
  rw [List.getElem?_append] at hi
  split_ifs at hi with hlt
  · exact h.leaves i other source hi hsource
  · obtain ⟨hzero, hother⟩ := List.getElem?_eq_some_iff.mp hi
    have hindex : i = edges.length := by
      simp only [List.length_singleton] at hzero
      omega
    subst hindex
    rw [h.last] at hsource
    cases hsource
    simp only [Nat.sub_self, List.getElem_cons_zero] at hother
    rw [← hother]
    exact hedge

theorem hop (h : Approach graph entry accessPoints edges current) {edge : RoutingGraphTarget}
    {next : RoutingGraphAccessPoint} (hedge : IsEnabledEdge current edge)
    (htype : edge.type = .accessPoint) (hrequire :
    requireTargetAccessPoint graph current edge = .ok next)
    (hnew : next.id ∉ accessPoints.map RoutingGraphAccessPoint.id) :
    Approach graph entry (accessPoints ++ [next]) (edges ++ [edge]) next := by
  obtain ⟨hfind, hremoved, hreference⟩ := requireTargetAccessPoint_eq_ok hrequire
  have hlength := h.sameLength
  constructor
  · rw [List.map_append, List.head?_append, h.starts]
    rfl
  · rw [List.length_append, List.length_singleton, ← hlength]
    exact List.getElem?_concat_length
  · intro accessPoint hmem
    obtain hmem | hmem := List.mem_append.mp hmem
    · exact h.inGraph accessPoint hmem
    · rw [List.mem_singleton.mp hmem]
      exact ⟨Table.mem_of_find? hfind, hremoved⟩
  · rw [List.map_append, List.map_singleton]
    exact List.nodup_append.mpr ⟨h.simple, List.nodup_singleton _, fun id hid other hother => by
      rw [List.mem_singleton.mp hother]
      exact fun heq => hnew (heq ▸ hid)⟩
  · rw [List.length_append, List.length_append, hlength]
    rfl
  · intro i other source hi hsource
    have hlt := (List.getElem?_eq_some_iff.mp hi).1
    rw [List.length_append, List.length_singleton, ← hlength] at hlt
    rw [List.getElem?_append_left hlt] at hsource
    exact h.leaves_append hedge i other source hi hsource
  · intro i other following hi hfollowing
    rw [List.getElem?_append] at hi hfollowing
    split_ifs at hi with hlt
    · rw [if_pos (by omega)] at hfollowing
      exact h.enters i other following hi hfollowing
    · obtain ⟨hzero, hother⟩ := List.getElem?_eq_some_iff.mp hi
      have hindex : i = edges.length := by
        simp only [List.length_singleton] at hzero
        omega
      subst hindex
      rw [if_neg (by omega), hlength] at hfollowing
      simp only [Nat.sub_self, List.getElem_cons_zero] at hother
      simp only [Nat.sub_self, List.getElem?_cons_zero, Option.some.injEq] at hfollowing
      rw [← hother, ← hfollowing]
      exact ⟨htype, hreference⟩

/-- An approach and an edge to a provider model make a path. -/
def arrive (h : Approach graph entry accessPoints edges current) {edge : RoutingGraphTarget}
    {providerModel : RoutingGraphProviderModel} (hedge : IsEnabledEdge current edge)
    (htype : edge.type = .providerModel)
    (hrequire : requireProviderModel graph current edge = .ok providerModel)
    (hhops : accessPoints.length ≤ maxAccessPointToAccessPointHops + 1)
    (hfallbacks : accessPoints.countP isOrderedFallback ≤ 1) : RoutingPath graph entry where
  accessPoints
  edges := edges ++ [edge]
  providerModel
  starts := h.starts
  inGraph := h.inGraph
  simple := h.simple
  sameLength := by rw [List.length_append, h.sameLength, List.length_singleton]
  leaves := h.leaves_append hedge
  enters := by
    intro i other next hi hnext
    have hlt := (List.getElem?_eq_some_iff.mp hnext).1
    rw [h.sameLength] at hlt
    rw [List.getElem?_append_left (by omega)] at hi
    exact h.enters i other next hi hnext
  arrives := by
    intro other hother
    rw [List.getLast?_append_of_ne_nil _ (List.cons_ne_nil _ _), List.getLast?_singleton] at hother
    cases hother
    exact ⟨htype, (requireProviderModel_eq_ok hrequire).2⟩
  target := (requireProviderModel_eq_ok hrequire).1
  hops := hhops
  fallbacks := hfallbacks

end Approach

/-! ### The loops -/

variable {hops : Nat} {current selector : RoutingGraphAccessPoint}
  {candidate : CompiledRoutingCandidate} {selectorTarget : RoutingGraphTarget}

/-- What the search for the selector returns. -/
structure IsSelectorPath (host : Host) (graph : RoutingGraphSnapshot) (entry : String)
    (path : SelectorPath) (edges : List RoutingGraphTarget) : Prop where
  approach : Approach graph entry path.accessPointChain edges path.selector
  edgeIds : path.targetEdgeIds = edges.map RoutingGraphTarget.id
  rule : IsCompiledRule host path.selector path.rule
  hops : path.accessPointChain.length ≤ maxAccessPointToAccessPointHops + 1
  fallbacks : path.accessPointChain.countP isOrderedFallback ≤ 1

theorem countP_concat_le_one {before : List RoutingGraphAccessPoint}
    (h : ∀ accessPoint ∈ before, isOrderedFallback accessPoint = false)
    (current : RoutingGraphAccessPoint) : (before ++ [current]).countP isOrderedFallback ≤ 1 := by
  have hnone : before.countP isOrderedFallback = 0 :=
    List.countP_eq_zero.mpr fun accessPoint hmem => by simp [h accessPoint hmem]
  rw [List.countP_append, hnone, List.countP_singleton]
  split_ifs <;> omega

/-- A round of the search: it ends at the current AccessPoint, or a direct rule leads on. -/
theorem findSelectorFrom_step {path : SelectorPath} {visited : List RoutingGraphAccessPoint}
    {edgeIds : List String}
    (h : findSelectorFrom host graph hops visited edgeIds current budget = .ok (path, budget')) :
    current.id ∉ visited.map RoutingGraphAccessPoint.id ∧
      ∃ rule, IsCompiledRule host current rule ∧
        (path = ⟨current, visited ++ [current], edgeIds, rule⟩ ∨
          ∃ hops' target downstream budget₁, hops = hops' + 1 ∧
            isOrderedFallback current = false ∧ target ∈ rule.targets ∧
            target.type = .accessPoint ∧
            requireTargetAccessPoint graph current target = .ok downstream ∧
            findSelectorFrom host graph hops' (visited ++ [current]) (edgeIds ++ [target.id])
              downstream budget₁ = .ok (path, budget')) := by
  unfold findSelectorFrom at h
  obtain ⟨_, _, -, h⟩ := run_bind.mp h
  obtain ⟨_, hnew, h⟩ := run_check_bind.mp h
  obtain ⟨rule, budget₁, hrule, h⟩ := run_bind.mp h
  refine ⟨rejectIf_eq_ok.mp hnew, rule, compileRule_returns hrule, ?_⟩
  split_ifs at h with hordered
  · exact .inl (run_pure.mp h).1
  · cases htargets : rule.targets with
    | nil =>
      simp only [htargets] at h
      cases (check_eq_ok.mp h).1
    | cons target rest =>
      simp only [htargets] at h
      cases htype : target.type with
      | providerModel =>
        simp only [htype] at h
        exact .inl (run_pure.mp h).1
      | accessPoint =>
        simp only [htype] at h
        cases hops with
        | zero => cases (check_eq_ok.mp h).1
        | succ hops =>
          obtain ⟨downstream, hrequire, h⟩ := run_check_bind.mp h
          exact .inr ⟨hops, target, downstream, budget₁, rfl, decide_eq_false hordered,
            List.mem_cons_self, htype, hrequire, h⟩

/-- The search keeps an approach whose AccessPoints are all direct.  That the current one is new is
only checked once the loop has come to it. -/
theorem findSelectorFrom_returns {entry : String} {path : SelectorPath} :
    ∀ {visited : List RoutingGraphAccessPoint} {edges : List RoutingGraphTarget}
      {current : RoutingGraphAccessPoint} {budget budget' : GraphCompilationBudget},
      (current.id ∉ visited.map RoutingGraphAccessPoint.id →
        Approach graph entry (visited ++ [current]) edges current) →
      (∀ accessPoint ∈ visited, isOrderedFallback accessPoint = false) →
      visited.length + hops = maxAccessPointToAccessPointHops →
      findSelectorFrom host graph hops visited (edges.map RoutingGraphTarget.id) current budget =
        .ok (path, budget') →
      ∃ edges', IsSelectorPath host graph entry path edges' := by
  induction hops with
  | zero =>
    intro visited edges current budget budget' happroach hdirect hlength h
    obtain ⟨hnew, rule, hrule, hend | ⟨hops, _, _, _, hhops, -⟩⟩ := findSelectorFrom_step h
    · subst hend
      exact ⟨edges, happroach hnew, rfl, hrule, by simp; omega,
        countP_concat_le_one hdirect current⟩
    · omega
  | succ hops ih =>
    intro visited edges current budget budget' happroach hdirect hlength h
    obtain ⟨hnew, rule, hrule, hend |
      ⟨hops', target, downstream, budget₁, hhops, hcurrent, htarget, htype, hrequire, hrest⟩⟩ :=
        findSelectorFrom_step h
    · subst hend
      exact ⟨edges, happroach hnew, rfl, hrule, by simp; omega,
        countP_concat_le_one hdirect current⟩
    · obtain rfl : hops' = hops := by omega
      have hids : edges.map RoutingGraphTarget.id ++ [target.id] =
          (edges ++ [target]).map RoutingGraphTarget.id := by simp
      rw [hids] at hrest
      refine ih (fun hdownstream => ?_) ?_ (by simp; omega) hrest
      · exact (happroach hnew).hop (hrule.enabledEdge htarget) htype hrequire hdownstream
      · intro accessPoint hmem
        obtain hmem | hmem := List.mem_append.mp hmem
        · exact hdirect accessPoint hmem
        · rw [List.mem_singleton.mp hmem]
          exact hcurrent

/-- A round of the way from a target to a provider model: it arrives, or a direct rule leads on. -/
theorem compileCandidateFrom_step {candidate : CompiledRoutingCandidate}
    {selector current : RoutingGraphAccessPoint} {selectorTarget target : RoutingGraphTarget}
    {hops : Nat} {chain : List RoutingGraphAccessPoint} {edgeIds : List String}
    (h : compileCandidateFrom host graph selector selectorTarget hops chain edgeIds current target
      budget = .ok (candidate, budget')) :
    (target.type = .providerModel ∧ ∃ providerModel,
        requireProviderModel graph current target = .ok providerModel ∧
        candidate = compiledCandidate selector selectorTarget chain (edgeIds ++ [target.id])
          providerModel) ∨
      ∃ hops' downstream rule next budget₁, hops = hops' + 1 ∧ target.type = .accessPoint ∧
        requireTargetAccessPoint graph current target = .ok downstream ∧
        downstream.id ∉ chain.map RoutingGraphAccessPoint.id ∧
        isOrderedFallback downstream = false ∧ IsCompiledRule host downstream rule ∧
        next ∈ rule.targets ∧
        compileCandidateFrom host graph selector selectorTarget hops' (chain ++ [downstream])
          (edgeIds ++ [target.id]) downstream next budget₁ = .ok (candidate, budget') := by
  unfold compileCandidateFrom at h
  obtain ⟨_, budget₁, -, h⟩ := run_bind.mp h
  cases htype : target.type with
  | providerModel =>
    simp only [htype] at h
    obtain ⟨providerModel, hrequire, h⟩ := run_check_bind.mp h
    exact .inl ⟨rfl, providerModel, hrequire, (run_pure.mp h).1⟩
  | accessPoint =>
    simp only [htype] at h
    cases hops with
    | zero => cases (check_eq_ok.mp h).1
    | succ hops =>
      obtain ⟨downstream, hrequire, h⟩ := run_check_bind.mp h
      obtain ⟨_, hnew, h⟩ := run_check_bind.mp h
      obtain ⟨rule, budget₂, hrule, h⟩ := run_bind.mp h
      obtain ⟨_, hdirect, h⟩ := run_check_bind.mp h
      cases htargets : rule.targets with
      | nil =>
        simp only [htargets] at h
        cases (check_eq_ok.mp h).1
      | cons next rest =>
        simp only [htargets] at h
        exact .inr ⟨hops, downstream, rule, next, budget₂, rfl, rfl, hrequire,
          rejectIf_eq_ok.mp hnew, decide_eq_false (rejectIf_eq_ok.mp hdirect),
          compileRule_returns hrule, by rw [htargets]; exact List.mem_cons_self, h⟩

/-- A candidate is a path on which its selector chose its target. -/
def IsCandidateOf (graph : RoutingGraphSnapshot) (entry : String)
    (selector : RoutingGraphAccessPoint) (selectorTarget : RoutingGraphTarget)
    (candidate : CompiledRoutingCandidate) : Prop :=
  ∃ path : RoutingPath graph entry,
    candidate = compiledCandidate selector selectorTarget path.accessPoints
      (path.edges.map RoutingGraphTarget.id) path.providerModel ∧
    ∃ i : Nat, path.accessPoints[i]? = some selector ∧ path.edges[i]? = some selectorTarget

/-- The way to a provider model keeps an approach with at most one ordered fallback, on which the
selector is followed by its target. -/
theorem compileCandidateFrom_returns {entry : String} :
    ∀ {chain : List RoutingGraphAccessPoint} {edges : List RoutingGraphTarget}
      {current : RoutingGraphAccessPoint} {target : RoutingGraphTarget}
      {budget budget' : GraphCompilationBudget},
      Approach graph entry chain edges current → IsEnabledEdge current target →
      chain.countP isOrderedFallback ≤ 1 →
      chain.length + hops = maxAccessPointToAccessPointHops + 1 →
      (∃ i : Nat, chain[i]? = some selector ∧ (edges ++ [target])[i]? = some selectorTarget) →
      compileCandidateFrom host graph selector selectorTarget hops chain
        (edges.map RoutingGraphTarget.id) current target budget = .ok (candidate, budget') →
      IsCandidateOf graph entry selector selectorTarget candidate := by
  induction hops with
  | zero =>
    intro chain edges current target budget budget' happroach hedge hfallbacks hlength hselector h
    obtain ⟨htype, providerModel, hrequire, hcandidate⟩ | ⟨_, _, _, _, _, hhops, -⟩ :=
      compileCandidateFrom_step h
    · refine ⟨happroach.arrive hedge htype hrequire (by omega) hfallbacks, ?_, hselector⟩
      rw [hcandidate]
      simp [Approach.arrive]
    · omega
  | succ hops ih =>
    intro chain edges current target budget budget' happroach hedge hfallbacks hlength hselector h
    obtain ⟨htype, providerModel, hrequire, hcandidate⟩ |
      ⟨hops', downstream, rule, next, budget₁, hhops, htype, hrequire, hnew, hdirect, hrule, hnext,
        hrest⟩ := compileCandidateFrom_step h
    · refine ⟨happroach.arrive hedge htype hrequire (by omega) hfallbacks, ?_, hselector⟩
      rw [hcandidate]
      simp [Approach.arrive]
    · obtain rfl : hops' = hops := by omega
      have hids : edges.map RoutingGraphTarget.id ++ [target.id] =
          (edges ++ [target]).map RoutingGraphTarget.id := by simp
      rw [hids] at hrest
      refine ih (happroach.hop hedge htype hrequire hnew) (hrule.enabledEdge hnext) ?_
        (by simp; omega) ?_ hrest
      · rw [List.countP_append, List.countP_singleton, hdirect]
        simpa using hfallbacks
      · obtain ⟨i, hchain, htarget⟩ := hselector
        refine ⟨i, ?_, ?_⟩
        · rw [List.getElem?_append_left (List.getElem?_eq_some_iff.mp hchain).1]
          exact hchain
        · rw [List.getElem?_append_left (List.getElem?_eq_some_iff.mp htarget).1]
          exact htarget

/-! ### Plans -/

variable {plan : CompiledRoutingPlan}

/-- What a compiled plan is. -/
structure IsCompiledPlan (host : Host) (graph : RoutingGraphSnapshot) (plan : CompiledRoutingPlan)
    (selector : RoutingGraphAccessPoint) (rule : CompiledRule) : Prop where
  selectorAccessPointId : plan.selectorAccessPointId = selector.id
  selectorId : plan.selectorId = selector.routingRuleId
  selectorBehaviorVersion : plan.selectorBehaviorVersion = selector.routingRuleBehaviorVersion
  selectorConfig : plan.selectorConfig = rule.config
  routingRevision : plan.routingRevision = selector.routingRevision
  compiled : IsCompiledRule host selector rule
  candidates : List.Forall₂ (IsCandidateOf graph plan.entryAccessPointId selector) rule.targets
    plan.candidates

theorem compileRoutingPlan_returns {input : CompileRoutingPlanInput}
    (h : compileRoutingPlan host input budget = .ok (plan, budget')) :
    plan.entryAccessPointId = input.entryAccessPointId ∧
      plan.requestedModel = input.requestedModel ∧
      ∃ selector rule, IsCompiledPlan host input.graph plan selector rule := by
  obtain ⟨_, _, -, h⟩ := run_bind.mp h
  obtain ⟨entry, hentry, h⟩ := run_check_bind.mp h
  obtain ⟨_, -, h⟩ := run_check_bind.mp h
  obtain ⟨selectorPath, _, hselector, h⟩ := run_bind.mp h
  obtain ⟨candidates, _, hcandidates, h⟩ := run_bind.mp h
  obtain ⟨rfl, -⟩ := run_pure.mp h
  obtain ⟨hfind, hremoved⟩ := requireAccessPoint_eq_ok hentry
  have hstart : entry.id ∉ ([] : List RoutingGraphAccessPoint).map RoutingGraphAccessPoint.id →
      Approach input.graph entry.id ([] ++ [entry]) [] entry :=
    fun _ => .start (Table.mem_of_find? hfind) hremoved
  obtain ⟨edges, hpath⟩ := findSelectorFrom_returns hstart (by simp) (by simp) hselector
  refine ⟨Table.key_of_find? hfind, rfl, selectorPath.selector, selectorPath.rule, rfl, rfl, rfl,
    rfl, rfl, hpath.rule, ?_⟩
  have hrounds := (List.forall₂_and_left _ _).mpr
    ⟨fun target hmem => hmem, traverse_eq_ok hcandidates⟩
  refine hrounds.imp ?_
  rintro target candidate ⟨hmem, budget₁, budget₂, hround⟩
  have hlength := hpath.approach.sameLength
  unfold compileCandidate at hround
  rw [hpath.edgeIds] at hround
  refine compileCandidateFrom_returns hpath.approach (hpath.rule.enabledEdge hmem) hpath.fallbacks
    ?_ ⟨edges.length, hpath.approach.last, by simp⟩ hround
  have := hpath.hops
  omega

theorem forall₂_map_eq {α β γ : Type} {f : α → γ} {g : β → γ} {l : List α} {m : List β}
    (h : List.Forall₂ (fun a b => g b = f a) l m) : m.map g = l.map f := by
  induction h with
  | nil => rfl
  | cons hab _ ih => rw [List.map_cons, List.map_cons, hab, ih]

theorem IsCompiledPlan.nodup_candidateIds (h : IsCompiledPlan host graph plan selector rule) :
    (plan.candidates.map CompiledRoutingCandidate.candidateId).Nodup := by
  have hids : plan.candidates.map CompiledRoutingCandidate.candidateId =
      (rule.targets.map RoutingGraphTarget.id).map fun id => s!"{selector.id}:{id}" := by
    rw [List.map_map]
    apply forall₂_map_eq
    refine h.candidates.imp ?_
    rintro target candidate ⟨path, hcandidate, -⟩
    rw [hcandidate]
    rfl
  have htargets := h.compiled.targets
  rw [hids, htargets]
  refine (nodup_enabledTargets selector).map ?_
  intro left right heq
  exact String.append_right_inj _ |>.mp heq

/-! ### Evaluations -/

variable {availability : RoutingAvailabilitySnapshot}

theorem requiredAvailability_eq_ok {statuses : String → Option String} {id type status : String}
    (h : requiredAvailability statuses id type = .ok status) : statuses id = some status := by
  unfold requiredAvailability at h
  split at h
  · next hstatus =>
    cases h
    exact hstatus
  · cases h

theorem disabledAccessPoint_eq_none {chain : List String}
    (h : disabledAccessPoint availability chain = .ok none) :
    ∀ id ∈ chain, availability.accessPointStatuses id = some "enabled" := by
  induction chain with
  | nil => simp
  | cons id rest ih =>
    obtain ⟨status, hstatus, h⟩ := bind_eq_ok.mp h
    split_ifs at h with henabled
    · cases h
    · rw [not_not] at henabled
      have hhead := requiredAvailability_eq_ok hstatus
      rw [henabled] at hhead
      exact List.forall_mem_cons.mpr ⟨hhead, ih h⟩

/-- Everything a candidate uses is in service. -/
structure IsInService (availability : RoutingAvailabilitySnapshot)
    (candidate : CompiledRoutingCandidate) : Prop where
  accessPoints : ∀ id ∈ candidate.accessPointChainIds,
    availability.accessPointStatuses id = some "enabled"
  provider : availability.providerStatuses candidate.providerId = some "enabled"
  providerModel : availability.providerModelStatuses candidate.providerModelId = some "enabled"
  providerBinding : availability.providerBindingStatuses candidate.providerId = some "ready"

theorem candidateUnavailableReason_eq_none
    (h : candidateUnavailableReason candidate availability = .ok none) :
    IsInService availability candidate := by
  obtain ⟨disabled, hchain, h⟩ := bind_eq_ok.mp h
  cases disabled with
  | some id => cases h
  | none =>
    obtain ⟨providerStatus, hprovider, h⟩ := bind_eq_ok.mp h
    split at h
    · cases h
    · next hproviderEnabled =>
      obtain ⟨modelStatus, hmodel, h⟩ := bind_eq_ok.mp h
      split_ifs at h with hmodelEnabled hready
      · cases h
      · cases h
      · rw [not_not] at hproviderEnabled hmodelEnabled hready
        subst hproviderEnabled hmodelEnabled
        exact ⟨disabledAccessPoint_eq_none hchain, requiredAvailability_eq_ok hprovider,
          requiredAvailability_eq_ok hmodel, hready⟩

/-- An evaluation keeps the candidates of the plan, and marks as available what is in service. -/
theorem evaluateRouting_returns {attempts : List SelectorAttemptResult}
    {evaluated : EvaluatedRoutingPlan}
    (h : evaluateRouting host plan availability attempts budget = .ok (evaluated, budget')) :
    evaluated.candidates.map EvaluatedRoutingCandidate.toCompiledRoutingCandidate =
      plan.candidates ∧
      ∀ candidate ∈ evaluated.candidates, candidate.available →
        IsInService availability candidate.toCompiledRoutingCandidate := by
  obtain ⟨_, _, -, h⟩ := run_bind.mp h
  obtain ⟨candidates, _, hcandidates, h⟩ := run_bind.mp h
  obtain ⟨selection, hselection, h⟩ := run_check_bind.mp h
  obtain ⟨rfl, -⟩ := run_pure.mp h
  have hmatch := bind_eq_ok.mp hselection
  obtain ⟨_, hmatch, -⟩ := hmatch
  refine ⟨not_not.mp (rejectIf_eq_ok.mp hmatch), ?_⟩
  intro candidate hmem
  obtain ⟨compiled, -, budget₁, budget₂, hround⟩ :=
    exists_of_forall₂ (traverse_eq_ok hcandidates) hmem
  obtain ⟨_, _, -, hround⟩ := run_bind.mp hround
  obtain ⟨reason, hreason, hround⟩ := run_check_bind.mp hround
  obtain ⟨rfl, -⟩ := run_pure.mp hround
  intro havailable
  rw [of_decide_eq_true havailable] at hreason
  exact candidateUnavailableReason_eq_none hreason

/-- A compiled plan keeps the budget within its limits, and every candidate is a path of the graph
to a provider model, with ids of its own.  Whether the provider model is in service is found when
the plan is evaluated. -/
theorem compileRoutingPlan_sound {input : CompileRoutingPlanInput} {plan : CompiledRoutingPlan}
    (hbudget : budget.WithinLimits)
    (h : compileRoutingPlan host input budget = .ok (plan, budget')) :
    budget'.WithinLimits ∧
      (plan.candidates.map CompiledRoutingCandidate.candidateId).Nodup ∧
      (∀ candidate ∈ plan.candidates,
        ∃ path : RoutingPath input.graph input.entryAccessPointId,
          candidate.accessPointChainIds = path.accessPoints.map RoutingGraphAccessPoint.id ∧
          candidate.pathTargetEdgeIds = path.edges.map RoutingGraphTarget.id ∧
          candidate.routingRevisions = path.accessPoints.map (fun accessPoint =>
            ⟨accessPoint.id, accessPoint.routingRevision⟩) ∧
          candidate.providerModelId = path.providerModel.id ∧
          candidate.providerId = path.providerModel.providerId ∧
          candidate.providerModelName = path.providerModel.providerModelName) ∧
      ∀ availability attempts budget₁ budget₂ evaluated,
        evaluateRouting host plan availability attempts budget₁ = .ok (evaluated, budget₂) →
        ∀ candidate ∈ evaluated.candidates, candidate.available →
          availability.providerModelStatuses candidate.providerModelId = some "enabled" := by
  obtain ⟨hentry, -, selector, rule, hplan⟩ := compileRoutingPlan_returns h
  refine ⟨keeps_compileRoutingPlan input h hbudget, hplan.nodup_candidateIds, ?_, ?_⟩
  · intro candidate hmem
    obtain ⟨target, -, path, hcandidate, -⟩ := exists_of_forall₂ hplan.candidates hmem
    rw [← hentry]
    refine ⟨path, ?_⟩
    rw [hcandidate]
    exact ⟨rfl, rfl, rfl, rfl, rfl, rfl⟩
  · intro availability attempts budget₁ budget₂ evaluated hevaluated candidate hmem havailable
    exact ((evaluateRouting_returns hevaluated).2 candidate hmem havailable).providerModel

/-! ### A direct rule -/

def plainHost : Host where
  parseJson text := if text = "{}" then some (.object []) else none
  localeCompare := compare

def directAccessPoint : RoutingGraphAccessPoint where
  id := "entry"
  exposedModel := "model"
  targetModel := "model"
  routingRuleId := "direct"
  routingRuleBehaviorVersion := 1
  routingRuleConfigJson := "{}"
  routingRevision := 1
  removedAt := none
  targets := [⟨"edge", .providerModel, none, some "providerModel", none, none, 0, "enabled", none⟩]
  targetIds := by decide

def directInput : CompileRoutingPlanInput where
  entryAccessPointId := "entry"
  requestedModel := "model"
  graph := ⟨⟨[directAccessPoint], by decide⟩,
    ⟨[⟨"providerModel", "provider", "model"⟩], by decide⟩⟩

def plainBudget : GraphCompilationBudget where
  options := ⟨10, 10, 100, 10, none, fun _ => false, fun _ => 0⟩
  visitedNodeIds := []
  visitedEdgeIds := []
  decodedConfigBytes := 0
  evaluatedCandidates := 0
  checkpoints := 0

/-- Everything is in service, except that provider models have the given status. -/
def plainAvailability (modelStatus : String) : RoutingAvailabilitySnapshot where
  accessPointStatuses _ := some "enabled"
  providerStatuses _ := some "enabled"
  providerModelStatuses _ := some modelStatus
  providerBindingStatuses _ := some "ready"

/-- The compiler does not look at the status of a provider model: that of this plan is disabled, and
only the evaluation finds its candidate unavailable. -/
theorem disabledProviderModel_compiled :
    ∃ plan budget', compileRoutingPlan plainHost directInput plainBudget = .ok (plan, budget') ∧
      (∃ candidate ∈ plan.candidates,
        (plainAvailability "disabled").providerModelStatuses candidate.providerModelId =
          some "disabled") ∧
      ∃ evaluated budget'', evaluateRouting plainHost plan (plainAvailability "disabled") []
          budget' = .ok (evaluated, budget'') ∧
        evaluated.candidates.map EvaluatedRoutingCandidate.unavailableReason =
          [some (.providerModelDisabled "providerModel")] := by
  have hrun : (compileRoutingPlan plainHost directInput plainBudget).toOption.any (fun compiled =>
      compiled.1.candidates.map CompiledRoutingCandidate.providerModelId = ["providerModel"] &&
        (evaluateRouting plainHost compiled.1 (plainAvailability "disabled") []
          compiled.2).toOption.any fun evaluation =>
            evaluation.1.candidates.map EvaluatedRoutingCandidate.unavailableReason =
              [some (.providerModelDisabled "providerModel")]) = true := by
    decide +kernel
  obtain ⟨⟨plan, budget'⟩, hcompiled, htest⟩ := exists_of_test hrun
  rw [Bool.and_eq_true] at htest
  obtain ⟨⟨evaluated, budget''⟩, hevaluated, hreason⟩ := exists_of_test htest.2
  refine ⟨plan, budget', hcompiled, ?_, evaluated, budget'', hevaluated, of_decide_eq_true hreason⟩
  have hmodels := of_decide_eq_true htest.1
  cases hcandidates : plan.candidates with
  | nil =>
    rw [hcandidates] at hmodels
    cases hmodels
  | cons candidate rest => exact ⟨candidate, List.mem_cons_self, rfl⟩

/-! ### A reference to an ordered fallback -/

def orderedAccessPoint (id : String) : RoutingGraphAccessPoint where
  id
  exposedModel := "model"
  targetModel := "model"
  routingRuleId := "ordered-fallback"
  routingRuleBehaviorVersion := 1
  routingRuleConfigJson := "{}"
  routingRevision := 1
  removedAt := none
  targets :=
    [⟨"edgeA", .providerModel, none, some "modelA", some "providerA", some "model", 0, "enabled",
        none⟩,
      ⟨"edgeB", .providerModel, none, some "modelB", some "providerB", some "model", 1, "enabled",
        none⟩]
  targetIds := by decide

/-- A direct AccessPoint that refers to one that falls back from one provider model to another. -/
def referringInput : CompileRoutingPlanInput where
  entryAccessPointId := "entry"
  requestedModel := "model"
  graph := ⟨⟨[{ directAccessPoint with
      targets := [⟨"edge", .accessPoint, some "inner", none, none, none, 0, "enabled", none⟩]
      targetIds := by decide }, orderedAccessPoint "inner"], by decide⟩,
    ⟨[⟨"modelA", "providerA", "model"⟩, ⟨"modelB", "providerB", "model"⟩], by decide⟩⟩

theorem compileRoutingPlan_sound_referring :
    ∃ plan budget', compileRoutingPlan plainHost referringInput plainBudget = .ok (plan, budget') ∧
      plan.candidates.map (fun candidate =>
        (candidate.accessPointChainIds, candidate.pathTargetEdgeIds)) =
          [(["entry", "inner"], ["edge", "edgeA"]), (["entry", "inner"], ["edge", "edgeB"])] ∧
      budget'.WithinLimits ∧ (plan.candidates.map CompiledRoutingCandidate.candidateId).Nodup ∧
      ∀ candidate ∈ plan.candidates, ∃ path : RoutingPath referringInput.graph "entry",
        candidate.accessPointChainIds = path.accessPoints.map RoutingGraphAccessPoint.id ∧
        candidate.providerModelId = path.providerModel.id := by
  have hrun : (compileRoutingPlan plainHost referringInput plainBudget).toOption.any
      (fun compiled => compiled.1.candidates.map (fun candidate =>
        (candidate.accessPointChainIds, candidate.pathTargetEdgeIds)) =
          [(["entry", "inner"], ["edge", "edgeA"]), (["entry", "inner"], ["edge", "edgeB"])]) =
        true := by
    decide +kernel
  obtain ⟨⟨plan, budget'⟩, hcompiled, hpaths⟩ := exists_of_test hrun
  have hbudget : plainBudget.WithinLimits := ⟨by decide, by decide, by decide, by decide⟩
  obtain ⟨hwithin, hnodup, hcandidates, -⟩ := compileRoutingPlan_sound hbudget hcompiled
  refine ⟨plan, budget', hcompiled, of_decide_eq_true hpaths, hwithin, hnodup, ?_⟩
  intro candidate hmem
  obtain ⟨path, hchain, -, -, hmodel, -⟩ := hcandidates candidate hmem
  exact ⟨path, hchain, hmodel⟩

end Frely.ModelAccess
