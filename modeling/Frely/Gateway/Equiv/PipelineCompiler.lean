import Frely.Gateway.Equiv.PipelineEdges

/-!
# Compiled plans

`compileExecutionPlan_sound`: a plan that the compiler returns lists the hooks of the active
plugins, each once, and every hook after all the hooks that it depends on; where the dependencies
form a cycle there is no plan; and the order of the plugins does not matter.

A hook that requires a context key runs after the producers of the key of its own phase and of
earlier ones.  A producer of a later phase is left out by `availableProducers`: `readsTooEarly` is a
plan that runs a hook before a producer of what it requires.
-/

namespace Frely.Pipeline

open Checked StableSort

variable {φ π : Type}

/-! ### One phase -/

variable {entry : PipelinePhase × List (PlannedHook π)}

section Phases

variable {host : CompilerHost} {nodes nodes' phaseNodes sorted : List (HookNode φ)}
  {edges edges' : Edges} {phase : PipelinePhase}

theorem mem_edgesOf {ref target : String} : target ∈ edgesOf edges ref ↔ (ref, target) ∈ edges := by
  simp [edgesOf]

theorem nodup_edgesOf (ref : String) : (edgesOf edges ref).Nodup := List.nodup_dedup _

theorem topologicalSort_eq_ok (h : topologicalSort host edges phase phaseNodes = .ok sorted)
    (hrefs : (phaseNodes.map (·.ref)).Nodup) :
    sorted.Perm phaseNodes ∧ ∀ before node after, sorted = before ++ node :: after →
      ∀ other ∈ phaseNodes, (other.ref, node.ref) ∈ edges → other ∈ before := by
  simp only [topologicalSort, bind_eq_ok, rejectIf_eq_ok, pure_eq_ok, Except.ok.injEq] at h
  obtain ⟨_, hlength, rfl⟩ := h
  have hedges : ∀ node ∈ phaseNodes, (edgesOf edges node.ref).Nodup := fun _ _ => nodup_edgesOf _
  have horder : ∀ node ∈ phaseNodes,
      (sortBy compare (edgesOf edges node.ref)).Perm (edgesOf edges node.ref) :=
    fun _ _ => perm_sortBy _
  refine ⟨TopologicalSort.perm_sorted hrefs hedges horder (not_not.mp hlength), ?_⟩
  intro before node after hsplit other hother hedge
  exact TopologicalSort.mem_of_edge hrefs hedges horder hsplit hother (mem_edgesOf.mpr hedge)

theorem alike_topologicalSort (hperm : nodes.Perm nodes') (hedges : SameMembers edges edges')
    (hrefs : (nodes.map (·.ref)).Nodup) (htexts : ∀ node ∈ nodes, isRefText node.ref) :
    Alike Eq (topologicalSort host edges phase nodes)
      (topologicalSort host edges' phase nodes') := by
  have htrans : Std.TransCmp fun left right : HookNode φ =>
      host.localeCompare left.ref right.ref :=
    @transCmp_map String (HookNode φ) host.localeCompare host.transCmp (·.ref)
  have hties : ∀ node ∈ nodes, ∀ other ∈ nodes, host.localeCompare node.ref other.ref = .eq →
      node = other := by
    intro node hnode other hother h
    exact List.inj_on_of_nodup_map hrefs hnode hother
      (host.eq_of_localeCompare _ _ (htexts node hnode) (htexts other hother) h)
  have hsame : ∀ (node : HookNode φ) target,
      target ∈ edgesOf edges node.ref ↔ target ∈ edgesOf edges' node.ref := by
    intro node target
    rw [mem_edgesOf, mem_edgesOf]
    exact hedges _
  have htargets : ∀ node : HookNode φ, sortBy compare (edgesOf edges node.ref) =
      sortBy compare (edgesOf edges' node.ref) := by
    intro node
    refine sortBy_eq_of_perm ?_ fun _ _ _ _ h => Std.LawfulEqOrd.eq_of_compare h
    exact (List.perm_ext_iff_of_nodup (nodup_edgesOf _) (nodup_edgesOf _)).mpr (hsame node)
  unfold topologicalSort
  rw [TopologicalSort.sorted_congr hperm hrefs hties hsame htargets, hperm.length_eq]
  exact (alike_rejectIf Iff.rfl).bind fun _ _ _ => rfl

variable {availablePorts : String → Option π}

theorem compilePhase_eq_ok (h : compilePhase host availablePorts nodes edges phase = .ok entry) :
    entry.1 = phase ∧ ∃ sorted, topologicalSort host edges phase
      (nodes.filter fun node => decide (node.hook.phase = phase)) = .ok sorted ∧
        entry.2.map (·.ref) = sorted.map (·.ref) := by
  simp only [compilePhase, bind_eq_ok, pure_eq_ok, Except.ok.injEq] at h
  obtain ⟨sorted, hsorted, hooks, hhooks, rfl⟩ := h
  refine ⟨rfl, sorted, hsorted, map_of_mapM_eq_ok (fun node hook hhook => ?_) hhooks⟩
  simp only [compiledHook, bind_eq_ok, pure_eq_ok, Except.ok.injEq] at hhook
  obtain ⟨ports, -, rfl⟩ := hhook
  rfl

theorem alike_compilePhase (hperm : nodes.Perm nodes') (hedges : SameMembers edges edges')
    (hnodes : Nodes nodes) (phase : PipelinePhase) :
    Alike Eq (compilePhase host availablePorts nodes edges phase)
      (compilePhase host availablePorts nodes' edges' phase) := by
  refine (alike_topologicalSort (hperm.filter _) hedges (hnodes.nodup_filter _) ?_).bind
    fun _ _ heq => heq ▸ alike_refl _
  intro node hnode
  exact hnodes.isRefText node (List.mem_filter.mp hnode).1

end Phases

/-! ### Plans -/

section Plans

variable {host : CompilerHost} {input : CompilerInput φ π} {plan : CompiledPlan π}

/-- The references of a plan, in the order in which its hooks run. -/
def CompiledPlan.refs (plan : CompiledPlan π) : List String :=
  pipelinePhases.flatMap fun phase => (plan.hooksByPhase phase).map (·.ref)

/-- When a hook runs. -/
def CompiledPlan.position (plan : CompiledPlan π) (hook : PluginHook φ) : Nat :=
  plan.refs.idxOf (refOf hook)

theorem hooksOf_eq {entries : List (PipelinePhase × List (PlannedHook π))}
    (hphases : (entries.map (·.1)).Nodup) (hentry : entry ∈ entries) :
    hooksOf entries entry.1 = entry.2 := by
  unfold hooksOf
  cases hfind : entries.find? fun other => decide (other.1 = entry.1) with
  | none =>
    have := List.find?_eq_none.mp hfind entry hentry
    simp at this
  | some other =>
    have hsame : other.1 = entry.1 := by simpa using List.find?_some hfind
    rw [List.inj_on_of_nodup_map hphases (List.mem_of_find?_eq_some hfind) hentry hsame]
    rfl

/-- What a plan is made of. -/
structure Compiled (host : CompilerHost) (input : CompilerInput φ π) (plan : CompiledPlan π)
    (nodes : List (HookNode φ)) (edges : Edges) : Prop where
  registered : Registered input.plugins
  isNodes : Nodes nodes
  entries : nodes.map HookNode.entry = activeHooks input
  compiled : compileEdges input nodes = .ok edges
  phases : ∀ phase, ∃ sorted, topologicalSort host edges phase
    (nodes.filter fun node => decide (node.hook.phase = phase)) = .ok sorted ∧
      (plan.hooksByPhase phase).map (·.ref) = sorted.map (·.ref)

theorem registered_of_assertInput (h : assertInput input = .ok ()) : Registered input.plugins := by
  simp only [assertInput, bind_eq_ok] at h
  obtain ⟨_, -, _, -, _, -, _, hregistry, -⟩ := h
  exact registered_of_eq_ok hregistry

theorem compiled_of_eq_ok (h : compileExecutionPlan host input = .ok plan) :
    ∃ nodes edges, Compiled host input plan nodes edges := by
  simp only [compileExecutionPlan, bind_eq_ok, pure_eq_ok, Except.ok.injEq] at h
  obtain ⟨_, hinput, active, hactive, edges, hedges, entries, hentries, rfl⟩ := h
  have hregistered := registered_of_assertInput hinput
  refine ⟨_, edges, hregistered, nodes_of_active hregistered hactive, nodes_eq hactive, hedges, ?_⟩
  intro phase
  obtain ⟨entry, hentry, hcompiled⟩ := exists_of_mapM_eq_ok hentries phase
    (mem_pipelinePhases phase)
  obtain ⟨rfl, sorted, hsorted, hrefs⟩ := compilePhase_eq_ok hcompiled
  have hphases : entries.map (·.1) = pipelinePhases := by
    have := map_of_mapM_eq_ok (fun _ _ h => (compilePhase_eq_ok h).1) hentries
    rwa [List.map_id'] at this
  refine ⟨sorted, hsorted, ?_⟩
  show (hooksOf entries entry.1).map (·.ref) = _
  rw [hooksOf_eq (hphases ▸ nodup_pipelinePhases) hentry, hrefs]

variable {nodes : List (HookNode φ)} {edges : Edges}

theorem Compiled.sorted_perm (h : Compiled host input plan nodes edges) (phase : PipelinePhase) :
    ((plan.hooksByPhase phase).map (·.ref)).Perm
      ((nodes.filter fun node => decide (node.hook.phase = phase)).map (·.ref)) := by
  obtain ⟨sorted, hsorted, hrefs⟩ := h.phases phase
  rw [hrefs]
  exact (topologicalSort_eq_ok hsorted (h.isNodes.nodup_filter _)).1.map _

/-- A plan lists the hooks of the active plugins. -/
theorem Compiled.refs_perm (h : Compiled host input plan nodes edges) :
    plan.refs.Perm ((activeHooks input).map refOf) := by
  have hgroups := TopologicalSort.perm_flatMap_filter (fun node : HookNode φ => node.hook.phase)
    nodup_pipelinePhases nodes
  have hall : (nodes.filter fun node => decide (node.hook.phase ∈ pipelinePhases)) = nodes :=
    List.filter_eq_self.mpr fun node _ => decide_eq_true (mem_pipelinePhases _)
  have hrefs : nodes.map (·.ref) = (activeHooks input).map refOf := by
    rw [← h.entries, List.map_map]
    exact List.map_congr_left h.isNodes.ref_eq
  rw [← hrefs, CompiledPlan.refs]
  refine (List.Perm.flatMap_left _ fun phase _ => h.sorted_perm phase).trans ?_
  rw [← List.map_flatMap]
  exact (hall ▸ hgroups).map _

/-- A hook that another one leads to comes after it. -/
theorem Compiled.position_lt (h : Compiled host input plan nodes edges)
    {producer consumer : HookNode φ} (hproducer : producer ∈ nodes) (hconsumer : consumer ∈ nodes)
    (hleads : Leads edges producer consumer) :
    plan.refs.idxOf producer.ref < plan.refs.idxOf consumer.ref := by
  have hnodup : plan.refs.Nodup := h.refs_perm.nodup_iff.mpr (nodup_refs_activeHooks h.registered)
  have hmem : ∀ node ∈ nodes, node.ref ∈ (plan.hooksByPhase node.hook.phase).map (·.ref) := by
    intro node hnode
    rw [(h.sorted_perm _).mem_iff]
    exact List.mem_map_of_mem (List.mem_filter.mpr ⟨hnode, decide_eq_true rfl⟩)
  rcases hleads with ⟨hphase, hedge⟩ | hlt
  · obtain ⟨sorted, hsorted, hrefs⟩ := h.phases consumer.hook.phase
    obtain ⟨hperm, hearlier⟩ := topologicalSort_eq_ok hsorted (h.isNodes.nodup_filter _)
    have hlisted : consumer ∈ sorted :=
      hperm.mem_iff.mpr (List.mem_filter.mpr ⟨hconsumer, decide_eq_true rfl⟩)
    obtain ⟨before, after, rfl⟩ := List.append_of_mem hlisted
    have hbefore := hearlier before consumer after rfl producer
      (List.mem_filter.mpr ⟨hproducer, decide_eq_true hphase⟩) hedge
    rw [List.map_append, List.map_cons] at hrefs
    exact TopologicalSort.idxOf_flatMap_of_split hnodup (mem_pipelinePhases _) hrefs
      (List.mem_map_of_mem hbefore)
  · exact TopologicalSort.idxOf_flatMap_of_lt hnodup (mem_pipelinePhases _) hlt
      (hmem producer hproducer) (hmem consumer hconsumer)

variable {consumer producer : PluginHook φ}

theorem DependsOn.mem {hooks : List (PluginHook φ)} (h : DependsOn hooks consumer producer) :
    consumer ∈ hooks ∧ producer ∈ hooks := by
  cases h with
  | capability hconsumer hproducer => exact ⟨hconsumer, hproducer⟩
  | context hconsumer hproducer => exact ⟨hconsumer, hproducer⟩
  | before hconsumer hproducer => exact ⟨hconsumer, hproducer⟩
  | after hconsumer hproducer => exact ⟨hconsumer, hproducer⟩

/-- Every hook runs after all that it depends on. -/
theorem Compiled.position_of_dependsOn (h : Compiled host input plan nodes edges)
    (hdepends : DependsOn (activeHooks input) consumer producer) :
    plan.position producer < plan.position consumer := by
  rw [← h.entries] at hdepends
  obtain ⟨hmem, hmem'⟩ := hdepends.mem
  obtain ⟨consumer, hconsumer, rfl⟩ := List.mem_map.mp hmem
  obtain ⟨producer, hproducer, rfl⟩ := List.mem_map.mp hmem'
  have hleads := leads_of_dependsOn h.isNodes h.compiled hconsumer hproducer hdepends
  unfold CompiledPlan.position
  rw [← h.isNodes.ref_eq _ hproducer, ← h.isNodes.ref_eq _ hconsumer]
  exact h.position_lt hproducer hconsumer hleads

theorem Compiled.position_of_transGen (h : Compiled host input plan nodes edges)
    (hdepends : Relation.TransGen (DependsOn (activeHooks input)) consumer producer) :
    plan.position producer < plan.position consumer := by
  induction hdepends with
  | single hstep => exact h.position_of_dependsOn hstep
  | tail _ hstep ih => exact Nat.lt_trans (h.position_of_dependsOn hstep) ih

end Plans

/-! ### The order of the plugins -/

section Permutations

variable {host : CompilerHost} {input : CompilerInput φ π} {plugins : List (PipelinePlugin φ)}

theorem contextKeyOf_perm (hperm : input.plugins.Perm plugins)
    (hregistered : Registered input.plugins) :
    contextKeyOf plugins = contextKeyOf input.plugins := by
  funext id
  exact (TopologicalSort.find?_key_perm (hperm.flatMap_right _) hregistered.contextKeyIds id).symm

theorem planRevision_perm (hperm : input.plugins.Perm plugins) :
    planRevision host { input with plugins := plugins } = planRevision host input := by
  have hsorted : sortBy compare (plugins.map fun plugin => fingerprint plugin.manifest) =
      sortBy compare (input.plugins.map fun plugin => fingerprint plugin.manifest) :=
    sortBy_eq_of_perm (hperm.symm.map _) fun _ _ _ _ h => Std.LawfulEqOrd.eq_of_compare h
  unfold planRevision registryFingerprint
  dsimp only
  rw [hsorted]

theorem assertSettings_perm (hperm : input.plugins.Perm plugins) :
    assertSettings (input.plugins.map (·.manifest.id)) input.settings = .ok () ↔
      assertSettings (plugins.map (·.manifest.id)) input.settings = .ok () := by
  simp only [assertSettings, checkDistinct_eq_ok, bind_eq_ok, rejectIf_eq_ok,
    (hperm.map fun plugin => plugin.manifest.id).mem_iff]

theorem alike_assertInput (hperm : input.plugins.Perm plugins) :
    Alike Eq (assertInput input) (assertInput { input with plugins := plugins }) := by
  refine (alike_refl _).bind fun _ _ _ => (alike_refl _).bind fun _ _ _ =>
    (alike_refl _).bind fun _ _ _ => ?_
  have hregistry : createPipelineRegistry input.plugins input.kernelApiVersion = .ok () ↔
      createPipelineRegistry plugins input.kernelApiVersion = .ok () :=
    ⟨createPipelineRegistry_perm hperm, createPipelineRegistry_perm hperm.symm⟩
  exact (alike_of_iff hregistry).bind fun _ _ _ => alike_of_iff (assertSettings_perm hperm)

/-- The order of the plugins changes neither a plan nor whether there is one. -/
theorem alike_compileExecutionPlan (hperm : input.plugins.Perm plugins) :
    Alike Eq (compileExecutionPlan host input)
      (compileExecutionPlan host { input with plugins := plugins }) := by
  refine (alike_assertInput hperm).bind_ok fun _ _ hinput _ _ => ?_
  have hregistered := registered_of_assertInput hinput
  refine (alike_collect_perm hperm).bind_ok fun active active' hactive _ hactives => ?_
  have hnodes := nodes_of_active hregistered hactive
  have halike : Alike SameMembers (compileEdges input (active.flatMap nodesOf))
      (compileEdges { input with plugins := plugins } (active'.flatMap nodesOf)) :=
    alike_compileEdges (hactives.flatMap_right _) rfl rfl (contextKeyOf_perm hperm hregistered)
  refine halike.bind fun edges edges' hedges => ?_
  refine (alike_mapM fun phase _ => alike_compilePhase (hactives.flatMap_right _) hedges hnodes
    phase).bind fun entries _ heq => ?_
  subst heq
  rw [planRevision_perm hperm, contextKeyOf_perm hperm hregistered]
  exact alike_refl _

end Permutations

/-- **Pipeline compilation orders correctly.** -/
theorem compileExecutionPlan_sound (host : CompilerHost) (input : CompilerInput φ π) :
    (∀ plan, compileExecutionPlan host input = .ok plan →
      plan.refs.Perm ((activeHooks input).map refOf) ∧ plan.refs.Nodup ∧
        ∀ consumer producer, DependsOn (activeHooks input) consumer producer →
          plan.position producer < plan.position consumer) ∧
    ((∃ hook, Relation.TransGen (DependsOn (activeHooks input)) hook hook) →
      ∀ plan, compileExecutionPlan host input ≠ .ok plan) ∧
    ∀ plugins, input.plugins.Perm plugins →
      (compileExecutionPlan host { input with plugins := plugins }).toOption =
        (compileExecutionPlan host input).toOption := by
  refine ⟨fun plan h => ?_, ?_, fun plugins hperm => ?_⟩
  · obtain ⟨nodes, edges, hcompiled⟩ := compiled_of_eq_ok h
    refine ⟨hcompiled.refs_perm, ?_, fun consumer producer => hcompiled.position_of_dependsOn⟩
    exact hcompiled.refs_perm.nodup_iff.mpr (nodup_refs_activeHooks hcompiled.registered)
  · rintro ⟨hook, hcycle⟩ plan h
    obtain ⟨nodes, edges, hcompiled⟩ := compiled_of_eq_ok h
    exact Nat.lt_irrefl _ (hcompiled.position_of_transGen hcycle)
  · exact (alike_compileExecutionPlan hperm).toOption_eq.symm

/-! ### A key with two producers -/

def cacheKey : PipelineContextKey :=
  { id := "owner:cache", ownerPluginId := "owner", mode := .ownerCache, object := 0,
    visibility := .shared }

def cacheHook (id : String) (phase : PipelinePhase)
    (requiresContext providesContext : List PipelineContextKey) : PipelineHook where
  id := id
  phase := phase
  kind := .transform
  requires := []
  provides := []
  readsArtifacts := []
  writesArtifacts := []
  requiresContext := requiresContext
  providesContext := providesContext
  before := []
  after := []
  bestEffort := false
  timeoutMs := none
  hasIsApplicable := false

def earlyHook : PipelineHook := cacheHook "early" .requestIngress [] [cacheKey]

def readerHook : PipelineHook := cacheHook "reader" .requestDecode [cacheKey] []

def lateHook : PipelineHook := cacheHook "late" .requestNormalize [] [cacheKey]

/-- A plugin whose cache is filled before and after it is read. -/
def cachePlugin (id : String) : PipelinePlugin Unit where
  manifest := {
    id := id, desc := "A cache", apiVersion := 1, behaviorVersion := 1, configVersion := 1
    availability := .required, userConfigurable := false, userToggleable := false
    permissions := [], requires := [], provides := [] }
  defaultConfig := .null
  parse := .ok
  configUi := []
  contextKeys := [cacheKey]
  hooks := [earlyHook, readerHook, lateHook]
  isApplicable := none

def cacheInput (ids : List String) : CompilerInput Unit Unit where
  kernelApiVersion := 1
  plugins := ids.map cachePlugin
  settingsRevision := "settings-1"
  settings := []
  cacheKey := "facts-1"
  facts := ()
  availableCapabilities := []
  singletonCapabilities := []
  availablePorts _ := none

/-- Compares by character; the digest is the one of the revision of `cacheInput ["owner"]`. -/
def plainHost : CompilerHost where
  localeCompare := compare
  transCmp := inferInstance
  eq_of_localeCompare _ _ _ _ h := Std.LawfulEqOrd.eq_of_compare h
  sha256 _ := "195a6bce270aa5f6bf6b379ce2a029ac004e55cdfdc3db97593ecc1f17ce2581"

theorem refs_cacheInput : ∃ plan, compileExecutionPlan plainHost (cacheInput ["owner"]) = .ok plan ∧
    plan.refs = ["owner/early", "owner/reader", "owner/late"] := by
  have htest : (compileExecutionPlan plainHost (cacheInput ["owner"])).toOption.any
      (fun plan => decide (plan.refs = ["owner/early", "owner/reader", "owner/late"])) = true := by
    decide
  obtain ⟨plan, hplan, hrefs⟩ := exists_of_test htest
  exact ⟨plan, hplan, of_decide_eq_true hrefs⟩

theorem mem_activeHooks_cacheInput {hook : PipelineHook}
    (h : hook ∈ [earlyHook, readerHook, lateHook]) :
    (cachePlugin "owner", hook) ∈ activeHooks (cacheInput ["owner"]) := by
  show _ ∈ (cachePlugin "owner").hooks.map (cachePlugin "owner", ·) ++ []
  rw [List.append_nil]
  exact List.mem_map_of_mem h

theorem early_before_reader : ∃ plan,
    compileExecutionPlan plainHost (cacheInput ["owner"]) = .ok plan ∧
      plan.position (cachePlugin "owner", earlyHook) <
        plan.position (cachePlugin "owner", readerHook) := by
  obtain ⟨plan, hplan, -⟩ := refs_cacheInput
  refine ⟨plan, hplan, ((compileExecutionPlan_sound plainHost (cacheInput ["owner"])).1 plan
    hplan).2.2 _ _ ?_⟩
  exact .context (mem_activeHooks_cacheInput (by simp)) (mem_activeHooks_cacheInput (by simp))
    (by decide) List.mem_cons_self List.mem_cons_self (by decide)

def failsWith {α : Type} (error : String) : Except String α → Bool
  | .ok _ => false
  | .error e => e = error

theorem error_of_failsWith {α : Type} {error : String} {x : Except String α}
    (h : failsWith error x = true) : x = .error error := by
  cases x with
  | ok a => cases h
  | error e => rw [of_decide_eq_true h]

/-- A plan may run a hook before a producer of the context that it requires, and which error is
thrown depends on the order of the plugins. -/
theorem readsTooEarly :
    (¬∀ (input : CompilerInput Unit Unit) plan, compileExecutionPlan plainHost input = .ok plan →
        ∀ consumer ∈ activeHooks input, ∀ producer ∈ activeHooks input,
          refOf producer ≠ refOf consumer → ∀ key ∈ consumer.2.requiresContext,
            key ∈ producer.2.providesContext →
              plan.position producer < plan.position consumer) ∧
      ¬∀ (input : CompilerInput Unit Unit) plugins, input.plugins.Perm plugins →
        ∀ error, compileExecutionPlan plainHost input = .error error →
          compileExecutionPlan plainHost { input with plugins := plugins } = .error error := by
  constructor
  · intro h
    obtain ⟨plan, hplan, hrefs⟩ := refs_cacheInput
    have hlt := h _ plan hplan (cachePlugin "owner", readerHook)
      (mem_activeHooks_cacheInput (by simp)) (cachePlugin "owner", lateHook)
      (mem_activeHooks_cacheInput (by simp)) (by decide) cacheKey List.mem_cons_self
      List.mem_cons_self
    unfold CompiledPlan.position at hlt
    rw [hrefs] at hlt
    exact absurd hlt (by decide)
  · intro h
    have hfirst : compileExecutionPlan plainHost (cacheInput ["A", "B"]) =
        .error "Invalid pipeline plugin ID: A" := error_of_failsWith (by decide)
    have hother : compileExecutionPlan plainHost (cacheInput ["B", "A"]) =
        .error "Invalid pipeline plugin ID: B" := error_of_failsWith (by decide)
    have hsame : compileExecutionPlan plainHost (cacheInput ["B", "A"]) =
        .error "Invalid pipeline plugin ID: A" :=
      h (cacheInput ["A", "B"]) (["B", "A"].map cachePlugin) (List.Perm.swap _ _ _) _ hfirst
    rw [hother] at hsame
    exact absurd (Except.error.inj hsame) (by decide)

end Frely.Pipeline
