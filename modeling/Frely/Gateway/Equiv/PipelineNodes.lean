import Frely.Gateway.PipelineCompiler

/-!
# The nodes of a plan

What the checks of `compileExecutionPlan` guarantee about the hooks that it puts in order:

* `nodup_refs`: no two hooks of a registry have one reference, since ids are made of letters,
  digits and single dashes;
* `nodes_eq`: the nodes are the hooks of the plugins that are active;
* `edge_or_earlier`: every dependency between two nodes is an edge within their phase, or leads
  from an earlier phase to a later one.
-/

namespace Frely.Pipeline

open Checked StableSort

/-! ### References -/

theorem chars_of_isIdFrom {text : List Char} {started : Bool} (h : isIdFrom started text = true) :
    ∀ c ∈ text, isLowerAlphanum c ∨ c = '-' := by
  induction text generalizing started with
  | nil => simp
  | cons c text ih =>
    rw [isIdFrom] at h
    intro d hd
    by_cases hc : c = '-'
    · rw [if_pos hc] at h
      rcases List.mem_cons.mp hd with rfl | hd
      · exact .inr hc
      · exact ih (Bool.and_eq_true_iff.mp h).2 d hd
    · rw [if_neg hc] at h
      obtain ⟨hchar, hrest⟩ := Bool.and_eq_true_iff.mp h
      rcases List.mem_cons.mp hd with rfl | hd
      · exact .inl hchar
      · exact ih hrest d hd

theorem slash_not_mem {id : String} (h : isId id = true) : '/' ∉ id.toList := by
  intro hmem
  rcases chars_of_isIdFrom h '/' hmem with hchar | hdash
  · exact absurd hchar (by decide)
  · exact absurd hdash (by decide)

section Refs

variable {φ : Type}

/-- A hook of a plugin. -/
abbrev PluginHook (φ : Type) := PipelinePlugin φ × PipelineHook

/-- The ref of a hook, as the kernel writes it. -/
def refOf (entry : PluginHook φ) : String := s!"{entry.1.manifest.id}/{entry.2.id}"

theorem toList_refOf (entry : PluginHook φ) :
    (refOf entry).toList = entry.1.manifest.id.toList ++ '/' :: entry.2.id.toList := by
  simp [refOf, toString]

/-- The checks on a plugin that its references rest on. -/
structure ValidPlugin (plugin : PipelinePlugin φ) : Prop where
  isId : isId plugin.manifest.id = true
  isId_hook : ∀ hook ∈ plugin.hooks, Pipeline.isId hook.id = true
  hookIds : (plugin.hooks.map (·.id)).Nodup

variable {kernelApiVersion : Int}

theorem validPlugin_of_eq_ok {plugin : PipelinePlugin φ}
    (h : validatePlugin plugin kernelApiVersion = .ok ()) : ValidPlugin plugin := by
  simp only [validatePlugin, bind_eq_ok, rejectIf_eq_ok] at h
  obtain ⟨_, hid, _, -, _, -, _, -, _, -, _, -, _, -, _, -, _, -, _, -, _, -, _, -, _, -, _, hhooks,
    -⟩ := h
  obtain ⟨hchecks, hnodup, -⟩ := checkDistinct_eq_ok.mp hhooks
  refine ⟨(Bool.not_eq_false _).mp hid, fun hook hhook => ?_, hnodup⟩
  exact (Bool.not_eq_false _).mp (rejectIf_eq_ok.mp (hchecks hook hhook).1)

theorem isRefText_refOf {entry : PluginHook φ} (hvalid : ValidPlugin entry.1)
    (hhook : entry.2 ∈ entry.1.hooks) : isRefText (refOf entry) := by
  intro c hc
  rw [toList_refOf] at hc
  rcases List.mem_append.mp hc with hc | hc
  · exact (chars_of_isIdFrom hvalid.isId c hc).imp_right .inl
  · rcases List.mem_cons.mp hc with rfl | hc
    · exact .inr (.inr rfl)
    · exact (chars_of_isIdFrom (hvalid.isId_hook _ hhook) c hc).imp_right .inl

theorem ids_of_refOf_eq {entry other : PluginHook φ} (hvalid : ValidPlugin entry.1)
    (hother : ValidPlugin other.1) (h : refOf entry = refOf other) :
    entry.1.manifest.id = other.1.manifest.id ∧ entry.2.id = other.2.id := by
  have hlist := congrArg String.toList h
  rw [toList_refOf, toList_refOf] at hlist
  have hentry := slash_not_mem hvalid.isId
  have hsplit : entry.1.manifest.id.toList = other.1.manifest.id.toList ∧
      entry.2.id.toList = other.2.id.toList := by
    have hsecond := slash_not_mem hother.isId
    generalize entry.1.manifest.id.toList = first at hlist hentry
    generalize other.1.manifest.id.toList = second at hlist hsecond
    induction first generalizing second with
    | nil =>
      cases second with
      | nil => exact ⟨rfl, (List.cons.inj hlist).2⟩
      | cons c second => exact absurd ((List.cons.inj hlist).1 ▸ List.mem_cons_self) hsecond
    | cons c first ih =>
      cases second with
      | nil => exact absurd ((List.cons.inj hlist).1 ▸ List.mem_cons_self) hentry
      | cons d second =>
        obtain ⟨rfl, hrest⟩ := List.cons.inj hlist
        obtain ⟨hfirst, hids⟩ := ih (fun hmem => hentry (List.mem_cons_of_mem _ hmem)) second hrest
          (fun hmem => hsecond (List.mem_cons_of_mem _ hmem))
        exact ⟨by rw [hfirst], hids⟩
  exact ⟨String.toList_inj.mp hsplit.1, String.toList_inj.mp hsplit.2⟩

variable {plugins : List (PipelinePlugin φ)}

/-- No two hooks of valid plugins with different ids have one reference. -/
theorem nodup_refs (hvalid : ∀ plugin ∈ plugins, ValidPlugin plugin)
    (hids : (plugins.map (·.manifest.id)).Nodup) :
    ((plugins.flatMap fun plugin => plugin.hooks.map (plugin, ·)).map refOf).Nodup := by
  rw [List.map_flatMap, List.nodup_flatMap]
  constructor
  · intro plugin hplugin
    rw [List.map_map, List.nodup_map_iff_inj_on
      (List.Nodup.of_map _ (hvalid plugin hplugin).hookIds)]
    intro hook hhook other hother heq
    have hsame := (ids_of_refOf_eq (hvalid plugin hplugin) (hvalid plugin hplugin) heq).2
    exact List.inj_on_of_nodup_map (hvalid plugin hplugin).hookIds hhook hother hsame
  · refine List.Pairwise.imp_of_mem ?_ (List.pairwise_map.mp hids)
    intro plugin other hplugin hother hne ref href hrefOther
    dsimp only at href hrefOther
    rw [List.map_map] at href hrefOther
    obtain ⟨hook, -, rfl⟩ := List.mem_map.mp href
    obtain ⟨otherHook, -, heq⟩ := List.mem_map.mp hrefOther
    exact hne (ids_of_refOf_eq (hvalid other hother) (hvalid plugin hplugin) heq).1.symm

/-! ### The registry -/

theorem registerPlugins_eq_ok {ids contextKeyIds : List String} :
    registerPlugins kernelApiVersion ids contextKeyIds plugins = .ok () ↔
      (∀ plugin ∈ plugins, validatePlugin plugin kernelApiVersion = .ok ()) ∧
        ((plugins.map (·.manifest.id)).Nodup ∧ ∀ plugin ∈ plugins, plugin.manifest.id ∉ ids) ∧
        (((plugins.flatMap (·.contextKeys)).map (·.id)).Nodup ∧
          ∀ key ∈ plugins.flatMap (·.contextKeys), key.id ∉ contextKeyIds) := by
  induction plugins generalizing ids contextKeyIds with
  | nil => simp [registerPlugins]
  | cons plugin plugins ih =>
    simp only [registerPlugins, bind_eq_ok, rejectIf_eq_ok]
    rw [List.forall_mem_cons, List.forall_mem_cons, List.map_cons, List.nodup_cons,
      List.flatMap_cons, List.map_append, List.nodup_append]
    constructor
    · rintro ⟨_, hvalid, _, hid, _, hkeys, hrest⟩
      obtain ⟨-, hnodup, hnew⟩ := checkDistinct_eq_ok.mp hkeys
      obtain ⟨hvalids, ⟨hids, hfresh⟩, hkeyIds, hfreshKeys⟩ := ih.mp hrest
      refine ⟨⟨hvalid, hvalids⟩, ⟨⟨fun hmem => ?_, hids⟩, hid, fun other hother hmem => ?_⟩,
        ⟨hnodup, hkeyIds, fun id hfirst other hother heq => ?_⟩, fun key hkey hmem => ?_⟩
      · obtain ⟨other, hother, heq⟩ := List.mem_map.mp hmem
        exact hfresh other hother (heq ▸ List.mem_cons_self)
      · exact hfresh other hother (List.mem_cons_of_mem _ hmem)
      · obtain ⟨key, hkey, rfl⟩ := List.mem_map.mp hother
        exact hfreshKeys key hkey (List.mem_append_left _ (heq ▸ hfirst))
      · rcases List.mem_append.mp hkey with hkey | hkey
        · exact hnew key hkey hmem
        · exact hfreshKeys key hkey (List.mem_append_right _ hmem)
    · rintro ⟨⟨hvalid, hvalids⟩, ⟨⟨hid, hids⟩, hnew, hfresh⟩, ⟨hnodup, hkeyIds, hdisjoint⟩,
        hfreshKeys⟩
      refine ⟨(), hvalid, (), hnew, (), checkDistinct_eq_ok.mpr ⟨?_, hnodup, fun key hkey => ?_⟩,
        ih.mpr ⟨hvalids, ⟨hids, fun other hother hmem => ?_⟩, hkeyIds, fun key hkey hmem => ?_⟩⟩
      · exact fun _ _ => ⟨rfl, rfl⟩
      · exact hfreshKeys key (List.mem_append_left _ hkey)
      · rcases List.mem_cons.mp hmem with heq | hmem
        · exact hid (heq ▸ List.mem_map_of_mem hother)
        · exact hfresh other hother hmem
      · rcases List.mem_append.mp hmem with hmem | hmem
        · exact hdisjoint key.id hmem key.id (List.mem_map_of_mem hkey) rfl
        · exact hfreshKeys key (List.mem_append_right _ hkey) hmem

/-- What is known of the plugins of a registry. -/
structure Registered (plugins : List (PipelinePlugin φ)) : Prop where
  valid : ∀ plugin ∈ plugins, ValidPlugin plugin
  ids : (plugins.map (·.manifest.id)).Nodup
  contextKeyIds : ((plugins.flatMap (·.contextKeys)).map (·.id)).Nodup

theorem registered_of_eq_ok (h : createPipelineRegistry plugins kernelApiVersion = .ok ()) :
    Registered plugins := by
  obtain ⟨hvalid, ⟨hids, -⟩, hkeys, -⟩ := registerPlugins_eq_ok.mp h
  exact ⟨fun plugin hplugin => validPlugin_of_eq_ok (hvalid plugin hplugin), hids, hkeys⟩

theorem createPipelineRegistry_perm {plugins' : List (PipelinePlugin φ)}
    (hperm : plugins.Perm plugins') (h : createPipelineRegistry plugins kernelApiVersion = .ok ()) :
    createPipelineRegistry plugins' kernelApiVersion = .ok () := by
  obtain ⟨hvalid, ⟨hids, -⟩, hkeys, -⟩ := registerPlugins_eq_ok.mp h
  refine registerPlugins_eq_ok.mpr ⟨?_, ⟨?_, fun _ _ => List.not_mem_nil⟩, ?_,
    fun _ _ => List.not_mem_nil⟩
  · intro plugin hplugin
    exact hvalid plugin (hperm.mem_iff.mpr hplugin)
  · exact (hperm.map _).nodup_iff.mp hids
  · exact ((hperm.flatMap_right _).map _).nodup_iff.mp hkeys

end Refs

/-! ### Nodes -/

section Nodes

variable {φ π : Type}

def HookNode.entry (node : HookNode φ) : PluginHook φ := (node.plugin, node.hook)

/-- The plugin takes part: it is switched on, and applies to the facts. -/
def isActive (settings : List PipelinePluginSetting) (facts : φ) (plugin : PipelinePlugin φ) :
    Bool :=
  (plugin.manifest.isAlwaysEnabled || (settings.find? fun setting =>
    decide (setting.pluginId = plugin.manifest.id)).any (·.enabled)) &&
      match isApplicableTo plugin facts with
      | .ok applicable => applicable
      | .error _ => false

/-- The hooks of the active plugins. -/
def activeHooks (input : CompilerInput φ π) : List (PluginHook φ) :=
  (input.plugins.filter (isActive input.settings input.facts)).flatMap fun plugin =>
    plugin.hooks.map (plugin, ·)

theorem entry_nodesOf (entry : ActivePlugin φ) :
    (nodesOf entry).map HookNode.entry = entry.plugin.hooks.map (entry.plugin, ·) := by
  rw [nodesOf, List.map_map]
  rfl

theorem ref_nodesOf {entry : ActivePlugin φ} {node : HookNode φ} (h : node ∈ nodesOf entry) :
    node.ref = refOf node.entry := by
  obtain ⟨hook, -, rfl⟩ := List.mem_map.mp h
  rfl

theorem activate_eq_ok {settings : List PipelinePluginSetting} {facts : φ}
    {plugin : PipelinePlugin φ} {entries : List (ActivePlugin φ)}
    (h : activate settings facts plugin = .ok entries) :
    entries.flatMap (fun entry => (nodesOf entry).map HookNode.entry) =
      if isActive settings facts plugin then plugin.hooks.map (plugin, ·) else [] := by
  simp only [activate, bind_eq_ok, rejectIf_eq_ok] at h
  obtain ⟨_, -, h⟩ := h
  split at h
  · next henabled =>
    obtain ⟨applicable, happlicable, h⟩ := bind_eq_ok.mp h
    have hactive : isActive settings facts plugin = applicable := by
      rw [isActive, henabled, happlicable, Bool.true_and]
    rw [hactive]
    split at h
    · next htrue =>
      simp only [configured, bind_eq_ok, pure_eq_ok, Except.ok.injEq] at h
      obtain ⟨_, -, parsed, -, _, -, rfl⟩ := h
      rw [htrue, if_pos rfl, List.flatMap_singleton, entry_nodesOf]
    · next hfalse =>
      obtain rfl := Except.ok.inj h
      rw [if_neg hfalse]
      rfl
  · next hdisabled =>
    obtain rfl := Except.ok.inj h
    have hactive : isActive settings facts plugin = false := by
      rw [isActive, (Bool.not_eq_true _).mp hdisabled, Bool.false_and]
    rw [hactive]
    rfl

variable {input : CompilerInput φ π} {active : List (ActivePlugin φ)}

/-- The nodes are the hooks of the active plugins. -/
theorem nodes_eq (h : collect (activate input.settings input.facts) input.plugins = .ok active) :
    (active.flatMap nodesOf).map HookNode.entry = activeHooks input := by
  rw [List.map_flatMap, flatMap_of_collect (fun plugin _ _ => activate_eq_ok) h, activeHooks]
  induction input.plugins with
  | nil => rfl
  | cons plugin plugins ih =>
    rw [List.flatMap_cons, ih, List.filter_cons]
    split_ifs <;> rfl

/-- What is known of the nodes of a plan. -/
structure Nodes (nodes : List (HookNode φ)) : Prop where
  ref_eq : ∀ node ∈ nodes, node.ref = refOf node.entry
  refs : (nodes.map (·.ref)).Nodup
  isRefText : ∀ node ∈ nodes, isRefText node.ref

theorem Nodes.nodup_filter {nodes : List (HookNode φ)} (h : Nodes nodes) (p : HookNode φ → Bool) :
    ((nodes.filter p).map (·.ref)).Nodup :=
  (List.filter_sublist.map _).nodup h.refs

theorem nodup_refs_activeHooks (hplugins : Registered input.plugins) :
    ((activeHooks input).map refOf).Nodup :=
  nodup_refs (fun plugin hplugin => hplugins.valid plugin (List.mem_filter.mp hplugin).1)
    ((List.filter_sublist.map _).nodup hplugins.ids)

theorem nodes_of_active (hplugins : Registered input.plugins)
    (h : collect (activate input.settings input.facts) input.plugins = .ok active) :
    Nodes (active.flatMap nodesOf) := by
  have href : ∀ node ∈ active.flatMap nodesOf, node.ref = refOf node.entry := by
    intro node hnode
    obtain ⟨entry, -, hentry⟩ := List.mem_flatMap.mp hnode
    exact ref_nodesOf hentry
  have hrefs : (active.flatMap nodesOf).map (·.ref) = (activeHooks input).map refOf := by
    rw [← nodes_eq h, List.map_map]
    exact List.map_congr_left href
  refine ⟨href, hrefs ▸ nodup_refs_activeHooks hplugins, fun node hnode => ?_⟩
  rw [href node hnode]
  have hentry : node.entry ∈ activeHooks input := nodes_eq h ▸ List.mem_map_of_mem hnode
  obtain ⟨plugin, hplugin, hmem⟩ := List.mem_flatMap.mp hentry
  obtain ⟨hook, hhook, heq⟩ := List.mem_map.mp hmem
  rw [← heq]
  exact isRefText_refOf (hplugins.valid plugin (List.mem_filter.mp hplugin).1) hhook

end Nodes

end Frely.Pipeline
