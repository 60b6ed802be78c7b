import Frely.Gateway.Equiv.PipelineNodes

/-!
# The edges of a plan

`compileEdges` turns what the hooks require, provide and name into edges.  `mem_edges_of_dependsOn`:
between two hooks of one phase every dependency is an edge, and otherwise the hook that goes first
is of an earlier phase.  `alike_compileEdges`: the order of the nodes does not matter, neither for
the edges nor for whether there are any.
-/

namespace Frely.Pipeline

open Checked StableSort

variable {φ π : Type}

theorem mem_pipelinePhases (phase : PipelinePhase) : phase ∈ pipelinePhases := by
  cases phase <;> decide

theorem nodup_pipelinePhases : pipelinePhases.Nodup := by decide

theorem phase_eq_of_index {phase other : PipelinePhase} (h : phase.index = other.index) :
    phase = other :=
  (List.idxOf_inj (mem_pipelinePhases phase)).mp h

/-! ### Producers -/

variable {producers : Producers φ} {contextKeys : String → Option PipelineContextKey}

section Producers

variable {node : HookNode φ} {name : String}

theorem mem_producersOf : node ∈ producersOf producers name ↔ (name, node) ∈ producers := by
  simp [producersOf]

theorem producersOf_eq_nil : producersOf producers name = [] ↔ name ∉ producers.map (·.1) := by
  rw [List.eq_nil_iff_forall_not_mem, List.mem_map, not_exists]
  constructor
  · rintro h ⟨other, node⟩ ⟨hmem, rfl⟩
    exact h node (mem_producersOf.mpr hmem)
  · intro h node hnode
    exact h (name, node) ⟨mem_producersOf.mp hnode, rfl⟩

variable {result : Producers φ}

theorem addProducer_eq_ok {single : Bool} {duplicate : HookNode φ → String} :
    addProducer single duplicate producers name node = .ok result ↔
      (single = true → name ∉ producers.map (·.1)) ∧ result = producers ++ [(name, node)] := by
  rw [← producersOf_eq_nil, addProducer]
  cases producersOf producers name with
  | nil => simp [eq_comm]
  | cons first rest => cases single <;> simp [rejectIf, eq_comm]

/-- A loop that fills a map of producers from the offers of the hooks. -/
structure Offering (β φ : Type) where
  check : β → Except String Unit
  single : β → Bool
  name : β → String
  node : β → HookNode φ
  duplicate : β → HookNode φ → String

namespace Offering

variable {β : Type} (offering : Offering β φ)

/-- One more offer among the producers. -/
def step (producers : Producers φ) (offer : β) : Except String (Producers φ) := do
  offering.check offer
  addProducer (offering.single offer) (offering.duplicate offer) producers (offering.name offer)
    (offering.node offer)

/-- The offers of a name that may have one producer only. -/
def AllowsAll (taken : List String) (offers : List β) : Prop :=
  (∀ offer ∈ offers, offering.check offer = .ok () ∧
      (offering.single offer = true → offering.name offer ∉ taken)) ∧
    offers.Pairwise fun earlier later =>
      offering.single later = true → offering.name earlier ≠ offering.name later

variable {offering}

theorem step_eq_ok {start : Producers φ} {offer : β} :
    offering.step start offer = .ok result ↔ offering.check offer = .ok () ∧
      (offering.single offer = true → offering.name offer ∉ start.map (·.1)) ∧
        result = start ++ [(offering.name offer, offering.node offer)] := by
  rw [step, bind_eq_ok]
  simp only [addProducer_eq_ok]
  constructor
  · rintro ⟨_, hcheck, h⟩
    exact ⟨hcheck, h⟩
  · rintro ⟨hcheck, h⟩
    exact ⟨(), hcheck, h⟩

theorem foldlM_eq_ok {offers : List β} {start : Producers φ} :
    offers.foldlM offering.step start = .ok result ↔
      offering.AllowsAll (start.map (·.1)) offers ∧
        result = start ++ offers.map fun offer => (offering.name offer, offering.node offer) := by
  induction offers generalizing start with
  | nil =>
    rw [List.foldlM_nil, pure_eq_ok, Except.ok.injEq, List.map_nil, List.append_nil]
    constructor
    · rintro rfl
      exact ⟨⟨fun _ h => absurd h List.not_mem_nil, List.Pairwise.nil⟩, rfl⟩
    · rintro ⟨-, rfl⟩
      rfl
  | cons offer offers ih =>
    rw [List.foldlM_cons, bind_eq_ok, AllowsAll, List.forall_mem_cons, List.pairwise_cons,
      List.map_cons]
    constructor
    · rintro ⟨next, hstep, hrest⟩
      obtain ⟨hcheck, hnew, rfl⟩ := step_eq_ok.mp hstep
      obtain ⟨⟨hchecks, hpairs⟩, rfl⟩ := ih.mp hrest
      rw [List.map_append] at hchecks
      refine ⟨⟨⟨⟨hcheck, hnew⟩, fun other hother => ⟨(hchecks other hother).1, ?_⟩⟩, ?_,
        hpairs⟩, ?_⟩
      · intro hsingle hmem
        exact (hchecks other hother).2 hsingle (List.mem_append_left _ hmem)
      · intro other hother hsingle heq
        refine (hchecks other hother).2 hsingle (List.mem_append_right _ ?_)
        exact List.mem_singleton.mpr heq.symm
      · rw [List.append_assoc]
        rfl
    · rintro ⟨⟨⟨⟨hcheck, hnew⟩, hchecks⟩, hfirst, hpairs⟩, rfl⟩
      refine ⟨_, step_eq_ok.mpr ⟨hcheck, hnew, rfl⟩, ih.mpr ⟨⟨fun other hother => ?_, hpairs⟩, ?_⟩⟩
      · refine ⟨(hchecks other hother).1, fun hsingle hmem => ?_⟩
        rw [List.map_append] at hmem
        rcases List.mem_append.mp hmem with hmem | hmem
        · exact (hchecks other hother).2 hsingle hmem
        · exact hfirst other hother hsingle (List.mem_singleton.mp hmem).symm
      · rw [List.append_assoc]
        rfl

/-- The order of the offers does not matter, as long as the offers of a name agree on whether it
may have one producer only. -/
theorem alike_foldlM (hsingle : ∀ offer other, offering.check offer = .ok () →
      offering.check other = .ok () → offering.name offer = offering.name other →
        offering.single offer = offering.single other)
    {offers offers' : List β} (hperm : offers.Perm offers') :
    Alike List.Perm (offers.foldlM offering.step []) (offers'.foldlM offering.step []) := by
  have hone : ∀ {l m : List β}, l.Perm m → offering.AllowsAll [] l → offering.AllowsAll [] m := by
    rintro l m hperm ⟨hchecks, hpairs⟩
    -- where two offers have one name, both or none may be single
    have hsymm : l.Pairwise fun offer other =>
        offering.single offer = true ∨ offering.single other = true →
          offering.name offer ≠ offering.name other := by
      refine hpairs.imp_of_mem fun {offer other} hoffer hother hne hor heq => ?_
      have hsame := hsingle offer other (hchecks offer hoffer).1 (hchecks other hother).1 heq
      exact hne (hor.elim (fun h => hsame ▸ h) id) heq
    have hsymm' := hperm.pairwise hsymm fun {offer other} hne hor => (hne hor.symm).symm
    exact ⟨fun offer hoffer => hchecks offer (hperm.mem_iff.mpr hoffer),
      hsymm'.imp fun hne h => hne (.inr h)⟩
  refine alike_of_eq_ok (fun r => foldlM_eq_ok) (fun r => foldlM_eq_ok)
    ⟨hone hperm, hone hperm.symm⟩ ?_
  exact (hperm.map _).append_left _

end Offering

/-- Capabilities are offered by name, some by one hook only. -/
def capabilityOffering (singletonCapabilities : List String) :
    Offering (String × HookNode φ) φ where
  check _ := .ok ()
  single offer := decide (offer.1 ∈ singletonCapabilities)
  name offer := offer.1
  node offer := offer.2
  duplicate offer first :=
    s!"Duplicate singleton capability provider {offer.1}: {first.ref}, {offer.2.ref}"

/-- Context keys are offered by their owner. -/
def contextOffering (contextKeys : String → Option PipelineContextKey) :
    Offering (PipelineContextKey × HookNode φ) φ where
  check offer := rejectIf (contextKeys offer.1.id ≠ some offer.1 ∨
      offer.1.ownerPluginId ≠ offer.2.plugin.manifest.id)
    s!"Unregistered provided context key: {offer.1.id}"
  single offer := decide (offer.1.mode = .artifact)
  name offer := offer.1.id
  node offer := offer.2
  duplicate offer _ := s!"Duplicate context key producer: {offer.1.id}"

theorem addCapability_eq (singletonCapabilities : List String) :
    (addCapability singletonCapabilities : Producers φ → _ → _) =
      (capabilityOffering singletonCapabilities).step := rfl

theorem addContext_eq (contextKeys : String → Option PipelineContextKey) :
    (addContext contextKeys : Producers φ → _ → _) = (contextOffering contextKeys).step := rfl

variable {nodes nodes' : List (HookNode φ)}

theorem mem_capabilityProviders {singletonCapabilities : List String} {providers : Producers φ}
    (h : capabilityProviders singletonCapabilities nodes = .ok providers) {token : String} :
    (token, node) ∈ providers ↔ node ∈ nodes ∧ token ∈ node.hook.provides := by
  rw [capabilityProviders, addCapability_eq] at h
  obtain ⟨-, rfl⟩ := Offering.foldlM_eq_ok.mp h
  simp only [capabilityOffering, List.nil_append, List.mem_map, List.mem_flatMap, Prod.mk.injEq]
  constructor
  · rintro ⟨_, ⟨other, hother, name, hname, rfl⟩, rfl, rfl⟩
    exact ⟨hother, hname⟩
  · rintro ⟨hnode, htoken⟩
    exact ⟨_, ⟨node, hnode, token, htoken, rfl⟩, rfl, rfl⟩

theorem mem_contextProducers {contextKeys : String → Option PipelineContextKey}
    {producers : Producers φ} (h : contextProducers contextKeys nodes = .ok producers) {id : String}
    {node : HookNode φ} :
    (id, node) ∈ producers ↔ node ∈ nodes ∧ id ∈ node.hook.providesContext.map (·.id) := by
  rw [contextProducers, addContext_eq] at h
  obtain ⟨-, rfl⟩ := Offering.foldlM_eq_ok.mp h
  simp only [contextOffering, List.nil_append, List.mem_map, List.mem_flatMap, Prod.mk.injEq]
  constructor
  · rintro ⟨_, ⟨other, hother, key, hkey, rfl⟩, hid, rfl⟩
    exact ⟨hother, key, hkey, hid⟩
  · rintro ⟨hnode, key, hkey, hid⟩
    exact ⟨_, ⟨node, hnode, key, hkey, rfl⟩, hid, rfl⟩

theorem alike_capabilityProviders (hperm : nodes.Perm nodes')
    (singletonCapabilities : List String) :
    Alike List.Perm (capabilityProviders singletonCapabilities nodes)
      (capabilityProviders singletonCapabilities nodes') := by
  rw [capabilityProviders, capabilityProviders, addCapability_eq]
  refine Offering.alike_foldlM (fun offer other _ _ heq => ?_) (hperm.flatMap_right _)
  exact congrArg (fun name => decide (name ∈ singletonCapabilities)) heq

theorem alike_contextProducers (hperm : nodes.Perm nodes')
    (contextKeys : String → Option PipelineContextKey) :
    Alike List.Perm (contextProducers contextKeys nodes) (contextProducers contextKeys nodes') := by
  rw [contextProducers, contextProducers, addContext_eq]
  refine Offering.alike_foldlM (fun offer other hoffer hother heq => ?_) (hperm.flatMap_right _)
  have hregistered := not_not.mp (not_or.mp (rejectIf_eq_ok.mp hoffer)).1
  have hother := not_not.mp (not_or.mp (rejectIf_eq_ok.mp hother)).1
  have heq : offer.1.id = other.1.id := heq
  rw [heq, hother] at hregistered
  exact congrArg (fun key : PipelineContextKey => decide (key.mode = .artifact))
    (Option.some.inj hregistered).symm

end Producers

/-! ### Dependencies -/

variable {input : CompilerInput φ π}

section Dependencies

/-- The hook that `before` or `after` of `hook` may refer to: by its reference, or as a hook of the
same phase by the id of its plugin. -/
def Names (hook : PluginHook φ) (reference : String) (target : PluginHook φ) : Prop :=
  if '/' ∈ reference.toList then refOf target = reference
  else target.1.manifest.id = reference ∧ target.2.phase = hook.2.phase

/-- `consumer` may only run after `producer`.  A hook does not depend on itself through what it
provides, nor on a later phase through the context. -/
inductive DependsOn (hooks : List (PluginHook φ)) (consumer producer : PluginHook φ) : Prop where
  | capability (hconsumer : consumer ∈ hooks) (hproducer : producer ∈ hooks)
      (hne : refOf producer ≠ refOf consumer) {token : String}
      (hrequires : token ∈ consumer.2.requires) (hprovides : token ∈ producer.2.provides)
  | context (hconsumer : consumer ∈ hooks) (hproducer : producer ∈ hooks)
      (hne : refOf producer ≠ refOf consumer) {key : PipelineContextKey}
      (hrequires : key ∈ consumer.2.requiresContext)
      (hprovides : key.id ∈ producer.2.providesContext.map (·.id))
      (hphase : producer.2.phase.index ≤ consumer.2.phase.index)
  | before (hconsumer : consumer ∈ hooks) (hproducer : producer ∈ hooks) {reference : String}
      (hbefore : reference ∈ producer.2.before) (hnames : Names producer reference consumer)
  | after (hconsumer : consumer ∈ hooks) (hproducer : producer ∈ hooks) {reference : String}
      (hafter : reference ∈ consumer.2.after) (hnames : Names consumer reference producer)

variable {nodes : List (HookNode φ)} {node other : HookNode φ} {edges : Edges}

theorem edge_of_capabilityEdges {externallyAvailable : List String} {providers : Producers φ}
    {token : String} (h : capabilityEdges externallyAvailable providers node token = .ok edges)
    (hprovides : (token, other) ∈ providers) :
    other.hook.phase.index ≤ node.hook.phase.index ∧
      (other.hook.phase = node.hook.phase → other.ref ≠ node.ref →
        (other.ref, node.ref) ∈ edges) := by
  have hmem := mem_producersOf.mpr hprovides
  have hsome : (producersOf providers token).isEmpty = false := by
    cases hproducers : producersOf providers token with
    | nil =>
      rw [hproducers] at hmem
      cases hmem
    | cons _ _ => rfl
  rw [capabilityEdges, hsome, if_neg Bool.false_ne_true] at h
  obtain ⟨found, hfound⟩ := exists_of_collect h other hmem
  have hedge := hfound
  simp only [capabilityEdge, bind_eq_ok, rejectIf_eq_ok, pure_eq_ok, Except.ok.injEq] at hedge
  obtain ⟨_, hle, hresult⟩ := hedge
  refine ⟨Nat.not_lt.mp hle, fun hphase hne =>
    (mem_of_collect h _).mpr ⟨other, hmem, found, hfound, ?_⟩⟩
  rw [← hresult, if_pos ⟨congrArg _ hphase, hne⟩]
  exact List.mem_singleton_self _

theorem target_eq (href : ∀ node ∈ nodes, node.ref = refOf node.entry) {reference target : String}
    (h : orderTarget nodes node reference = .ok target) (hother : other ∈ nodes)
    (hnames : Names node.entry reference other.entry) :
    target = other.ref ∧ other.hook.phase = node.hook.phase := by
  simp only [orderTarget, bind_eq_ok, pure_eq_ok, Except.ok.injEq] at h
  obtain ⟨resolved, hresolved, _, hphases, rfl⟩ := h
  have hresolve : resolved = other.ref := by
    unfold resolveReference at hresolved
    unfold Names at hnames
    split at hresolved
    · next hslash =>
      rw [if_pos hslash] at hnames
      obtain ⟨_, -, hresult⟩ := bind_eq_ok.mp hresolved
      rw [href other hother, hnames]
      exact (Except.ok.inj hresult).symm
    · next hslash =>
      rw [if_neg hslash] at hnames
      have hcandidate : other ∈ nodes.filter fun candidate =>
          decide (candidate.plugin.manifest.id = reference) &&
            decide (candidate.hook.phase = node.hook.phase) := by
        refine List.mem_filter.mpr ⟨hother, ?_⟩
        exact Bool.and_eq_true_iff.mpr ⟨decide_eq_true hnames.1, decide_eq_true hnames.2⟩
      split at hresolved
      · next candidate hone =>
        rw [hone] at hcandidate
        rw [List.mem_singleton.mp hcandidate]
        exact (Except.ok.inj hresolved).symm
      · cases hresolved
  refine ⟨hresolve, ?_⟩
  have hphase := forAll_eq_ok.mp hphases other
    (List.mem_filter.mpr ⟨hother, decide_eq_true hresolve.symm⟩)
  exact not_not.mp (rejectIf_eq_ok.mp hphase)

theorem edge_of_contextEdge {key : PipelineContextKey}
    (h : contextEdge contextKeys producers node key = .ok edges)
    (hprovides : (key.id, other) ∈ producers) (hne : other.ref ≠ node.ref)
    (hphase : other.hook.phase = node.hook.phase) : (other.ref, node.ref) ∈ edges := by
  simp only [contextEdge, bind_eq_ok, pure_eq_ok, Except.ok.injEq] at h
  obtain ⟨_, -, _, -, _, -, rfl⟩ := h
  refine List.mem_map.mpr ⟨other, List.mem_filter.mpr ⟨List.mem_filter.mpr
    ⟨mem_producersOf.mpr hprovides, ?_⟩, decide_eq_true hphase⟩, rfl⟩
  simp [isAvailableTo, hne, hphase]

/-- The nodes of two hooks, of which the first goes first: they are of one phase, where an edge
leads from one to the other, or the first is of an earlier phase. -/
def Leads (edges : Edges) (producer consumer : HookNode φ) : Prop :=
  producer.hook.phase = consumer.hook.phase ∧ (producer.ref, consumer.ref) ∈ edges ∨
    producer.hook.phase.index < consumer.hook.phase.index

section OrderEdges

variable {externallyAvailable : List String} {providers : Producers φ} {reference : String}
  (h : orderEdges externallyAvailable providers nodes node = .ok edges)

include h

theorem leads_of_capability (hother : (reference, other) ∈ providers)
    (hrequires : reference ∈ node.hook.requires) (hne : other.ref ≠ node.ref) :
    Leads edges other node := by
  simp only [orderEdges, bind_eq_ok, pure_eq_ok, Except.ok.injEq] at h
  obtain ⟨required, hrequired, before, -, after, -, rfl⟩ := h
  obtain ⟨found, hfound⟩ := exists_of_collect hrequired reference hrequires
  obtain ⟨hle, hedge⟩ := edge_of_capabilityEdges hfound hother
  rcases Nat.eq_or_lt_of_le hle with heq | hlt
  · have hphase := phase_eq_of_index heq
    refine .inl ⟨hphase, List.mem_append_left _ (List.mem_append_left _ ?_)⟩
    exact (mem_of_collect hrequired _).mpr ⟨_, hrequires, found, hfound, hedge hphase hne⟩
  · exact .inr hlt

variable (href : ∀ node ∈ nodes, node.ref = refOf node.entry) (hother : other ∈ nodes)
  (hnames : Names node.entry reference other.entry)

include href hother hnames

theorem leads_of_before (hbefore : reference ∈ node.hook.before) : Leads edges node other := by
  simp only [orderEdges, bind_eq_ok, pure_eq_ok, Except.ok.injEq] at h
  obtain ⟨required, -, before, hcollect, after, -, rfl⟩ := h
  obtain ⟨found, hfound⟩ := exists_of_collect hcollect reference hbefore
  obtain ⟨target, htarget, hresult⟩ := bind_eq_ok.mp hfound
  obtain ⟨rfl, hphase⟩ := target_eq href htarget hother hnames
  refine .inl ⟨hphase.symm, List.mem_append_left _ (List.mem_append_right _ ?_)⟩
  refine (mem_of_collect hcollect _).mpr ⟨reference, hbefore, found, hfound, ?_⟩
  exact Except.ok.inj hresult ▸ List.mem_singleton_self _

theorem leads_of_after (hafter : reference ∈ node.hook.after) : Leads edges other node := by
  simp only [orderEdges, bind_eq_ok, pure_eq_ok, Except.ok.injEq] at h
  obtain ⟨required, -, before, -, after, hcollect, rfl⟩ := h
  obtain ⟨found, hfound⟩ := exists_of_collect hcollect reference hafter
  obtain ⟨target, htarget, hresult⟩ := bind_eq_ok.mp hfound
  obtain ⟨rfl, hphase⟩ := target_eq href htarget hother hnames
  refine .inl ⟨hphase, List.mem_append_right _ ?_⟩
  refine (mem_of_collect hcollect _).mpr ⟨reference, hafter, found, hfound, ?_⟩
  exact Except.ok.inj hresult ▸ List.mem_singleton_self _

end OrderEdges

theorem Leads.mono {more : Edges} {producer consumer : HookNode φ}
    (h : Leads edges producer consumer) (hsub : ∀ edge ∈ edges, edge ∈ more) :
    Leads more producer consumer :=
  h.imp_left fun hedge => ⟨hedge.1, hsub _ hedge.2⟩

/-- Every dependency is an edge, or leads to an earlier phase. -/
theorem leads_of_dependsOn (hnodes : Nodes nodes) (h : compileEdges input nodes = .ok edges)
    {consumer producer : HookNode φ} (hconsumer : consumer ∈ nodes) (hproducer : producer ∈ nodes)
    (hdepends : DependsOn (nodes.map HookNode.entry) consumer.entry producer.entry) :
    Leads edges producer consumer := by
  simp only [compileEdges, bind_eq_ok, pure_eq_ok, Except.ok.injEq] at h
  obtain ⟨providers, hproviders, ordered, hordered, producers, hproducers, context, hcontext,
    rfl⟩ := h
  have hofOrdered : ∀ {node found}, node ∈ nodes →
      orderEdges input.availableCapabilities providers nodes node = .ok found →
      ∀ edge ∈ found, edge ∈ ordered ++ context := fun hnode hfound edge hedge =>
    List.mem_append_left _ ((mem_of_collect hordered edge).mpr ⟨_, hnode, _, hfound, hedge⟩)
  have hrefs : ∀ {node}, node ∈ nodes → refOf node.entry = node.ref :=
    fun hnode => (hnodes.ref_eq _ hnode).symm
  cases hdepends with
  | capability _ _ hne hrequires hprovides =>
    rw [hrefs hproducer, hrefs hconsumer] at hne
    obtain ⟨found, hfound⟩ := exists_of_collect hordered consumer hconsumer
    have hoffer := (mem_capabilityProviders hproviders).mpr ⟨hproducer, hprovides⟩
    exact (leads_of_capability hfound hoffer hrequires hne).mono (hofOrdered hconsumer hfound)
  | context _ _ hne hrequires hprovides hphase =>
    rw [hrefs hproducer, hrefs hconsumer] at hne
    rcases Nat.eq_or_lt_of_le hphase with heq | hlt
    · have hsame := phase_eq_of_index heq
      obtain ⟨found, hfound⟩ := exists_of_collect hcontext consumer hconsumer
      obtain ⟨keyEdges, hkey⟩ := exists_of_collect hfound _ hrequires
      have hoffer := (mem_contextProducers hproducers).mpr ⟨hproducer, hprovides⟩
      have hedge := edge_of_contextEdge hkey hoffer hne hsame
      refine .inl ⟨hsame, List.mem_append_right _ ((mem_of_collect hcontext _).mpr
        ⟨consumer, hconsumer, found, hfound, ?_⟩)⟩
      exact (mem_of_collect hfound _).mpr ⟨_, hrequires, keyEdges, hkey, hedge⟩
    · exact .inr hlt
  | before _ _ hbefore hnames =>
    obtain ⟨found, hfound⟩ := exists_of_collect hordered producer hproducer
    exact (leads_of_before hfound hnodes.ref_eq hconsumer hnames hbefore).mono
      (hofOrdered hproducer hfound)
  | after _ _ hafter hnames =>
    obtain ⟨found, hfound⟩ := exists_of_collect hordered consumer hconsumer
    exact (leads_of_after hfound hnodes.ref_eq hproducer hnames hafter).mono
      (hofOrdered hconsumer hfound)

end Dependencies

/-! ### The order of the nodes -/

section Order

variable {nodes nodes' : List (HookNode φ)} {providers providers' : Producers φ}

theorem producersOf_perm (hperm : providers.Perm providers') (name : String) :
    (producersOf providers name).Perm (producersOf providers' name) :=
  (hperm.filter _).map _

theorem sameMembers_of_perm {α : Type} {l m : List α} (h : l.Perm m) : SameMembers l m :=
  fun _ => h.mem_iff

theorem alike_capabilityEdges (hperm : providers.Perm providers')
    (externallyAvailable : List String)
    (node : HookNode φ) (token : String) :
    Alike SameMembers (capabilityEdges externallyAvailable providers node token)
      (capabilityEdges externallyAvailable providers' node token) := by
  have hproducers := producersOf_perm hperm token
  have hempty : (producersOf providers token).isEmpty = (producersOf providers' token).isEmpty := by
    rw [Bool.eq_iff_iff, List.isEmpty_iff, List.isEmpty_iff]
    constructor
    · intro h
      rw [h] at hproducers
      exact hproducers.symm.eq_nil
    · intro h
      rw [h] at hproducers
      exact hproducers.eq_nil
  rw [capabilityEdges, capabilityEdges, hempty]
  split_ifs
  · exact (alike_refl _).mono fun es es' heq => heq ▸ fun _ => Iff.rfl
  · exact (alike_collect_perm hproducers).mono fun _ _ => sameMembers_of_perm

theorem alike_resolveReference (hperm : nodes.Perm nodes') (reference : String)
    (node : HookNode φ) :
    Alike Eq (resolveReference reference node nodes) (resolveReference reference node nodes') := by
  unfold resolveReference
  split_ifs
  · refine (alike_rejectIf ?_).bind fun _ _ _ => rfl
    rw [(hperm.map _).mem_iff]
  · have hfilter := hperm.filter fun candidate =>
      decide (candidate.plugin.manifest.id = reference) &&
        decide (candidate.hook.phase = node.hook.phase)
    generalize nodes.filter _ = found at hfilter ⊢
    generalize nodes'.filter _ = found' at hfilter ⊢
    cases found with
    | nil =>
      rw [hfilter.symm.eq_nil]
      trivial
    | cons first rest =>
      cases rest with
      | nil =>
        rw [List.perm_singleton.mp hfilter.symm]
        rfl
      | cons second rest =>
        cases found' with
        | nil => trivial
        | cons other others =>
          cases others with
          | nil => exact absurd hfilter.length_eq (by simp)
          | cons another others => trivial

theorem alike_orderTarget (hperm : nodes.Perm nodes') (node : HookNode φ) (reference : String) :
    Alike Eq (orderTarget nodes node reference) (orderTarget nodes' node reference) := by
  refine (alike_resolveReference hperm reference node).bind fun target _ heq => ?_
  subst heq
  refine (alike_forAll (fun a => (hperm.filter _).mem_iff) fun _ _ => alike_refl _).bind ?_
  exact fun _ _ _ => rfl

theorem alike_orderEdges (hperm : nodes.Perm nodes') (hproviders : providers.Perm providers')
    (externallyAvailable : List String) (node : HookNode φ) :
    Alike SameMembers (orderEdges externallyAvailable providers nodes node)
      (orderEdges externallyAvailable providers' nodes' node) := by
  have hstep : ∀ (edge : String → String × String) (reference : String),
      Alike SameMembers
        (orderTarget nodes node reference >>= fun target =>
          (.ok [edge target] : Except String Edges))
        (orderTarget nodes' node reference >>= fun target => .ok [edge target]) := by
    intro edge reference
    exact (alike_orderTarget hperm node reference).bind fun target _ heq => heq ▸ fun _ => Iff.rfl
  refine (alike_collect (fun _ => Iff.rfl) fun token _ =>
    alike_capabilityEdges hproviders externallyAvailable node token).bind fun _ _ hrequired => ?_
  refine (alike_collect (fun _ => Iff.rfl) fun reference _ => hstep (node.ref, ·) reference).bind
    fun _ _ hbefore => ?_
  refine (alike_collect (fun _ => Iff.rfl) fun reference _ => hstep (·, node.ref) reference).bind
    fun _ _ hafter => ?_
  intro edge
  rw [List.mem_append, List.mem_append, List.mem_append, List.mem_append, hrequired edge,
    hbefore edge, hafter edge]

theorem alike_contextEdges (hproducers : providers.Perm providers')
    (contextKeys : String → Option PipelineContextKey) (node : HookNode φ) :
    Alike SameMembers (contextEdges contextKeys providers node)
      (contextEdges contextKeys providers' node) := by
  refine alike_collect (fun _ => Iff.rfl) fun key _ => ?_
  refine (alike_refl _).bind fun _ _ _ => (alike_refl _).bind fun _ _ _ => ?_
  have havailable := (producersOf_perm hproducers key.id).filter (isAvailableTo node)
  refine (alike_rejectIf ?_).bind fun _ _ _ => sameMembers_of_perm ((havailable.filter _).map _)
  rw [List.isEmpty_iff, List.isEmpty_iff]
  constructor
  · intro h
    rw [h] at havailable
    exact havailable.symm.eq_nil
  · intro h
    rw [h] at havailable
    exact havailable.eq_nil

/-- The order of the nodes matters neither for the edges nor for whether there are any. -/
theorem alike_compileEdges {input' : CompilerInput φ π} (hperm : nodes.Perm nodes')
    (havailable : input'.availableCapabilities = input.availableCapabilities)
    (hsingleton : input'.singletonCapabilities = input.singletonCapabilities)
    (hkeys : contextKeyOf input'.plugins = contextKeyOf input.plugins) :
    Alike SameMembers (compileEdges input nodes) (compileEdges input' nodes') := by
  unfold compileEdges
  rw [havailable, hsingleton, hkeys]
  refine (alike_capabilityProviders hperm _).bind fun providers providers' hproviders => ?_
  refine (alike_collect (fun _ => hperm.mem_iff) fun node _ =>
    alike_orderEdges hperm hproviders _ node).bind fun _ _ hordered => ?_
  refine (alike_contextProducers hperm _).bind fun producers producers' hproducers => ?_
  refine (alike_collect (fun _ => hperm.mem_iff) fun node _ =>
    alike_contextEdges hproducers _ node).bind fun _ _ hcontext => ?_
  intro edge
  rw [List.mem_append, List.mem_append, hordered edge, hcontext edge]

end Order

end Frely.Pipeline
