import Frely.Lib.StableSort
import Mathlib.Data.List.Nodup

/-!
# Topological sorting with an ordered ready list

Nodes have a key each, and edges lead from a node to keys.  `sorted` takes the least node that no
edge leads to any more, again and again, until none is left: `cmp` orders the nodes that are ready,
and `order` the targets of a node.

`Sorting` is what every round preserves.  From it, `mem_of_edge`: in the result every node comes
after all nodes with an edge to it.  `sorting_final`: no node is ready when the bound on the rounds
is reached.  `sorted_congr`: the result does not depend on the order of the nodes.
-/

namespace TopologicalSort

open StableSort

variable {α κ : Type}

structure State (α κ : Type) where
  /-- How many of the edges to a key are still in force. -/
  indegree : κ → Int
  ready : List α
  result : List α

section Algorithm

variable [DecidableEq κ] (key : α → κ) (edges : α → List κ) (cmp : α → α → Ordering)
  (order : List κ → List κ) (nodes : List α)

def initial : State α κ where
  indegree k := nodes.countP fun a => decide (k ∈ edges a)
  ready := sortBy cmp
    (nodes.filter fun a => decide ((nodes.countP fun b => decide (key a ∈ edges b)) = 0))
  result := []

/-- One edge less leads to the target. -/
def release (s : State α κ) (target : κ) : State α κ :=
  match nodes.find? fun a => decide (key a = target) with
  | none => s
  | some node =>
    if s.indegree target - 1 = 0 then
      { s with
        indegree := Function.update s.indegree target (s.indegree target - 1)
        ready := sortBy cmp (s.ready ++ [node]) }
    else { s with indegree := Function.update s.indegree target (s.indegree target - 1) }

def visit (s : State α κ) (node : α) : State α κ :=
  (order (edges node)).foldl (release key cmp nodes) { s with result := s.result ++ [node] }

/-- So many rounds at most. -/
def run : Nat → State α κ → State α κ
  | 0, s => s
  | rounds + 1, s => match s.ready with
    | [] => s
    | node :: ready => run rounds (visit key edges cmp order nodes { s with ready := ready } node)

/-- Every round takes one of the nodes, so that their number bounds the rounds. -/
def final : State α κ := run key edges cmp order nodes nodes.length (initial key edges cmp nodes)

/-- The nodes that were ready at some time, in that order. -/
def sorted : List α := (final key edges cmp order nodes).result

end Algorithm

/-! ### What a round preserves -/

section Invariant

variable [DecidableEq κ] {key : α → κ} {edges : α → List κ} {cmp : α → α → Ordering}
  {order : List κ → List κ} {nodes : List α}

/-- The edges to a key from nodes that are not in the result. -/
def remaining (key : α → κ) (edges : α → List κ) (nodes result : List α) (k : κ) : Nat :=
  nodes.countP fun a => decide (key a ∉ result.map key ∧ k ∈ edges a)

/-- A state of the sort in which the edges of the last node to the targets `pending` are still to be
released. -/
structure Sorting (key : α → κ) (edges : α → List κ) (nodes : List α) (pending : List κ)
    (s : State α κ) : Prop where
  nodup : ((s.result ++ s.ready).map key).Nodup
  subset : ∀ a ∈ s.result ++ s.ready, a ∈ nodes
  indegree_eq : ∀ b ∈ nodes, s.indegree (key b) =
    remaining key edges nodes s.result (key b) + if key b ∈ pending then 1 else 0
  mem_iff : ∀ b ∈ nodes, b ∈ s.result ++ s.ready ↔ s.indegree (key b) = 0
  earlier : ∀ l b r, s.result = l ++ b :: r → ∀ a ∈ nodes, key b ∈ edges a → a ∈ l

omit [DecidableEq κ] in
theorem eq_of_key (hkeys : (nodes.map key).Nodup) {a b : α} (ha : a ∈ nodes) (hb : b ∈ nodes)
    (h : key a = key b) : a = b :=
  List.inj_on_of_nodup_map hkeys ha hb h

/-- A node that has just come into the result has no edge in force any more. -/
theorem remaining_concat (hkeys : (nodes.map key).Nodup) {result : List α} {node : α}
    (hnode : node ∈ nodes) (hnew : key node ∉ result.map key) (k : κ) :
    remaining key edges nodes result k =
      remaining key edges nodes (result ++ [node]) k + if k ∈ edges node then 1 else 0 := by
  unfold remaining
  -- among the nodes, only `node` itself is counted differently
  have hsplit : ∀ {l : List α}, (∀ a ∈ l, a ∈ nodes) → (l.map key).Nodup →
      l.countP (fun a => decide (key a ∉ result.map key ∧ k ∈ edges a)) =
        l.countP (fun a => decide (key a ∉ (result ++ [node]).map key ∧ k ∈ edges a)) +
          if key node ∈ l.map key ∧ k ∈ edges node then 1 else 0 := by
    intro l hl hnodup
    induction l with
    | nil => simp
    | cons a l ih =>
      rw [List.map_cons, List.nodup_cons] at hnodup
      have hrest := ih (fun b hb => hl b (List.mem_cons_of_mem _ hb)) hnodup.2
      rw [List.countP_cons, List.countP_cons, hrest]
      by_cases ha : key a = key node
      · obtain rfl := eq_of_key hkeys (hl a List.mem_cons_self) hnode ha
        by_cases hk : k ∈ edges a
        · simp [hnew, hk, hnodup.1]
        · simp [hk]
      · have hne : ¬key node = key a := fun h => ha h.symm
        have hother : (key a ∉ (result ++ [node]).map key) ↔ key a ∉ result.map key := by
          simp [ha]
        simp only [hother, List.map_cons, List.mem_cons, hne, false_or]
        omega
  have hmem : key node ∈ nodes.map key := List.mem_map_of_mem hnode
  rw [hsplit (fun a ha => ha) hkeys]
  simp [hmem]

theorem sorting_initial (hkeys : (nodes.map key).Nodup) :
    Sorting key edges nodes [] (initial key edges cmp nodes) := by
  have hmem : ∀ a, a ∈ (initial key edges cmp nodes).ready ↔
      a ∈ nodes ∧ nodes.countP (fun b => decide (key a ∈ edges b)) = 0 := by
    intro a
    simp only [initial, mem_sortBy, List.mem_filter, decide_eq_true_eq]
  constructor
  · have hperm : (initial key edges cmp nodes).ready.Perm
        (nodes.filter fun a => decide ((nodes.countP fun b => decide (key a ∈ edges b)) = 0)) :=
      perm_sortBy _
    show ((initial key edges cmp nodes).ready.map key).Nodup
    rw [(hperm.map key).nodup_iff]
    exact (List.filter_sublist.map key).nodup hkeys
  · intro a ha
    exact ((hmem a).mp ha).1
  · intro b _
    simp [initial, remaining]
  · intro b hb
    show b ∈ (initial key edges cmp nodes).ready ↔ _
    rw [hmem, and_iff_right hb]
    simp only [initial]
    omega
  · intro l b r h
    cases l <;> cases h

variable {s : State α κ}

theorem Sorting.release {pending : List κ} {target : κ}
    (h : Sorting key edges nodes (target :: pending) s) (hkeys : (nodes.map key).Nodup)
    (hnew : target ∉ pending) :
    Sorting key edges nodes pending (release key cmp nodes s target) := by
  unfold TopologicalSort.release
  cases hfind : nodes.find? fun a => decide (key a = target) with
  | none =>
    refine ⟨h.nodup, h.subset, fun b hb => ?_, h.mem_iff, h.earlier⟩
    have hne : ¬key b = target := by
      have := List.find?_eq_none.mp hfind b hb
      simpa using this
    rw [h.indegree_eq b hb]
    simp [hne]
  | some node =>
    have hnode : node ∈ nodes := List.mem_of_find?_eq_some hfind
    obtain rfl : key node = target := by
      have := List.find?_some hfind
      simpa using this
    have hdegree := h.indegree_eq node hnode
    rw [if_pos List.mem_cons_self] at hdegree
    -- the node had an edge in force, so that it was not ready before
    have habsent : key node ∉ (s.result ++ s.ready).map key := by
      intro hmem
      obtain ⟨other, hother, hkey⟩ := List.mem_map.mp hmem
      obtain rfl := eq_of_key hkeys (h.subset other hother) hnode hkey
      have := (h.mem_iff other hnode).mp hother
      omega
    have hindegree : ∀ b ∈ nodes,
        Function.update s.indegree (key node) (s.indegree (key node) - 1) (key b) =
          remaining key edges nodes s.result (key b) + if key b ∈ pending then 1 else 0 := by
      intro b hb
      by_cases hkey : key b = key node
      · rw [hkey, Function.update_self, if_neg hnew, hdegree]
        omega
      · rw [Function.update_of_ne hkey, h.indegree_eq b hb]
        simp [hkey]
    dsimp only
    split_ifs with hzero
    · have hperm : (s.result ++ sortBy cmp (s.ready ++ [node])).Perm
          (node :: (s.result ++ s.ready)) :=
        ((perm_sortBy _).append_left _).trans
          ((List.append_assoc _ _ _).symm ▸ List.perm_append_singleton node _)
      refine ⟨?_, ?_, hindegree, ?_, h.earlier⟩
      · rw [(hperm.map key).nodup_iff, List.map_cons, List.nodup_cons]
        exact ⟨habsent, h.nodup⟩
      · intro a ha
        rcases List.mem_cons.mp (hperm.mem_iff.mp ha) with rfl | ha
        · exact hnode
        · exact h.subset a ha
      · intro b hb
        dsimp only
        rw [hperm.mem_iff, List.mem_cons]
        by_cases hkey : key b = key node
        · obtain rfl := eq_of_key hkeys hb hnode hkey
          rw [Function.update_self]
          simp [hzero]
        · have hne : b ≠ node := fun heq => hkey (heq ▸ rfl)
          rw [Function.update_of_ne hkey, or_iff_right hne]
          exact h.mem_iff b hb
    · refine ⟨h.nodup, h.subset, hindegree, ?_, h.earlier⟩
      intro b hb
      by_cases hkey : key b = key node
      · obtain rfl := eq_of_key hkeys hb hnode hkey
        dsimp only
        rw [Function.update_self]
        refine iff_of_false (fun hmem => habsent (List.mem_map_of_mem hmem)) hzero
      · dsimp only
        rw [Function.update_of_ne hkey]
        exact h.mem_iff b hb

theorem Sorting.releaseAll {pending : List κ} (h : Sorting key edges nodes pending s)
    (hkeys : (nodes.map key).Nodup) (hnodup : pending.Nodup) :
    Sorting key edges nodes [] (pending.foldl (TopologicalSort.release key cmp nodes) s) := by
  induction pending generalizing s with
  | nil => exact h
  | cons target pending ih =>
    obtain ⟨hnew, hrest⟩ := List.nodup_cons.mp hnodup
    exact ih (h.release hkeys hnew) hrest

theorem result_release (s : State α κ) (target : κ) :
    (release key cmp nodes s target).result = s.result := by
  unfold release
  split
  · rfl
  · split_ifs <;> rfl

theorem result_releaseAll (pending : List κ) (s : State α κ) :
    (pending.foldl (release key cmp nodes) s).result = s.result := by
  induction pending generalizing s with
  | nil => rfl
  | cons target pending ih => rw [List.foldl_cons, ih, result_release]

theorem Sorting.visit {node : α} {ready : List α} (h : Sorting key edges nodes [] s)
    (hready : s.ready = node :: ready) (hkeys : (nodes.map key).Nodup) (hedges : (edges node).Nodup)
    (horder : (order (edges node)).Perm (edges node)) :
    Sorting key edges nodes [] (visit key edges cmp order nodes { s with ready := ready }
      node) := by
  have hmem : node ∈ s.result ++ s.ready := by simp [hready]
  have hnode : node ∈ nodes := h.subset node hmem
  have hperm : ((s.result ++ [node]) ++ ready) = s.result ++ s.ready := by simp [hready]
  have hnew : key node ∉ s.result.map key := by
    have hnodup := h.nodup
    rw [hready, List.map_append, List.map_cons] at hnodup
    exact (List.nodup_middle.mp hnodup |> List.nodup_cons.mp).1 ∘ List.mem_append_left _
  refine Sorting.releaseAll ⟨?_, ?_, ?_, ?_, ?_⟩ hkeys (horder.nodup_iff.mpr hedges)
  · show (((s.result ++ [node]) ++ ready).map key).Nodup
    rw [hperm]
    exact h.nodup
  · show ∀ a ∈ (s.result ++ [node]) ++ ready, a ∈ nodes
    rw [hperm]
    exact h.subset
  · intro b hb
    show s.indegree (key b) = _
    rw [h.indegree_eq b hb, remaining_concat hkeys hnode hnew]
    simp only [List.not_mem_nil, if_false, horder.mem_iff]
    split_ifs <;> simp
  · intro b hb
    show b ∈ (s.result ++ [node]) ++ ready ↔ _
    rw [hperm]
    exact h.mem_iff b hb
  · intro l b r heq a ha hedge
    change s.result ++ [node] = l ++ b :: r at heq
    rcases List.eq_nil_or_concat r with rfl | ⟨r, last, rfl⟩
    · -- no edge in force leads to the node
      obtain ⟨rfl, hlast⟩ := List.append_inj' heq rfl
      obtain rfl : node = b := by simpa using hlast
      have hzero := (h.mem_iff node hnode).mp hmem
      rw [h.indegree_eq node hnode] at hzero
      have hnone : remaining key edges nodes s.result (key node) = 0 := by
        simp only [List.not_mem_nil, if_false] at hzero
        omega
      have hpast : key a ∈ s.result.map key := by
        have := List.countP_eq_zero.mp hnone a ha
        simp only [decide_eq_true_eq, not_and'] at this
        exact not_not.mp (this hedge)
      obtain ⟨other, hother, hkey⟩ := List.mem_map.mp hpast
      have := eq_of_key hkeys (h.subset other (List.mem_append_left _ hother)) ha hkey
      exact this ▸ hother
    · rw [List.concat_eq_append, ← List.cons_append, ← List.append_assoc] at heq
      obtain ⟨hresult, -⟩ := List.append_inj' heq rfl
      exact h.earlier l b r hresult a ha hedge

theorem length_le_of_sorting (h : Sorting key edges nodes [] s) :
    (s.result ++ s.ready).length ≤ nodes.length := by
  have hnodup : (s.result ++ s.ready).Nodup := List.Nodup.of_map key h.nodup
  exact (List.subperm_of_subset hnodup h.subset).length_le

/-- Every run keeps the invariant, and ends with no node ready. -/
theorem sorting_run (hkeys : (nodes.map key).Nodup) (hedges : ∀ a ∈ nodes, (edges a).Nodup)
    (horder : ∀ a ∈ nodes, (order (edges a)).Perm (edges a)) {rounds : Nat}
    (h : Sorting key edges nodes [] s) (hrounds : nodes.length ≤ s.result.length + rounds) :
    Sorting key edges nodes [] (run key edges cmp order nodes rounds s) ∧
      (run key edges cmp order nodes rounds s).ready = [] := by
  induction rounds generalizing s with
  | zero =>
    refine ⟨h, ?_⟩
    have hlength := length_le_of_sorting h
    rw [List.length_append] at hlength
    show s.ready = []
    exact List.length_eq_zero_iff.mp (by omega)
  | succ rounds ih =>
    rw [run]
    cases hready : s.ready with
    | nil => exact ⟨h, hready⟩
    | cons node ready =>
      have hnode : node ∈ nodes := h.subset node (by simp [hready])
      apply ih (h.visit hready hkeys (hedges node hnode) (horder node hnode))
      rw [TopologicalSort.visit, result_releaseAll, List.length_append, List.length_singleton]
      show nodes.length ≤ s.result.length + 1 + rounds
      omega

variable (hkeys : (nodes.map key).Nodup) (hedges : ∀ a ∈ nodes, (edges a).Nodup)
  (horder : ∀ a ∈ nodes, (order (edges a)).Perm (edges a))

include hkeys hedges horder

theorem sorting_final : Sorting key edges nodes [] (final key edges cmp order nodes) ∧
    (final key edges cmp order nodes).ready = [] :=
  sorting_run hkeys hedges horder (sorting_initial hkeys) (by simp [initial])

/-- What is sorted is made of nodes, each once. -/
theorem subperm_sorted : (sorted key edges cmp order nodes).Subperm nodes := by
  have hfinal : Sorting key edges nodes [] (final key edges cmp order nodes) ∧
      (final key edges cmp order nodes).ready = [] := sorting_final hkeys hedges horder
  have hnodup := hfinal.1.nodup
  have hsubset := hfinal.1.subset
  rw [hfinal.2, List.append_nil] at hnodup hsubset
  exact List.subperm_of_subset (List.Nodup.of_map key hnodup) hsubset

/-- A sort that leaves no node out is a permutation. -/
theorem perm_sorted
    (hlength : (sorted key edges cmp order nodes).length = nodes.length) :
    (sorted key edges cmp order nodes).Perm nodes :=
  (subperm_sorted hkeys hedges horder).perm_of_length_le hlength.ge

/-- Every node with an edge to a node of the result comes before it. -/
theorem mem_of_edge {l r : List α} {a b : α}
    (hsorted : sorted key edges cmp order nodes = l ++ b :: r)
    (ha : a ∈ nodes) (hedge : key b ∈ edges a) : a ∈ l := by
  have hfinal : Sorting key edges nodes [] (final key edges cmp order nodes) :=
    (sorting_final hkeys hedges horder).1
  exact hfinal.earlier l b r hsorted a ha hedge

end Invariant

/-! ### The order of the nodes -/

section Congruence

variable [DecidableEq κ] {key : α → κ} {edges edges' : α → List κ} {cmp : α → α → Ordering}
  {order : List κ → List κ} {nodes nodes' : List α}

theorem find?_key_perm (hperm : nodes.Perm nodes') (hkeys : (nodes.map key).Nodup) (target : κ) :
    (nodes.find? fun a => decide (key a = target)) =
      nodes'.find? fun a => decide (key a = target) := by
  have hkeys' : (nodes'.map key).Nodup := (hperm.map key).nodup_iff.mp hkeys
  have hsome : ∀ {l : List α}, (l.map key).Nodup → ∀ a,
      (l.find? fun a => decide (key a = target)) = some a ↔ a ∈ l ∧ key a = target := by
    intro l hl a
    constructor
    · intro h
      exact ⟨List.mem_of_find?_eq_some h, by simpa using List.find?_some h⟩
    · rintro ⟨ha, hkey⟩
      cases h : l.find? fun a => decide (key a = target) with
      | none => simpa [hkey] using List.find?_eq_none.mp h a ha
      | some b =>
        have hb : key b = target := by simpa using List.find?_some h
        rw [eq_of_key hl (List.mem_of_find?_eq_some h) ha (hb.trans hkey.symm)]
  ext a
  rw [hsome hkeys, hsome hkeys', hperm.mem_iff]

/-- **The order of the nodes does not matter**, nor that of the targets of an edge. -/
theorem sorted_congr [Std.TransCmp cmp] (hperm : nodes.Perm nodes') (hkeys : (nodes.map key).Nodup)
    (hties : ∀ a ∈ nodes, ∀ b ∈ nodes, cmp a b = .eq → a = b)
    (hedges : ∀ a k, k ∈ edges a ↔ k ∈ edges' a)
    (horder : ∀ a, order (edges a) = order (edges' a)) :
    sorted key edges cmp order nodes = sorted key edges' cmp order nodes' := by
  have hrelease : release key cmp nodes = release key cmp nodes' := by
    funext s target
    unfold release
    rw [find?_key_perm hperm hkeys target]
  have hrun : run key edges cmp order nodes = run key edges' cmp order nodes' := by
    funext rounds s
    induction rounds generalizing s with
    | zero => rfl
    | succ rounds ih =>
      have hvisit : visit key edges cmp order nodes = visit key edges' cmp order nodes' := by
        funext s node
        unfold visit
        rw [hrelease, horder]
      rw [run, run, hvisit]
      cases s.ready with
      | nil => rfl
      | cons node ready => exact ih _
  have hcount : ∀ k, (nodes.countP fun a => decide (k ∈ edges a)) =
      nodes'.countP fun a => decide (k ∈ edges' a) := by
    intro k
    simp only [hedges]
    exact hperm.countP_eq _
  have hinitial : initial key edges cmp nodes = initial key edges' cmp nodes' := by
    unfold initial
    simp only [hcount]
    congr 1
    refine sortBy_eq_of_perm (hperm.filter _) fun a ha b hb => ?_
    exact hties a (List.mem_filter.mp ha).1 b (List.mem_filter.mp hb).1
  rw [sorted, sorted, final, final, hrun, hinitial, hperm.length_eq]

end Congruence

/-! ### Sorting in groups -/

section Groups

variable {γ : Type} [DecidableEq γ]

/-- A list, one group after the other. -/
theorem perm_flatMap_filter (group : α → γ) {groups : List γ} (hgroups : groups.Nodup)
    (l : List α) : (groups.flatMap fun g => l.filter fun a => decide (group a = g)).Perm
      (l.filter fun a => decide (group a ∈ groups)) := by
  induction groups with
  | nil => simp
  | cons g groups ih =>
    obtain ⟨hnew, hgroups⟩ := List.nodup_cons.mp hgroups
    rw [List.flatMap_cons]
    refine ((ih hgroups).append_left _).trans ?_
    have hparts := List.filter_append_perm (fun a => decide (group a = g))
      (l.filter fun a => decide (group a ∈ g :: groups))
    rw [List.filter_filter, List.filter_filter] at hparts
    have hfirst : (fun a => decide (group a = g) && decide (group a ∈ g :: groups)) =
        fun a => decide (group a = g) := by
      funext a
      by_cases h : group a = g <;> simp [h]
    have hrest : (fun a => !decide (group a = g) && decide (group a ∈ g :: groups)) =
        fun a => decide (group a ∈ groups) := by
      funext a
      by_cases h : group a = g
      · simp [h, hnew]
      · simp [h]
    rw [hfirst, hrest] at hparts
    exact hparts

variable [DecidableEq κ]

theorem idxOf_lt_of_mem {l r : List κ} {a b : κ} (hnodup : (l ++ b :: r).Nodup) (ha : a ∈ l) :
    (l ++ b :: r).idxOf a < (l ++ b :: r).idxOf b := by
  have hb : b ∉ l := fun hb => (List.nodup_append.mp hnodup).2.2 b hb b List.mem_cons_self rfl
  rw [List.idxOf_append_of_mem ha, List.idxOf_append_of_notMem hb, List.idxOf_cons_self]
  have := List.idxOf_lt_length_of_mem ha
  omega

omit [DecidableEq γ] in
/-- The order within a group is kept. -/
theorem idxOf_flatMap_of_split {f : γ → List κ} {groups : List γ}
    (hnodup : (groups.flatMap f).Nodup) {g : γ} (hg : g ∈ groups) {l r : List κ} {a b : κ}
    (hsplit : f g = l ++ b :: r) (ha : a ∈ l) :
    (groups.flatMap f).idxOf a < (groups.flatMap f).idxOf b := by
  obtain ⟨before, after, rfl⟩ := List.append_of_mem hg
  have hwhole : (before ++ g :: after).flatMap f =
      (before.flatMap f ++ l) ++ b :: (r ++ after.flatMap f) := by
    simp [hsplit]
  rw [hwhole] at hnodup ⊢
  exact idxOf_lt_of_mem hnodup (List.mem_append_right _ ha)

/-- An earlier group comes before a later one. -/
theorem idxOf_flatMap_of_lt {f : γ → List κ} {groups : List γ}
    (hnodup : (groups.flatMap f).Nodup) {g g' : γ} (hg' : g' ∈ groups)
    (hlt : groups.idxOf g < groups.idxOf g') {a b : κ} (ha : a ∈ f g) (hb : b ∈ f g') :
    (groups.flatMap f).idxOf a < (groups.flatMap f).idxOf b := by
  obtain ⟨before, after, rfl⟩ := List.append_of_mem hg'
  obtain ⟨l, r, hl⟩ := List.append_of_mem hb
  have hg : g ∈ before := by
    by_contra hnot
    by_cases heq : g = g'
    · rw [heq] at hlt
      exact absurd hlt (Nat.lt_irrefl _)
    · by_cases hmem : g' ∈ before
      · rw [List.idxOf_append_of_notMem hnot, List.idxOf_append_of_mem hmem] at hlt
        have := List.idxOf_lt_length_of_mem hmem
        omega
      · rw [List.idxOf_append_of_notMem hnot, List.idxOf_append_of_notMem hmem,
          List.idxOf_cons_self, List.idxOf_cons_ne _ (Ne.symm heq)] at hlt
        omega
  have hwhole : (before ++ g' :: after).flatMap f =
      (before.flatMap f ++ l) ++ b :: (r ++ after.flatMap f) := by
    simp [hl]
  rw [hwhole] at hnodup ⊢
  exact idxOf_lt_of_mem hnodup (List.mem_append_left _ (List.mem_flatMap.mpr ⟨g, hg, ha⟩))

end Groups

end TopologicalSort
