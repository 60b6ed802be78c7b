import Frely.Lib.Checked
import Mathlib.Algebra.Ring.Int.Defs
import Mathlib.Algebra.Ring.Nat
import Mathlib.Data.List.Chain
import Mathlib.Data.List.Perm.Subperm

/-!
# Depth-first searches

Two recursive searches along the successors `next` of a node, for arbitrary nodes.  `visit` looks
for a cycle: `path` is what it is in the middle of, `visited` what it is done with.  `measure` adds
up the weights along every path that does not repeat a node.  The depth of the recursion is a
parameter, and a search deeper than that is `exhausted`.

`visit_acc`: a search that is done has no infinite path from anything it visited.
`measure_le`: no path that a search accepts weighs more than the limit.  `visit_eq_error`,
`measure_eq_error`: on finitely many nodes the depth that their number gives is enough, and a search
only fails on a cycle and on a path above the limit.
-/

namespace DepthFirst

open Checked Relation

variable {α ε : Type}

/-- Where a node can be left for. -/
def Step (next : α → List α) (a b : α) : Prop := b ∈ next a

/-- No path leads from a node back to it. -/
def Acyclic (R : α → α → Prop) : Prop := ∀ a, ¬TransGen R a a

section Searches

variable [DecidableEq α] (next : α → List α)

def visit (cycle : α → ε) (exhausted : ε) : Nat → List α → List α → α → Except ε (List α)
  | 0, _, _, _ => .error exhausted
  | depth + 1, path, visited, node =>
    if node ∈ path then .error (cycle node)
    else if node ∈ visited then .ok visited
    else do
      let visited ← (next node).foldlM (visit cycle exhausted depth (node :: path)) visited
      return node :: visited

/-- Nodes that are not active end a path, and do not count. -/
def measure (active : α → Bool) (weight : α → Nat) (limit : Nat) (exceeded : α → ε)
    (exhausted : ε) : Nat → List α → Nat → α → Except ε Unit
  | 0, _, _, _ => .error exhausted
  | depth + 1, path, count, node =>
    if active node then do
      rejectIf (limit < count + weight node) (exceeded node)
      forAll ((next node).filter (· ∉ node :: path))
        (measure active weight limit exceeded exhausted depth (node :: path) (count + weight node))
    else .ok ()

end Searches

/-! ### Paths of an acyclic relation -/

variable {R : α → α → Prop} {l : List α}

theorem not_transGen_of_acc {a : α} (h : Acc (Function.swap R) a) : ¬TransGen R a a := by
  induction h with
  | intro a _ ih =>
    intro hloop
    -- the last step of a loop comes from a node that is on a loop of its own
    obtain ⟨b, hab, hba⟩ := TransGen.head'_iff.mp hloop
    exact ih b hab (TransGen.tail' hba hab)

theorem isChain_transGen {a b : α} (h : (a :: l).IsChain R) (hb : b ∈ l) : TransGen R a b := by
  induction l generalizing a with
  | nil => cases hb
  | cons c l ih =>
    obtain ⟨hac, hl⟩ := List.isChain_cons_cons.mp h
    rcases List.mem_cons.mp hb with rfl | hb
    · exact .single hac
    · exact .head hac (ih hl hb)

/-- Along a path of an acyclic relation no node comes twice. -/
theorem Acyclic.nodup (h : Acyclic R) (hl : l.IsChain R) : l.Nodup := by
  induction l with
  | nil => exact .nil
  | cons a l ih =>
    refine List.nodup_cons.mpr ⟨fun ha => h a (isChain_transGen hl ha), ih ?_⟩
    exact hl.tail

/-- A relation with fewer steps has no more cycles. -/
theorem Acyclic.mono {S : α → α → Prop} (h : Acyclic S) (hsub : ∀ a b, R a b → S a b) : Acyclic R :=
  fun a hloop => h a (TransGen.mono hsub a a hloop)

/-! ### Depths -/

variable {depth : Nat} {nodes path : List α}

/-- The element at which a fold failed. -/
theorem exists_of_foldlM_eq_error {β : Type} {f : β → α → Except ε β} {b : β} {e : ε}
    (h : l.foldlM f b = .error e) : ∃ a ∈ l, ∃ b', f b' a = .error e := by
  induction l generalizing b with
  | nil => cases h
  | cons a l ih =>
    rw [List.foldlM_cons] at h
    cases hfa : f b a with
    | error e' =>
      rw [hfa] at h
      cases h
      exact ⟨a, List.mem_cons_self, b, hfa⟩
    | ok b' =>
      rw [hfa] at h
      obtain ⟨a', ha', hfail⟩ := ih h
      exact ⟨a', List.mem_cons_of_mem _ ha', hfail⟩

/-- What a search is in the middle of are different nodes, and more depth is left than nodes. -/
structure Fits (nodes path : List α) (depth : Nat) : Prop where
  nodup : path.Nodup
  subset : path ⊆ nodes
  room : nodes.length < path.length + depth

theorem Fits.cons {nodes path : List α} {depth : Nat} {node : α} (h : Fits nodes path (depth + 1))
    (hnode : node ∈ nodes) (hpath : node ∉ path) : Fits nodes (node :: path) depth where
  nodup := List.nodup_cons.mpr ⟨hpath, h.nodup⟩
  subset := List.cons_subset.mpr ⟨hnode, h.subset⟩
  room := by
    have := h.room
    rw [List.length_cons]
    omega

theorem Fits.depth_ne_zero (h : Fits nodes path depth) : depth ≠ 0 := by
  have hroom := h.room
  have hle : path.length ≤ nodes.length :=
    (List.subperm_of_subset h.nodup h.subset).length_le
  omega

theorem fits_start (nodes : List α) : Fits nodes [] (nodes.length + 1) where
  nodup := .nil
  subset := List.nil_subset _
  room := by simp

/-! ### The search for a cycle -/

section Visit

variable [DecidableEq α] {next : α → List α} {cycle : α → ε} {exhausted : ε}

/-- What is visited has no infinite path, and stays visited. -/
def Done (next : α → List α) (visited visited' : List α) : Prop :=
  visited ⊆ visited' ∧ ∀ a ∈ visited', Acc (Function.swap (Step next)) a

omit [DecidableEq α] in
theorem foldlM_done {search : List α → α → Except ε (List α)}
    (hsearch : ∀ {visited visited' node}, (∀ a ∈ visited, Acc (Function.swap (Step next)) a) →
      search visited node = .ok visited' → Done next visited visited' ∧ node ∈ visited')
    {l visited visited' : List α} (hvisited : ∀ a ∈ visited, Acc (Function.swap (Step next)) a)
    (h : l.foldlM search visited = .ok visited') : Done next visited visited' ∧ l ⊆ visited' := by
  induction l generalizing visited with
  | nil =>
    cases h
    exact ⟨⟨List.Subset.refl _, hvisited⟩, List.nil_subset _⟩
  | cons node l ih =>
    rw [List.foldlM_cons, bind_eq_ok] at h
    obtain ⟨middle, hnode, hrest⟩ := h
    obtain ⟨⟨hsub, hmiddle⟩, hmem⟩ := hsearch hvisited hnode
    obtain ⟨⟨hsub', hdone⟩, hl⟩ := ih hmiddle hrest
    refine ⟨⟨List.Subset.trans hsub hsub', hdone⟩, ?_⟩
    exact List.cons_subset.mpr ⟨hsub' hmem, hl⟩

/-- A search that returned is done with the node. -/
theorem visit_acc {depth : Nat} {path visited visited' : List α} {node : α}
    (hvisited : ∀ a ∈ visited, Acc (Function.swap (Step next)) a)
    (h : visit next cycle exhausted depth path visited node = .ok visited') :
    Done next visited visited' ∧ node ∈ visited' := by
  induction depth generalizing path visited visited' node with
  | zero => cases h
  | succ depth ih =>
    rw [visit] at h
    split_ifs at h with hpath hmem
    · cases h
      exact ⟨⟨List.Subset.refl _, hvisited⟩, hmem⟩
    · rw [bind_eq_ok] at h
      obtain ⟨middle, hfold, hreturn⟩ := h
      cases hreturn
      obtain ⟨⟨hsub, hmiddle⟩, hnext⟩ := foldlM_done ih hvisited hfold
      have hnode : Acc (Function.swap (Step next)) node := by
        constructor
        intro b hb
        exact hmiddle b (hnext hb)
      refine ⟨⟨List.Subset.trans hsub (List.subset_cons_self _ _), ?_⟩, List.mem_cons_self⟩
      intro a ha
      rcases List.mem_cons.mp ha with rfl | ha
      · exact hnode
      · exact hmiddle a ha

/-- Searching from every node of a list in turn. -/
theorem acyclic_of_visit {visited : List α} (hnodes : ∀ a b, Step next a b → a ∈ nodes)
    (h : nodes.foldlM (visit next cycle exhausted depth []) [] = .ok visited) :
    Acyclic (Step next) := by
  obtain ⟨⟨-, hacc⟩, hsub⟩ := foldlM_done (@visit_acc _ _ _ next cycle exhausted depth [])
    (fun a ha => absurd ha List.not_mem_nil) h
  intro a hloop
  obtain ⟨b, hab, -⟩ := TransGen.head'_iff.mp hloop
  exact not_transGen_of_acc (hacc a (hsub (hnodes a b hab))) hloop

/-- On finitely many nodes the only fault is a cycle, which the search is in the middle of. -/
theorem visit_eq_error (hclosed : ∀ a ∈ nodes, next a ⊆ nodes) {visited : List α} {node : α} {e : ε}
    (hfits : Fits nodes path depth) (hnode : node ∈ nodes)
    (hchain : (node :: path).IsChain (Function.swap (Step next)))
    (h : visit next cycle exhausted depth path visited node = .error e) :
    (∃ a, e = cycle a) ∧ ¬Acyclic (Step next) := by
  induction depth generalizing path visited node with
  | zero => exact absurd rfl hfits.depth_ne_zero
  | succ depth ih =>
    rw [visit] at h
    split_ifs at h with hpath hmem
    · cases h
      exact ⟨⟨node, rfl⟩, fun h => h node (transGen_swap.mp (isChain_transGen hchain hpath))⟩
    · cases hfold : (next node).foldlM (visit next cycle exhausted depth (node :: path))
        visited with
      | ok middle =>
        rw [hfold] at h
        cases h
      | error e' =>
        rw [hfold] at h
        cases h
        obtain ⟨a, ha, visited', hfail⟩ := exists_of_foldlM_eq_error hfold
        exact ih (hfits.cons hnode hpath) (hclosed node hnode ha)
          (List.isChain_cons_cons.mpr ⟨ha, hchain⟩) hfail

end Visit

/-! ### Weights along paths -/

section Measure

variable [DecidableEq α] {next : α → List α} {active : α → Bool} {weight : α → Nat} {limit : Nat}
  {exceeded : α → ε} {exhausted : ε}

/-- Every path of active nodes that continues an accepted search stays within the limit. -/
theorem measure_le {count : Nat} {node : α}
    (h : measure next active weight limit exceeded exhausted depth path count node = .ok ())
    (hchain : (node :: l).IsChain (Step next)) (hactive : ∀ a ∈ node :: l, active a = true)
    (hnodup : (node :: l).Nodup) (hpath : ∀ a ∈ node :: l, a ∉ path) :
    count + ((node :: l).map weight).sum ≤ limit := by
  induction l generalizing depth path count node with
  | nil =>
    cases depth with
    | zero => cases h
    | succ depth =>
      rw [measure, if_pos (hactive node List.mem_cons_self), bind_eq_ok] at h
      obtain ⟨_, hlimit, -⟩ := h
      rw [rejectIf_eq_ok] at hlimit
      simpa using hlimit
  | cons second l ih =>
    cases depth with
    | zero => cases h
    | succ depth =>
      rw [measure, if_pos (hactive node List.mem_cons_self), bind_eq_ok] at h
      obtain ⟨_, -, hall⟩ := h
      obtain ⟨hstep, hrest⟩ := List.isChain_cons_cons.mp hchain
      obtain ⟨hnew, hnodup⟩ := List.nodup_cons.mp hnodup
      have hsecond : ∀ a ∈ second :: l, a ∉ node :: path := by
        intro a ha hmem
        rcases List.mem_cons.mp hmem with rfl | hmem
        · exact hnew ha
        · exact hpath a (List.mem_cons_of_mem _ ha) hmem
      have hsearch := forAll_eq_ok.mp hall second (List.mem_filter.mpr
        ⟨hstep, decide_eq_true (hsecond second List.mem_cons_self)⟩)
      have hle := ih hsearch hrest (fun a ha => hactive a (List.mem_cons_of_mem _ ha)) hnodup
        hsecond
      rw [List.map_cons, List.sum_cons]
      omega

/-- When finitely many nodes are active, the only fault is a path that weighs too much. -/
theorem measure_eq_error (hnodes : ∀ a, active a → a ∈ nodes) {count : Nat} {node : α} {e : ε}
    (hfits : Fits nodes path depth) (hpath : node ∉ path)
    (hchain : (node :: path).IsChain (Function.swap (Step next))) (hactive : ∀ a ∈ path, active a)
    (hcount : count = (path.map weight).sum)
    (h : measure next active weight limit exceeded exhausted depth path count node = .error e) :
    (∃ a, e = exceeded a) ∧ ∃ l : List α, l.IsChain (Step next) ∧ (∀ a ∈ l, active a) ∧
      limit < (l.map weight).sum := by
  induction depth generalizing path count node with
  | zero => exact absurd rfl hfits.depth_ne_zero
  | succ depth ih =>
    rw [measure] at h
    split_ifs at h with hact
    · have hall : ∀ a ∈ node :: path, active a := List.forall_mem_cons.mpr ⟨hact, hactive⟩
      have hsum : count + weight node = ((node :: path).map weight).sum := by
        rw [hcount, List.map_cons, List.sum_cons, Nat.add_comm]
      by_cases hlimit : limit < count + weight node
      · rw [rejectIf_of hlimit, bind_error] at h
        cases h
        refine ⟨⟨node, rfl⟩, (node :: path).reverse, List.isChain_reverse.mpr hchain, ?_, ?_⟩
        · exact fun a ha => hall a (List.mem_reverse.mp ha)
        · rwa [List.map_reverse, List.sum_reverse, ← hsum]
      · rw [rejectIf_of_not hlimit, bind_ok] at h
        obtain ⟨a, ha, hfail⟩ := exists_of_forAll_eq_error h
        obtain ⟨hstep, hnew⟩ := List.mem_filter.mp ha
        exact ih (hfits.cons (hnodes node hact) hpath) (of_decide_eq_true hnew)
          (List.isChain_cons_cons.mpr ⟨hstep, hchain⟩) hall hsum hfail

end Measure

end DepthFirst
