import Mathlib.Data.List.Sort

/-!
# Stable sorting by a comparator

`sortBy cmp` sorts a list by a comparator as a stable sort does: elements that compare equal keep
their order.  Programs that sort a list only to take an element off it are described by `firstBy
cmp`, the first least element:

* `head?_sortBy`: the head of the sorted list is the first least element;
* `find?_sortBy`: the first match in the sorted list is the first least element among the matches;
* `firstBy_filter_sortBy`: sorting beforehand by another comparator does not change the first
  least element, as long as elements that tie for it tie for the other one as well.
-/

namespace StableSort

variable {α β : Type*}

/-- The stable sort of a list by a comparator. -/
def sortBy (cmp : α → α → Ordering) (l : List α) : List α :=
  l.insertionSort fun a b => (cmp a b).isLE

/-- The first of the least elements of a list. -/
def firstBy (cmp : α → α → Ordering) : List α → Option α
  | [] => none
  | a :: l => match firstBy cmp l with
    | none => some a
    | some b => if (cmp a b).isLE then some a else some b

variable {cmp : α → α → Ordering}

@[simp] theorem firstBy_nil : firstBy cmp [] = none := rfl

@[simp] theorem sortBy_nil : sortBy cmp [] = [] := rfl

theorem sortBy_cons (a : α) (l : List α) :
    sortBy cmp (a :: l) = (sortBy cmp l).orderedInsert (fun a b => (cmp a b).isLE) a := rfl

variable {l : List α} {a : α}

theorem mem_sortBy : a ∈ sortBy cmp l ↔ a ∈ l :=
  List.mem_insertionSort _

theorem sortBy_map (f : β → α) (l : List β) :
    sortBy cmp (l.map f) = (sortBy (fun a b => cmp (f a) (f b)) l).map f := by
  unfold sortBy
  exact (List.map_insertionSort _ _ f l fun a _ b _ => Iff.rfl).symm

theorem firstBy_map (f : β → α) (l : List β) :
    firstBy cmp (l.map f) = (firstBy (fun a b => cmp (f a) (f b)) l).map f := by
  induction l with
  | nil => rfl
  | cons a l ih =>
    simp only [List.map_cons, firstBy, ih]
    cases firstBy (fun a b => cmp (f a) (f b)) l with
    | none => rfl
    | some b =>
      simp only [Option.map_some]
      split_ifs <;> rfl

theorem firstBy_eq_none_iff : firstBy cmp l = none ↔ l = [] := by
  cases l with
  | nil => simp
  | cons a l =>
    simp only [firstBy, reduceCtorEq, iff_false]
    cases firstBy cmp l with
    | none => simp
    | some b =>
      dsimp only
      split_ifs <;> simp

theorem firstBy_mem (h : firstBy cmp l = some a) : a ∈ l := by
  induction l generalizing a with
  | nil => simp at h
  | cons b l ih =>
    rw [firstBy] at h
    cases hl : firstBy cmp l with
    | none =>
      rw [hl] at h
      exact List.mem_cons.mpr (.inl (Option.some.inj h).symm)
    | some c =>
      rw [hl] at h
      dsimp only at h
      split_ifs at h with hle
      · exact List.mem_cons.mpr (.inl (Option.some.inj h).symm)
      · exact List.mem_cons_of_mem _ (ih (by rw [hl]; exact h))

variable {m : List α}

theorem firstBy_cons_congr (a : α) (h : firstBy cmp l = firstBy cmp m) :
    firstBy cmp (a :: l) = firstBy cmp (a :: m) := by
  rw [firstBy, firstBy, h]

variable {other : α → α → Ordering}

/-- Two comparators that agree on the elements of a list find the same first least element. -/
theorem firstBy_congr (h : l.Pairwise fun a b => cmp a b = other a b) :
    firstBy cmp l = firstBy other l := by
  induction l with
  | nil => rfl
  | cons a l ih =>
    rw [List.pairwise_cons] at h
    rw [firstBy, firstBy, ih h.2]
    cases hfirst : firstBy other l with
    | none => rfl
    | some b =>
      dsimp only
      rw [h.1 b (firstBy_mem hfirst)]

theorem perm_sortBy (l : List α) : (sortBy cmp l).Perm l := List.perm_insertionSort _ l

/-- The head of the sorted list is the first least element. -/
theorem head?_sortBy (l : List α) : (sortBy cmp l).head? = firstBy cmp l := by
  induction l with
  | nil => rfl
  | cons a l ih =>
    rw [sortBy_cons, firstBy, ← ih]
    cases sortBy cmp l with
    | nil => rfl
    | cons b l' =>
      rw [List.orderedInsert_cons]
      simp only [List.head?_cons]
      split_ifs <;> rfl

/-- Where no two elements have one key, only the keys count. -/
theorem pairwise_sortBy_of_nodup {key : α → Int} {tie : α → α → Ordering}
    (hnodup : (l.map key).Nodup) :
    (sortBy (fun a b => (compare (key a) (key b)).then (tie a b)) l).Pairwise
      fun a b => key a < key b := by
  let cmp : α → α → Ordering := fun a b => (compare (key a) (key b)).then (tie a b)
  have hcmp : ∀ a b, key a ≠ key b → ((cmp a b).isLE = true ↔ key a < key b) := by
    intro a b hne
    rcases Int.lt_or_gt_of_ne hne with hlt | hgt
    · simp [cmp, Int.compare_eq_lt.mpr hlt, hlt]
    · have hnot : ¬key a < key b := by omega
      simp [cmp, Int.compare_eq_gt.mpr hgt, hnot]
  have hinsert : ∀ (a : α) (l : List α), key a ∉ l.map key →
      l.Pairwise (fun a b => key a < key b) →
      (l.orderedInsert (fun a b => (cmp a b).isLE) a).Pairwise fun a b => key a < key b := by
    intro a l hnew hsorted
    induction l with
    | nil => exact List.pairwise_singleton _ a
    | cons b l ih =>
      rw [List.map_cons, List.mem_cons, not_or] at hnew
      obtain ⟨hbelow, hrest⟩ := List.pairwise_cons.mp hsorted
      rw [List.orderedInsert_cons]
      split_ifs with hle
      · have hlt := (hcmp a b hnew.1).mp hle
        refine List.pairwise_cons.mpr ⟨fun c hc => ?_, hsorted⟩
        rcases List.mem_cons.mp hc with rfl | hc
        · exact hlt
        · exact Int.lt_trans hlt (hbelow c hc)
      · refine List.pairwise_cons.mpr ⟨fun c hc => ?_, ih hnew.2 hrest⟩
        rcases (List.mem_orderedInsert _).mp hc with rfl | hc
        · have hnot := mt (hcmp c b hnew.1).mpr hle
          have hne := hnew.1
          omega
        · exact hbelow c hc
  induction l with
  | nil => exact List.Pairwise.nil
  | cons a l ih =>
    obtain ⟨hnew, hrest⟩ := List.nodup_cons.mp hnodup
    rw [sortBy_cons]
    refine hinsert a _ ?_ (ih hrest)
    rw [((perm_sortBy l).map key).mem_iff]
    exact hnew

section Ordered

variable [Std.TransCmp cmp]

/-- Comparing images compares as well. -/
theorem transCmp_map (cmp : α → α → Ordering) [Std.TransCmp cmp] (f : β → α) :
    Std.TransCmp fun a b => cmp (f a) (f b) where
  eq_swap := @fun a b => @Std.OrientedCmp.eq_swap α cmp _ (f a) (f b)
  isLE_trans := @fun a b c => @Std.TransCmp.isLE_trans α cmp _ (f a) (f b) (f c)

/-- The first least element is at most every element. -/
theorem isLE_of_firstBy (h : firstBy cmp l = some a) : ∀ b ∈ l, (cmp a b).isLE := by
  induction l generalizing a with
  | nil => simp at h
  | cons c l ih =>
    rw [firstBy] at h
    cases hl : firstBy cmp l with
    | none =>
      rw [hl] at h
      obtain rfl := Option.some.inj h
      rw [firstBy_eq_none_iff] at hl
      intro b hb
      rw [hl, List.mem_singleton] at hb
      rw [hb]
      exact Std.ReflCmp.isLE_rfl
    | some d =>
      rw [hl] at h
      dsimp only at h
      split_ifs at h with hle
      · obtain rfl := Option.some.inj h
        intro b hb
        rcases List.mem_cons.mp hb with rfl | hb
        · exact Std.ReflCmp.isLE_rfl
        · exact Std.TransCmp.isLE_trans hle (ih hl b hb)
      · obtain rfl := Option.some.inj h
        intro b hb
        rcases List.mem_cons.mp hb with rfl | hb
        · exact Std.OrientedCmp.isLE_of_isGE (by
            rw [Std.OrientedCmp.isGE_iff_isLE]
            have hlt := Std.OrientedCmp.lt_of_not_isLE hle
            rw [hlt]
            rfl)
        · exact ih hl b hb

/-- Two neighbours that do not tie can be exchanged. -/
theorem firstBy_swap {b : α} (l : List α) (h : cmp a b ≠ .eq) :
    firstBy cmp (a :: b :: l) = firstBy cmp (b :: a :: l) := by
  have hswap : cmp b a = (cmp a b).swap := Std.OrientedCmp.eq_swap
  have htrans : ∀ {x y z : α}, (cmp x y).isLE → (cmp y z).isLE → (cmp x z).isLE :=
    Std.TransCmp.isLE_trans
  simp only [firstBy]
  cases firstBy cmp l with
  | none =>
    dsimp only
    rw [hswap]
    cases hab : cmp a b <;> simp_all
  | some c =>
    have hac := @htrans a b c
    have hbc := @htrans b a c
    rw [hswap] at hbc
    dsimp only
    by_cases ha : (cmp a c).isLE <;> by_cases hb : (cmp b c).isLE <;>
      cases hab : cmp a b <;> simp_all

/-- The first least element of a list without ties does not depend on its order. -/
theorem firstBy_perm (hperm : l.Perm m) (hdistinct : l.Pairwise fun a b => cmp a b ≠ .eq) :
    firstBy cmp l = firstBy cmp m := by
  induction hperm with
  | nil => rfl
  | cons a hperm ih => exact firstBy_cons_congr a (ih (List.pairwise_cons.mp hdistinct).2)
  | swap a b l =>
    rw [List.pairwise_cons] at hdistinct
    exact firstBy_swap l (hdistinct.1 a List.mem_cons_self)
  | trans hperm₁ hperm₂ ih₁ ih₂ =>
    have hswap : ∀ {a b : α}, cmp a b ≠ .eq → cmp b a ≠ .eq := by
      intro a b hne heq
      exact hne (Std.OrientedCmp.eq_symm heq)
    exact (ih₁ hdistinct).trans (ih₂ (hperm₁.pairwise hdistinct hswap))

/-- **Presorting.**  Sorting first by a comparator that does not exchange ties of `cmp` does not
change which element comes out first among those that pass a filter. -/
theorem firstBy_filter_sortBy {p : α → Bool}
    (htie : ∀ a b, p a → p b → cmp a b = .eq → (other a b).isLE) (l : List α) :
    firstBy cmp ((sortBy other l).filter p) = firstBy cmp (l.filter p) := by
  have hinsert : ∀ (a : α) (l : List α),
      firstBy cmp ((l.orderedInsert (fun a b => (other a b).isLE) a).filter p) =
        firstBy cmp ((a :: l).filter p) := by
    intro a l
    induction l with
    | nil => rfl
    | cons b l ih =>
      rw [List.orderedInsert_cons]
      split_ifs with hle
      · rfl
      by_cases hb : p b
      · rw [List.filter_cons_of_pos hb, firstBy_cons_congr b ih]
        by_cases ha : p a
        · -- `a` moves past `b`, which it does not tie with
          have hne : cmp a b ≠ .eq := fun heq => hle (htie a b ha hb heq)
          rw [List.filter_cons_of_pos ha, List.filter_cons_of_pos ha, List.filter_cons_of_pos hb]
          exact (firstBy_swap _ hne).symm
        · rw [List.filter_cons_of_neg ha, List.filter_cons_of_neg ha, List.filter_cons_of_pos hb]
      · rw [List.filter_cons_of_neg hb, ih]
        by_cases ha : p a
        · rw [List.filter_cons_of_pos ha, List.filter_cons_of_pos ha, List.filter_cons_of_neg hb]
        · rw [List.filter_cons_of_neg ha, List.filter_cons_of_neg ha, List.filter_cons_of_neg hb]
  induction l with
  | nil => rfl
  | cons a l ih =>
    rw [sortBy_cons, hinsert a (sortBy other l)]
    by_cases ha : p a
    · rw [List.filter_cons_of_pos ha, List.filter_cons_of_pos ha]
      exact firstBy_cons_congr a ih
    · rw [List.filter_cons_of_neg ha, List.filter_cons_of_neg ha]
      exact ih

theorem pairwise_sortBy (l : List α) : (sortBy cmp l).Pairwise fun a b => (cmp a b).isLE := by
  have htotal : Std.Total fun a b : α => ((cmp a b).isLE : Prop) := by
    constructor
    intro a b
    by_cases h : (cmp a b).isLE
    · exact .inl h
    · right
      rw [Std.OrientedCmp.lt_of_not_isLE h]
      rfl
  have htrans : IsTrans α fun a b : α => ((cmp a b).isLE : Prop) :=
    ⟨fun _ _ _ => Std.TransCmp.isLE_trans⟩
  exact List.pairwise_insertionSort _ l

/-- An element that passes the filter keeps its place among those that do. -/
theorem filter_orderedInsert_of_pos {p : α → Bool} (ha : p a) (l : List α)
    (hsorted : l.Pairwise fun a b => (cmp a b).isLE) :
    (l.orderedInsert (fun a b => (cmp a b).isLE) a).filter p =
      (l.filter p).orderedInsert (fun a b => (cmp a b).isLE) a := by
  induction l with
  | nil => simp [ha]
  | cons b l ih =>
    rw [List.pairwise_cons] at hsorted
    rw [List.orderedInsert_cons]
    split_ifs with hle
    · rw [List.filter_cons_of_pos ha]
      -- `a` goes before `b`, hence before whatever of the rest passes the filter
      cases hfilter : (b :: l).filter p with
      | nil => simp
      | cons c m =>
        have hc : c ∈ b :: l := (List.mem_filter.mp (hfilter ▸ List.mem_cons_self)).1
        have hac : (cmp a c).isLE := by
          rcases List.mem_cons.mp hc with rfl | hc
          · exact hle
          · exact Std.TransCmp.isLE_trans hle (hsorted.1 c hc)
        rw [List.orderedInsert_cons, if_pos hac]
    · by_cases hb : p b
      · rw [List.filter_cons_of_pos hb, List.filter_cons_of_pos hb, ih hsorted.2,
          List.orderedInsert_cons, if_neg hle]
      · rw [List.filter_cons_of_neg hb, List.filter_cons_of_neg hb, ih hsorted.2]

omit [Std.TransCmp cmp] in
theorem filter_orderedInsert_of_neg {p : α → Bool} {a : α} (ha : ¬p a) (l : List α) :
    (l.orderedInsert (fun a b => (cmp a b).isLE) a).filter p = l.filter p := by
  induction l with
  | nil => simp [ha]
  | cons b l ih =>
    rw [List.orderedInsert_cons]
    split_ifs with hle
    · rw [List.filter_cons_of_neg ha]
    · by_cases hb : p b
      · rw [List.filter_cons_of_pos hb, List.filter_cons_of_pos hb, ih]
      · rw [List.filter_cons_of_neg hb, List.filter_cons_of_neg hb, ih]

/-- Filtering a sorted list is sorting the filtered one. -/
theorem filter_sortBy (p : α → Bool) (l : List α) :
    (sortBy cmp l).filter p = sortBy cmp (l.filter p) := by
  induction l with
  | nil => rfl
  | cons a l ih =>
    rw [sortBy_cons]
    by_cases ha : p a
    · rw [filter_orderedInsert_of_pos ha _ (pairwise_sortBy l), List.filter_cons_of_pos ha,
        sortBy_cons, ih]
    · rw [filter_orderedInsert_of_neg ha, List.filter_cons_of_neg ha, ih]

omit [Std.TransCmp cmp] in
/-- A list in order is sorted already. -/
theorem sortBy_of_pairwise {l : List α} (h : l.Pairwise fun a b => (cmp a b).isLE) :
    sortBy cmp l = l :=
  List.Pairwise.insertionSort_eq h

/-- The order of a list does not matter where no two of its elements tie. -/
theorem sortBy_eq_of_perm (hperm : l.Perm m) (hties : ∀ a ∈ l, ∀ b ∈ l, cmp a b = .eq → a = b) :
    sortBy cmp l = sortBy cmp m := by
  refine List.Perm.eq_of_pairwise (fun a b ha hb hab hba => ?_) (pairwise_sortBy l)
    (pairwise_sortBy m) ((perm_sortBy l).trans (hperm.trans (perm_sortBy m).symm))
  exact hties a (mem_sortBy.mp ha) b (hperm.mem_iff.mpr (mem_sortBy.mp hb))
    (Std.OrientedCmp.isLE_antisymm hab hba)

/-- The first match in a sorted list is the first least element among the matches. -/
theorem find?_sortBy (p : α → Bool) (l : List α) :
    (sortBy cmp l).find? p = firstBy cmp (l.filter p) := by
  rw [← List.head?_filter, filter_sortBy, head?_sortBy]

end Ordered

/-! ### Sorting by different keys -/

variable {cmp' : α → α → Ordering}

theorem orderedInsert_congr (h : ∀ b ∈ l, cmp a b = cmp' a b) :
    l.orderedInsert (fun a b => (cmp a b).isLE) a =
      l.orderedInsert (fun a b => (cmp' a b).isLE) a := by
  induction l with
  | nil => rfl
  | cons b l ih =>
    rw [List.orderedInsert_cons, List.orderedInsert_cons, h b List.mem_cons_self,
      ih fun c hc => h c (List.mem_cons_of_mem _ hc)]

/-- Comparators that agree on the elements of a list sort it alike. -/
theorem sortBy_congr (h : l.Pairwise fun a b => cmp a b = cmp' a b) :
    sortBy cmp l = sortBy cmp' l := by
  induction l with
  | nil => rfl
  | cons a l ih =>
    obtain ⟨ha, hl⟩ := List.pairwise_cons.mp h
    rw [sortBy_cons, sortBy_cons, ih hl]
    exact orderedInsert_congr fun b hb => ha b (mem_sortBy.mp hb)

/-- When no two elements have the same key, the order of the list does not matter, nor how ties are
broken. -/
theorem sortBy_perm {κ : Type*} [Ord κ] [Std.TransOrd κ] [Std.LawfulEqOrd κ] (key : α → κ)
    (tie : α → α → Ordering) (hperm : l.Perm m) (hnodup : (l.map key).Nodup) :
    sortBy (fun a b => (compare (key a) (key b)).then (tie a b)) l =
      sortBy (fun a b => (compare (key a) (key b)).then (tie a b)) m := by
  have hkeys : ∀ {l : List α}, (l.map key).Nodup →
      sortBy (fun a b => (compare (key a) (key b)).then (tie a b)) l =
        sortBy (fun a b => compare (key a) (key b)) l := by
    intro l hl
    refine sortBy_congr ((List.pairwise_map.mp hl).imp fun {a b} hne => ?_)
    cases hcompare : compare (key a) (key b) with
    | lt => rfl
    | eq => exact absurd (Std.LawfulEqOrd.eq_of_compare hcompare) hne
    | gt => rfl
  rw [hkeys hnodup, hkeys ((hperm.map key).nodup_iff.mp hnodup)]
  have htrans : Std.TransCmp fun a b : α => compare (key a) (key b) := transCmp_map compare key
  refine List.Perm.eq_of_pairwise (fun a b ha hb hab hba => ?_) (pairwise_sortBy l)
    (pairwise_sortBy m) ((perm_sortBy l).trans (hperm.trans (perm_sortBy m).symm))
  have hequal : key a = key b :=
    Std.LawfulEqOrd.eq_of_compare (Std.OrientedCmp.isLE_antisymm hab hba)
  exact List.inj_on_of_nodup_map hnodup (mem_sortBy.mp ha)
    (hperm.mem_iff.mpr (mem_sortBy.mp hb)) hequal

end StableSort
