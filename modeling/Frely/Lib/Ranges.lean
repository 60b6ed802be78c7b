import Mathlib.Data.List.Chain

/-!
# Ranges of integers side by side

Some of the integers are counts.  A list of things with ranges partitions the counts from its
lowest bound on when every range meets the next one and the last has no upper bound.
`pairwise_disjoint`: no integer is in two of the ranges.
-/

namespace Ranges

/-- The integers from a lower bound to an upper bound, if there is one. -/
structure Range where
  low : Int
  high : Option Int
deriving DecidableEq, Repr

variable {n : Int}

namespace Range

def Contains (range : Range) (n : Int) : Prop := range.low ≤ n ∧ ∀ high ∈ range.high, n ≤ high

def Proper (range : Range) : Prop := ∀ high ∈ range.high, range.low ≤ high

variable (IsCount : Int → Prop)

/-- The second range starts after the first one ends, and no count lies between. -/
def Meets (left right : Range) : Prop :=
  ∃ high ∈ left.high, high < right.low ∧ ∀ n, IsCount n → high < n → right.low ≤ n

variable {left right : Range}

theorem meets_of_succ {high : Int} (h : high ∈ left.high) (hlow : right.low = high + 1) :
    Meets IsCount left right :=
  ⟨high, h, by omega, fun n _ hn => by omega⟩

variable {IsCount}

theorem contains_low {range : Range} (h : range.Proper) : range.Contains range.low :=
  ⟨Int.le_refl _, h⟩

theorem Meets.low_lt (h : Meets IsCount left right) (hleft : left.Proper) :
    left.low < right.low := by
  obtain ⟨high, hhigh, hlow, -⟩ := h
  have := hleft high hhigh
  omega

theorem Contains.lt_of_meets (h : Meets IsCount left right) (hleft : left.Contains n) :
    n < right.low := by
  obtain ⟨high, hhigh, hlow, -⟩ := h
  have := hleft.2 high hhigh
  omega

end Range

variable {α : Type*} {range : α → Range} {IsCount : Int → Prop}

variable {l : List α}

/-- The ranges of a chain start one after the other. -/
theorem pairwise_low_lt (hproper : ∀ a ∈ l, (range a).Proper)
    (hchain : l.IsChain fun a b => (range a).Meets IsCount (range b)) :
    l.Pairwise fun a b => (range a).low < (range b).low := by
  have : IsTrans α fun a b => (range a).low < (range b).low := ⟨fun _ _ _ => Int.lt_trans⟩
  refine List.isChain_iff_pairwise.mp (hchain.imp_of_mem_imp ?_)
  intro a b ha _ hmeets
  exact hmeets.low_lt (hproper a ha)

/-- **No integer is in two ranges** of a chain. -/
theorem pairwise_disjoint (hproper : ∀ a ∈ l, (range a).Proper)
    (hchain : l.IsChain fun a b => (range a).Meets IsCount (range b)) :
    l.Pairwise fun a b => ∀ n, (range a).Contains n → n < (range b).low := by
  induction l with
  | nil => exact .nil
  | cons a l ih =>
    have hlow := pairwise_low_lt hproper hchain
    have hproper' := fun b hb => hproper b (List.mem_cons_of_mem _ hb)
    refine List.pairwise_cons.mpr ⟨?_, ih hproper' hchain.tail⟩
    intro b hb n hn
    cases l with
    | nil => exact absurd hb List.not_mem_nil
    | cons c l =>
      have hmeets := (List.isChain_cons_cons.mp hchain).1
      have hnext := hn.lt_of_meets hmeets
      rcases List.mem_cons.mp hb with rfl | hb
      · exact hnext
      · have := (List.pairwise_cons.mp (List.pairwise_cons.mp hlow).2).1 b hb
        omega

/-- Two members of a chain whose ranges share an integer are the same. -/
theorem eq_of_contains (hproper : ∀ a ∈ l, (range a).Proper)
    (hchain : l.IsChain fun a b => (range a).Meets IsCount (range b)) {a b : α} (ha : a ∈ l)
    (hb : b ∈ l) (hna : (range a).Contains n) (hnb : (range b).Contains n) : a = b := by
  have hdisjoint := pairwise_disjoint hproper hchain
  by_contra hne
  have hsym : l.Pairwise fun a b => ¬((range a).Contains n ∧ (range b).Contains n) :=
    hdisjoint.imp fun h hboth => absurd (h n hboth.1) (Int.not_lt.mpr hboth.2.1)
  have : Std.Symm fun a b : α => ¬((range a).Contains n ∧ (range b).Contains n) :=
    ⟨fun _ _ h hboth => h hboth.symm⟩
  exact hsym.forall ha hb hne ⟨hna, hnb⟩

/-- The first range of a chain starts lowest. -/
theorem exists_head_low_le (hproper : ∀ a ∈ l, (range a).Proper)
    (hchain : l.IsChain fun a b => (range a).Meets IsCount (range b)) {a : α} (ha : a ∈ l)
    (hlow : (range a).low ≤ n) : ∃ first ∈ l.head?, (range first).low ≤ n := by
  have hpairwise := pairwise_low_lt hproper hchain
  cases l with
  | nil => exact absurd ha List.not_mem_nil
  | cons first rest =>
    refine ⟨first, rfl, ?_⟩
    rcases List.mem_cons.mp ha with rfl | hrest
    · exact hlow
    · have hlt := (List.pairwise_cons.mp hpairwise).1 a hrest
      omega

/-- A chain whose last range has no upper bound contains every count from its start on. -/
theorem exists_contains (hchain : l.IsChain fun a b => (range a).Meets IsCount (range b))
    (hlast : ∀ a ∈ l.getLast?, (range a).high = none) (hn : IsCount n)
    (hstart : ∃ a ∈ l.head?, (range a).low ≤ n) : ∃ a ∈ l, (range a).Contains n := by
  induction l with
  | nil =>
    obtain ⟨a, ha, -⟩ := hstart
    exact absurd ha (by simp)
  | cons a l ih =>
    obtain ⟨first, hfirst, hlow⟩ := hstart
    obtain rfl : a = first := Option.some.inj hfirst
    by_cases hin : (range a).Contains n
    · exact ⟨a, List.mem_cons_self, hin⟩
    · -- The range has an upper bound below `n`, so there is a next one, which starts by `n`.
      obtain ⟨high, hhigh, hlt⟩ : ∃ high ∈ (range a).high, high < n := by
        by_contra hnone
        refine hin ⟨hlow, fun high hhigh => Int.not_lt.mp fun hlt => ?_⟩
        exact hnone ⟨high, hhigh, hlt⟩
      cases l with
      | nil =>
        have hnone := hlast a rfl
        rw [hnone] at hhigh
        exact absurd hhigh (by simp)
      | cons b l =>
        obtain ⟨⟨high', hhigh', -, hnext⟩, hchain⟩ := List.isChain_cons_cons.mp hchain
        obtain rfl : high = high' := Option.mem_unique hhigh hhigh'
        obtain ⟨c, hc, hcontains⟩ := ih hchain hlast ⟨b, rfl, hnext n hn hlt⟩
        exact ⟨c, List.mem_cons_of_mem _ hc, hcontains⟩

end Ranges
