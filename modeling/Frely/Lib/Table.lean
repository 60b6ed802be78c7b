import Mathlib.Algebra.Order.BigOperators.Group.List
import Mathlib.Algebra.Ring.Int.Defs
import Mathlib.Algebra.Ring.Nat
import Mathlib.Data.List.Nodup

/-!
# Keyed tables

A table of rows with a primary key: no two rows of a `Table` have the same key, so `find?` returns
the row of a key and every row is found under its own key.  `insert?` refuses a key that is taken,
`modify` rewrites the row of a key in place, `erase` removes it.

`sumOf` adds a weight over the rows; `sumOf_insert`, `sumOf_modify` and `sumOf_erase` say how each
operation changes such a sum, which is all that conservation proofs need.
-/

universe u v

/-- Rows of this type have a primary key. -/
class Keyed (ρ : Type u) (κ : outParam (Type v)) where
  key : ρ → κ

/-- Rows with pairwise different keys. -/
structure Table (ρ : Type u) {κ : Type v} [Keyed ρ κ] where
  rows : List ρ
  nodup : (rows.map Keyed.key).Nodup

namespace Table

variable {ρ : Type u} {κ : Type v} [Keyed ρ κ]

variable {t : Table ρ}

theorem ext_rows {s : Table ρ} (h : s.rows = t.rows) : s = t := by
  cases s
  cases t
  cases h
  rfl

instance : Membership ρ (Table ρ) where
  mem t row := row ∈ t.rows

variable {row : ρ}

theorem mem_rows : row ∈ t ↔ row ∈ t.rows := Iff.rfl

/-- Two rows with one key are the same row. -/
theorem eq_of_key_eq {r s : ρ} (hr : r ∈ t) (hs : s ∈ t) (h : Keyed.key r = Keyed.key s) : r = s :=
  List.inj_on_of_nodup_map t.nodup hr hs h

def empty : Table ρ := ⟨[], List.nodup_nil⟩

theorem not_mem_empty (row : ρ) : row ∉ (empty : Table ρ) := List.not_mem_nil

/-- Rewrites the row of a key. -/
def modify [DecidableEq κ] (t : Table ρ) (k : κ) (f : ρ → ρ)
    (hf : ∀ row, Keyed.key (f row) = Keyed.key row) : Table ρ where
  rows := t.rows.map fun row => if Keyed.key row = k then f row else row
  nodup := by
    have hkeys : (t.rows.map fun row => if Keyed.key row = k then f row else row).map Keyed.key =
        t.rows.map Keyed.key := by
      rw [List.map_map]
      apply List.map_congr_left
      intro row _
      simp only [Function.comp_apply]
      split_ifs
      · exact hf row
      · rfl
    rw [hkeys]
    exact t.nodup

/-- The rows that pass a test. -/
def filter (t : Table ρ) (p : ρ → Bool) : Table ρ where
  rows := t.rows.filter p
  nodup := t.nodup.sublist (List.filter_sublist.map _)

/-- Rewrites every row. -/
def updateAll (t : Table ρ) (f : ρ → ρ) (hf : ∀ row, Keyed.key (f row) = Keyed.key row) :
    Table ρ where
  rows := t.rows.map f
  nodup := by
    have hkeys : (t.rows.map f).map Keyed.key = t.rows.map Keyed.key := by
      rw [List.map_map]
      exact List.map_congr_left fun row _ => hf row
    rw [hkeys]
    exact t.nodup

variable {f : ρ → ρ} {other : ρ}

theorem mem_updateAll {hf : ∀ row, Keyed.key (f row) = Keyed.key row} :
    other ∈ t.updateAll f hf ↔ ∃ row ∈ t, f row = other :=
  List.mem_map

variable [DecidableEq κ]

def find? (t : Table ρ) (k : κ) : Option ρ :=
  t.rows.find? fun row => Keyed.key row = k

/-- Adds a row, unless its key is taken. -/
def insert? (t : Table ρ) (row : ρ) : Option (Table ρ) :=
  if h : Keyed.key row ∈ t.rows.map Keyed.key then none
  else some ⟨row :: t.rows, List.nodup_cons.mpr ⟨h, t.nodup⟩⟩

def erase (t : Table ρ) (k : κ) : Table ρ where
  rows := t.rows.filter fun row => Keyed.key row ≠ k
  nodup := t.nodup.sublist (List.filter_sublist.map _)

/-- Puts a row in the place of the one with its key. -/
def put (t : Table ρ) (row : ρ) : Table ρ where
  rows := row :: (t.erase (Keyed.key row)).rows
  nodup := by
    refine List.nodup_cons.mpr ⟨?_, (t.erase (Keyed.key row)).nodup⟩
    intro hmem
    obtain ⟨other, hother, hkey⟩ := List.mem_map.mp hmem
    have := (List.mem_filter.mp hother).2
    simp [hkey] at this

/-! ### Lookup -/

variable {k : κ}

/-- In a list of rows with different keys a key is found at its row only. -/
theorem find?_key_eq_some {α : Type u} {key : α → κ} {l : List α} (hnodup : (l.map key).Nodup)
    {row : α} : l.find? (fun r => key r = k) = some row ↔ row ∈ l ∧ key row = k := by
  constructor
  · intro h
    exact ⟨List.mem_of_find?_eq_some h, by simpa using List.find?_some h⟩
  · rintro ⟨hmem, rfl⟩
    obtain ⟨other, hother⟩ := Option.isSome_iff_exists.mp
      (List.find?_isSome.mpr ⟨row, hmem, by simp⟩ :
        (l.find? fun r => key r = key row).isSome)
    have hkey : key other = key row := by simpa using List.find?_some hother
    have hsame : other = row :=
      List.inj_on_of_nodup_map hnodup (List.mem_of_find?_eq_some hother) hmem hkey
    rw [← hsame] at hother ⊢
    exact hother

theorem find?_eq_some : t.find? k = some row ↔ row ∈ t ∧ Keyed.key row = k :=
  find?_key_eq_some t.nodup

theorem find?_eq_none : t.find? k = none ↔ ∀ row ∈ t, Keyed.key row ≠ k := by
  simp [find?, List.find?_eq_none, mem_rows]

theorem mem_of_find? (h : t.find? k = some row) : row ∈ t :=
  (find?_eq_some.mp h).1

theorem key_of_find? (h : t.find? k = some row) : Keyed.key row = k :=
  (find?_eq_some.mp h).2

theorem find?_of_mem (h : row ∈ t) : t.find? (Keyed.key row) = some row :=
  find?_eq_some.mpr ⟨h, rfl⟩

@[simp] theorem find?_empty (k : κ) : (empty : Table ρ).find? k = none := rfl

/-! ### What the operations do to the rows -/

variable {t' : Table ρ}

theorem insert?_eq_some :
    t.insert? row = some t' ↔ t.find? (Keyed.key row) = none ∧ t'.rows = row :: t.rows := by
  unfold insert?
  rw [find?_eq_none]
  constructor
  · intro h
    split_ifs at h with hmem
    cases h
    refine ⟨fun other hother hkey => hmem ?_, rfl⟩
    exact hkey ▸ List.mem_map_of_mem hother
  · rintro ⟨hfree, hrows⟩
    have hmem : Keyed.key row ∉ t.rows.map Keyed.key := by
      intro h
      obtain ⟨other, hother, hkey⟩ := List.mem_map.mp h
      exact hfree other hother hkey
    rw [dif_neg hmem]
    exact congrArg some (ext_rows hrows.symm)

theorem mem_insert (h : t.insert? row = some t') : other ∈ t' ↔ other = row ∨ other ∈ t := by
  rw [mem_rows, (insert?_eq_some.mp h).2, List.mem_cons]
  rfl

theorem find?_insert (h : t.insert? row = some t') (k : κ) :
    t'.find? k = if k = Keyed.key row then some row else t.find? k := by
  rw [find?, (insert?_eq_some.mp h).2, List.find?_cons]
  by_cases hk : k = Keyed.key row
  · simp [hk]
  · rw [if_neg hk, decide_eq_false (fun h' => hk h'.symm)]
    rfl

/-- A row that is there stays there when another one is added. -/
theorem find?_insert_of_some (h : t.insert? row = some t') (hfind : t.find? k = some other) :
    t'.find? k = some other := by
  rw [find?_insert h, if_neg, hfind]
  rintro rfl
  rw [(insert?_eq_some.mp h).1] at hfind
  cases hfind

theorem find?_insert_of_ne (h : t.insert? row = some t') (hk : k ≠ Keyed.key row) :
    t'.find? k = t.find? k := by
  rw [find?_insert h, if_neg hk]

theorem find?_insert_self (h : t.insert? row = some t') : t'.find? (Keyed.key row) = some row := by
  rw [find?_insert h, if_pos rfl]

theorem mem_modify {hf : ∀ row, Keyed.key (f row) = Keyed.key row} : other ∈ t.modify k f hf ↔
      ∃ row ∈ t, other = if Keyed.key row = k then f row else row := by
  simp only [mem_rows, modify, List.mem_map, eq_comm]

theorem find?_modify (t : Table ρ) (k : κ) (f : ρ → ρ)
    (hf : ∀ row, Keyed.key (f row) = Keyed.key row) (j : κ) :
    (t.modify k f hf).find? j = if j = k then (t.find? k).map f else t.find? j := by
  obtain ⟨rows, nodup⟩ := t
  simp only [find?, modify]
  clear nodup
  induction rows with
  | nil => simp
  | cons row rows ih =>
    rw [List.map_cons, List.find?_cons, List.find?_cons, List.find?_cons]
    have hkey : Keyed.key (if Keyed.key row = k then f row else row) = Keyed.key row := by
      split_ifs
      · exact hf row
      · rfl
    rw [hkey]
    by_cases hj : Keyed.key row = j
    · by_cases hk : Keyed.key row = k
      · subst hj
        simp [hk]
      · have hjk : j ≠ k := fun h => hk (hj.trans h)
        simp [hj, hjk]
    · rw [decide_eq_false hj]
      by_cases hjk : j = k
      · subst hjk
        simpa [hj] using ih
      · simpa [hjk] using ih

theorem find?_updateAll (t : Table ρ) (f : ρ → ρ)
    (hf : ∀ row, Keyed.key (f row) = Keyed.key row) (k : κ) :
    (t.updateAll f hf).find? k = (t.find? k).map f := by
  cases h : t.find? k with
  | none =>
    apply find?_eq_none.mpr
    intro other hother
    obtain ⟨row, hrow, rfl⟩ := mem_updateAll.mp hother
    rw [hf]
    exact find?_eq_none.mp h row hrow
  | some row =>
    obtain ⟨hrow, rfl⟩ := find?_eq_some.mp h
    exact find?_eq_some.mpr ⟨mem_updateAll.mpr ⟨row, hrow, rfl⟩, hf row⟩

theorem mem_erase : row ∈ t.erase k ↔ row ∈ t ∧ Keyed.key row ≠ k := by
  simp [mem_rows, erase]

theorem find?_erase (t : Table ρ) (k j : κ) :
    (t.erase k).find? j = if j = k then none else t.find? j := by
  split_ifs with hj
  · subst hj
    exact find?_eq_none.mpr fun row hrow => (mem_erase.mp hrow).2
  · cases h : t.find? j with
    | none =>
      exact find?_eq_none.mpr fun row hrow => find?_eq_none.mp h row (mem_erase.mp hrow).1
    | some row =>
      have hkey := key_of_find? h
      exact find?_eq_some.mpr ⟨mem_erase.mpr ⟨mem_of_find? h, hkey ▸ hj⟩, hkey⟩

theorem find?_put (t : Table ρ) (row : ρ) (j : κ) :
    (t.put row).find? j = if j = Keyed.key row then some row else t.find? j := by
  rw [find?, put, List.find?_cons]
  by_cases hj : j = Keyed.key row
  · simp [hj]
  · rw [if_neg hj, decide_eq_false (fun h => hj h.symm)]
    have := find?_erase t (Keyed.key row) j
    rwa [if_neg hj] at this

theorem find?_put_of_key (t : Table ρ) (hkey : Keyed.key row = k) (j : κ) :
    (t.put row).find? j = if j = k then some row else t.find? j := by
  subst hkey
  exact find?_put t row j

/-- Putting a row that is there changes no lookup. -/
theorem find?_put_of_mem (h : t.find? k = some row) (j : κ) : (t.put row).find? j = t.find? j := by
  rw [find?_put_of_key t (key_of_find? h)]
  split_ifs with hj
  · rw [hj, h]
  · rfl

/-- Erasing a key that is not there changes nothing. -/
theorem erase_of_find?_none (h : t.find? k = none) : t.erase k = t := by
  apply ext_rows
  apply List.filter_eq_self.mpr
  intro row hrow
  exact decide_eq_true (find?_eq_none.mp h row hrow)

/-! ### Setting one row -/

/-- `t'` is `t` with `row` under its key. -/
def Sets (t : Table ρ) (row : ρ) (t' : Table ρ) : Prop :=
  ∀ k, t'.find? k = if k = Keyed.key row then some row else t.find? k

theorem sets_insert (h : t.insert? row = some t') : t.Sets row t' :=
  find?_insert h

theorem sets_put (t : Table ρ) (row : ρ) : t.Sets row (t.put row) := find?_put t row

theorem sets_modify (h : t.find? k = some row) (f : ρ → ρ)
    (hf : ∀ row, Keyed.key (f row) = Keyed.key row) : t.Sets (f row) (t.modify k f hf) := by
  intro j
  rw [find?_modify, hf, key_of_find? h, h]
  rfl

namespace Sets

variable {t t' t'' : Table ρ} {row row' other : ρ}

theorem find?_self (h : t.Sets row t') : t'.find? (Keyed.key row) = some row := by
  rw [h, if_pos rfl]

theorem find?_of_ne (h : t.Sets row t') (hk : k ≠ Keyed.key row) : t'.find? k = t.find? k := by
  rw [h, if_neg hk]

theorem mem_iff (h : t.Sets row t') :
    other ∈ t' ↔ other = row ∨ other ∈ t ∧ Keyed.key other ≠ Keyed.key row := by
  constructor
  · intro hother
    have hfind := find?_of_mem hother
    by_cases hkey : Keyed.key other = Keyed.key row
    · rw [hkey, h.find?_self] at hfind
      exact .inl (Option.some.inj hfind).symm
    · rw [h.find?_of_ne hkey] at hfind
      exact .inr ⟨mem_of_find? hfind, hkey⟩
  · rintro (rfl | ⟨hother, hkey⟩)
    · exact mem_of_find? h.find?_self
    · have hfind := find?_of_mem hother
      rw [← h.find?_of_ne hkey] at hfind
      exact mem_of_find? hfind

/-- What was found before is still found, and has the property of the row it was set to. -/
theorem exists_find? (h : t.Sets row t') {old : ρ} (hfind : t.find? (Keyed.key row) = some old)
    {P : ρ → Prop} (hP : P old → P row) (hk : ∃ other, t.find? k = some other ∧ P other) :
    ∃ other, t'.find? k = some other ∧ P other := by
  obtain ⟨other, hother, hprop⟩ := hk
  by_cases hkey : k = Keyed.key row
  · subst hkey
    cases hfind.symm.trans hother
    exact ⟨row, h.find?_self, hP hprop⟩
  · exact ⟨other, (h.find?_of_ne hkey).trans hother, hprop⟩

/-- Setting a row twice leaves the second one. -/
theorem trans (h : t.Sets row t') (h' : t'.Sets row' t'') (hkey : Keyed.key row' = Keyed.key row) :
    t.Sets row' t'' := by
  intro k
  rw [h' k, h k, hkey]
  split_ifs <;> rfl

end Sets

/-! ### Sums over a table -/

omit [DecidableEq κ] in
/-- The total weight of the rows. -/
def sumOf (w : ρ → Int) (t : Table ρ) : Int := (t.rows.map w).sum

omit [DecidableEq κ] in
@[simp] theorem sumOf_empty (w : ρ → Int) : sumOf w (empty : Table ρ) = 0 := rfl

theorem sumOf_insert (h : t.insert? row = some t') (w : ρ → Int) :
    sumOf w t' = w row + sumOf w t := by
  rw [sumOf, (insert?_eq_some.mp h).2, List.map_cons, List.sum_cons]
  rfl

omit [DecidableEq κ] in
/-- Sums of weights that agree on the rows are equal. -/
theorem sumOf_congr {t : Table ρ} {w w' : ρ → Int} (h : ∀ row ∈ t, w row = w' row) :
    sumOf w t = sumOf w' t :=
  congrArg List.sum (List.map_congr_left h)

omit [DecidableEq κ] in
theorem sumOf_le {t : Table ρ} {w w' : ρ → Int} (h : ∀ row ∈ t, w row ≤ w' row) :
    sumOf w t ≤ sumOf w' t :=
  List.sum_le_sum h

omit [DecidableEq κ] in
theorem sumOf_nonneg {t : Table ρ} {w : ρ → Int} (h : ∀ row ∈ t, 0 ≤ w row) : 0 ≤ sumOf w t :=
  List.sum_nonneg fun x hx => by
    obtain ⟨row, hrow, rfl⟩ := List.mem_map.mp hx
    exact h row hrow

/-- Without the row of a key, a sum loses that row's weight. -/
theorem sumOf_erase (h : t.find? k = some row) (w : ρ → Int) :
    sumOf w (t.erase k) = sumOf w t - w row := by
  obtain ⟨hmem, rfl⟩ := find?_eq_some.mp h
  obtain ⟨rows, nodup⟩ := t
  simp only [mem_rows] at hmem
  simp only [sumOf, erase]
  clear h
  induction rows with
  | nil => exact absurd hmem List.not_mem_nil
  | cons head rows ih =>
    rw [List.map_cons, List.nodup_cons] at nodup
    rcases List.mem_cons.mp hmem with rfl | hrest
    · have hrows : rows.filter (fun other => Keyed.key other ≠ Keyed.key row) = rows := by
        apply List.filter_eq_self.mpr
        intro other hother
        have : Keyed.key other ≠ Keyed.key row := fun hkey =>
          nodup.1 (hkey ▸ List.mem_map_of_mem hother)
        simpa using this
      rw [List.filter_cons_of_neg (by simp), hrows, List.map_cons, List.sum_cons]
      omega
    · have hne : Keyed.key head ≠ Keyed.key row := fun hkey =>
        nodup.1 (hkey ▸ List.mem_map_of_mem hrest)
      rw [List.filter_cons_of_pos (by simpa using hne), List.map_cons, List.sum_cons,
        List.map_cons, List.sum_cons, ih nodup.2 hrest]
      omega

theorem sumOf_modify {hf : ∀ row, Keyed.key (f row) = Keyed.key row} (h : t.find? k = some row)
    (w : ρ → Int) : sumOf w (t.modify k f hf) = sumOf w t - w row + w (f row) := by
  have herase := sumOf_erase h w
  -- outside the key nothing changes, so both sides lose the same rows
  have hfind : (t.modify k f hf).find? k = some (f row) := by
    rw [find?_modify, if_pos rfl, h]
    rfl
  have hsame : (t.modify k f hf).erase k = t.erase k := by
    apply ext_rows
    simp only [erase, modify]
    induction t.rows with
    | nil => rfl
    | cons head rows ih =>
      rw [List.map_cons, List.filter_cons, List.filter_cons, ih]
      by_cases hkey : Keyed.key head = k
      · simp [hkey, hf]
      · simp [hkey]
  have hnew := sumOf_erase hfind w
  rw [hsame] at hnew
  omega

/-- Rewriting a row under a key that is not there changes nothing. -/
theorem modify_of_find?_none {t : Table ρ} {k : κ} {f : ρ → ρ}
    {hf : ∀ row, Keyed.key (f row) = Keyed.key row} (h : t.find? k = none) :
    t.modify k f hf = t := by
  have hrows : ∀ row ∈ t.rows, (if Keyed.key row = k then f row else row) = id row := by
    intro row hrow
    exact if_neg (find?_eq_none.mp h row hrow)
  apply ext_rows
  simp only [modify]
  rw [List.map_congr_left hrows, List.map_id]

theorem sumOf_erase_getD (t : Table ρ) (k : κ) (w : ρ → Int) :
    sumOf w (t.erase k) = sumOf w t - ((t.find? k).map w).getD 0 := by
  cases hfind : t.find? k with
  | none =>
    rw [erase_of_find?_none hfind]
    exact (Int.sub_zero _).symm
  | some row => exact sumOf_erase hfind w

/-- A row that is rewritten to weigh nothing counts as erased. -/
theorem sumOf_modify_zero {hf : ∀ row, Keyed.key (f row) = Keyed.key row} {w : ρ → Int}
    (hzero : ∀ row, w (f row) = 0) :
    sumOf w (t.modify k f hf) = sumOf w t - ((t.find? k).map w).getD 0 := by
  cases hfind : t.find? k with
  | none =>
    rw [modify_of_find?_none hfind]
    exact (Int.sub_zero _).symm
  | some row =>
    rw [sumOf_modify hfind, hzero, Int.add_zero]
    rfl

/-- One row weighs at most all rows together. -/
theorem le_sumOf (h : t.find? k = some row) {w : ρ → Int} (hw : ∀ row ∈ t, 0 ≤ w row) :
    w row ≤ sumOf w t := by
  have hrest : 0 ≤ sumOf w (t.erase k) :=
    sumOf_nonneg fun other hother => hw other (mem_erase.mp hother).1
  rw [sumOf_erase h] at hrest
  omega

/-- What the rows weigh that one table has and an earlier one lacks, where they weigh something. -/
def excess (old new : Table ρ) (w : ρ → Int) : Int :=
  sumOf (fun row => if (old.find? (Keyed.key row)).isNone then max 0 (w row) else 0) new

private theorem excessPart_nonneg (old : Table ρ) (w : ρ → Int) (row : ρ) :
    0 ≤ if (old.find? (Keyed.key row)).isNone then max 0 (w row) else 0 := by
  split_ifs
  · exact le_max_left _ _
  · exact le_refl _

theorem excess_nonneg (old new : Table ρ) (w : ρ → Int) : 0 ≤ excess old new w :=
  sumOf_nonneg fun row _ => excessPart_nonneg old w row

theorem le_excess {old new : Table ρ} (h : old.insert? row = some new) (w : ρ → Int) :
    w row ≤ excess old new w := by
  have hpart := le_sumOf (find?_insert_self h) fun other _ => excessPart_nonneg old w other
  rw [(insert?_eq_some.mp h).1, if_pos Option.isNone_none] at hpart
  exact (le_max_right _ _).trans hpart

end Table
