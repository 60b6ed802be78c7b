import Frely.Lib.Checked
import Mathlib.Data.List.Nodup
import Mathlib.Data.List.Perm.Basic

/-!
# Checked loops over unordered data

Programs keep sets and maps as sequences, and loop over them in whatever order these have.
`Alike R x y` says that two computations either both return, with results that `R` relates, or both
stop; which of several errors they stop with is left open.  It goes through a computation bind by
bind (`Alike.bind`).

`collect` is a loop that appends what every step returns, `checkDistinct` one that also checks that
no key comes twice.  Neither depends on the order of its list: `alike_collect_perm`,
`alike_collect`, `alike_checkDistinct`.
-/

namespace Checked

variable {ε ε' α β γ δ κ : Type}

/-- Both computations return, with results that `R` relates, or both stop. -/
def Alike (R : α → β → Prop) : Except ε α → Except ε' β → Prop
  | .ok a, .ok b => R a b
  | .error _, .error _ => True
  | _, _ => False

variable {l : List α}

section Alike

variable {R : α → β → Prop} {S : γ → δ → Prop}

variable {x : Except ε α} {y : Except ε' β}

/-- What the first parts returned may be used for the second ones. -/
theorem Alike.bind_ok {f : α → Except ε γ} {g : β → Except ε' δ} (h : Alike R x y)
    (hf : ∀ a b, x = .ok a → y = .ok b → R a b → Alike S (f a) (g b)) :
    Alike S (x >>= f) (y >>= g) := by
  cases x with
  | ok a =>
    cases y with
    | ok b => exact hf a b rfl rfl h
    | error e => exact h.elim
  | error e =>
    cases y with
    | ok b => exact h.elim
    | error e' => trivial

theorem Alike.bind {f : α → Except ε γ} {g : β → Except ε' δ} (h : Alike R x y)
    (hf : ∀ a b, R a b → Alike S (f a) (g b)) : Alike S (x >>= f) (y >>= g) :=
  h.bind_ok fun a b _ _ hR => hf a b hR

theorem Alike.mono {R' : α → β → Prop} (h : Alike R x y) (hR : ∀ a b, R a b → R' a b) :
    Alike R' x y := by
  cases x with
  | ok a =>
    cases y with
    | ok b => exact hR a b h
    | error e => exact h
  | error e => cases y <;> exact h

theorem alike_refl (x : Except ε α) : Alike Eq x x := by
  cases x with
  | ok a => rfl
  | error e => trivial

theorem Alike.trans {y z : Except ε α} {T : α → α → Prop} (hT : ∀ a b c, T a b → T b c → T a c)
    (hxy : Alike T x y) (hyz : Alike T y z) : Alike T x z := by
  cases x <;> cases y <;> cases z <;> first | exact hxy.elim | exact hyz.elim | trivial | skip
  exact hT _ _ _ hxy hyz

theorem alike_of_iff {x y : Except ε Unit} (h : x = .ok () ↔ y = .ok ()) : Alike Eq x y := by
  cases x with
  | ok u => rw [h.mp rfl]; rfl
  | error e =>
    cases y with
    | ok u => cases h.mpr rfl
    | error e' => trivial

/-- Computations that return a given result under a condition. -/
theorem alike_of_eq_ok {p q : Prop} {a : α} {b : β} (hx : ∀ r, x = .ok r ↔ p ∧ r = a)
    (hy : ∀ r, y = .ok r ↔ q ∧ r = b) (hpq : p ↔ q) (hR : R a b) : Alike R x y := by
  by_cases hp : p
  · rw [(hx a).mpr ⟨hp, rfl⟩, (hy b).mpr ⟨hpq.mp hp, rfl⟩]
    exact hR
  · cases hxr : x with
    | ok r => exact absurd ((hx r).mp hxr).1 hp
    | error e =>
      cases hyr : y with
      | ok r => exact absurd (hpq.mpr ((hy r).mp hyr).1) hp
      | error e' => trivial

theorem alike_rejectIf {p q : Prop} [Decidable p] [Decidable q] {e e' : ε} (h : p ↔ q) :
    Alike Eq (rejectIf p e) (rejectIf q e') :=
  alike_of_iff (by rw [rejectIf_eq_ok, rejectIf_eq_ok, h])

theorem Alike.toOption_eq {y : Except ε α} (h : Alike Eq x y) : x.toOption = y.toOption := by
  cases x with
  | ok a =>
    cases y with
    | ok b => exact congrArg some h
    | error e => exact h.elim
  | error e =>
    cases y with
    | ok b => exact h.elim
    | error e' => rfl

/-- A computation that returns makes one that is alike return. -/
theorem Alike.exists_ok {a : α} (h : Alike R x y) (hx : x = .ok a) : ∃ b, y = .ok b ∧ R a b := by
  subst hx
  cases y with
  | ok b => exact ⟨b, rfl, h⟩
  | error e => exact h.elim

theorem alike_mapM {f g : α → Except ε β} (h : ∀ a ∈ l, Alike Eq (f a) (g a)) :
    Alike Eq (l.mapM f) (l.mapM g) := by
  induction l with
  | nil => rfl
  | cons a l ih =>
    rw [List.mapM_cons, List.mapM_cons]
    refine (h a List.mem_cons_self).bind fun b c hbc => ?_
    refine (ih fun d hd => h d (List.mem_cons_of_mem _ hd)).bind fun bs cs hbs => ?_
    rw [hbc, hbs]
    exact alike_refl _

theorem alike_forAll {f g : α → Except ε Unit} {m : List α} (hmem : ∀ a, a ∈ l ↔ a ∈ m)
    (h : ∀ a ∈ l, Alike Eq (f a) (g a)) : Alike Eq (forAll l f) (forAll m g) := by
  have hiff : ∀ a ∈ l, f a = .ok () ↔ g a = .ok () := by
    intro a ha
    have halike := h a ha
    cases hf : f a <;> cases hg : g a <;> simp_all [Alike]
  apply alike_of_iff
  rw [forAll_eq_ok, forAll_eq_ok]
  constructor
  · intro hl a ha
    exact (hiff a ((hmem a).mpr ha)).mp (hl a ((hmem a).mpr ha))
  · intro hm a ha
    exact (hiff a ha).mpr (hm a ((hmem a).mp ha))

/-- What the elements of a mapped sequence keep. -/
theorem map_of_mapM_eq_ok {f : α → Except ε β} {g : β → γ} {k : α → γ}
    (hf : ∀ a b, f a = .ok b → g b = k a) {bs : List β} (h : l.mapM f = .ok bs) :
    bs.map g = l.map k := by
  induction l generalizing bs with
  | nil =>
    cases h
    rfl
  | cons a l ih =>
    simp only [List.mapM_cons, bind_eq_ok, pure_eq_ok, Except.ok.injEq] at h
    obtain ⟨b, hb, cs, hcs, rfl⟩ := h
    rw [List.map_cons, List.map_cons, hf a b hb, ih hcs]

end Alike

/-! ### Loops that collect -/

/-- What the steps return, one after the other. -/
def collect (f : α → Except ε (List β)) : List α → Except ε (List β)
  | [] => .ok []
  | a :: l => do
    let bs ← f a
    let cs ← collect f l
    return bs ++ cs

section Collect

variable {f g : α → Except ε (List β)} {l m : List α} {bs : List β}

theorem collect_cons_eq_ok {a : α} : collect f (a :: l) = .ok bs ↔
    ∃ cs, f a = .ok cs ∧ ∃ ds, collect f l = .ok ds ∧ cs ++ ds = bs := by
  simp [collect]

theorem mem_of_collect (h : collect f l = .ok bs) (b : β) :
    b ∈ bs ↔ ∃ a ∈ l, ∃ cs, f a = .ok cs ∧ b ∈ cs := by
  induction l generalizing bs with
  | nil =>
    cases h
    simp
  | cons a l ih =>
    obtain ⟨cs, hcs, ds, hds, rfl⟩ := collect_cons_eq_ok.mp h
    rw [List.mem_append, ih hds, List.exists_mem_cons_iff]
    refine or_congr ?_ Iff.rfl
    constructor
    · intro hb
      exact ⟨cs, hcs, hb⟩
    · rintro ⟨cs', hcs', hb⟩
      rw [hcs] at hcs'
      obtain rfl := Except.ok.inj hcs'
      exact hb

theorem exists_of_collect (h : collect f l = .ok bs) : ∀ a ∈ l, ∃ cs, f a = .ok cs := by
  induction l generalizing bs with
  | nil => simp
  | cons a l ih =>
    obtain ⟨cs, hcs, ds, hds, -⟩ := collect_cons_eq_ok.mp h
    intro b hb
    rcases List.mem_cons.mp hb with rfl | hb
    · exact ⟨cs, hcs⟩
    · exact ih hds b hb

theorem exists_collect (h : ∀ a ∈ l, ∃ cs, f a = .ok cs) : ∃ bs, collect f l = .ok bs := by
  induction l with
  | nil => exact ⟨[], rfl⟩
  | cons a l ih =>
    obtain ⟨cs, hcs⟩ := h a List.mem_cons_self
    obtain ⟨ds, hds⟩ := ih fun b hb => h b (List.mem_cons_of_mem _ hb)
    exact ⟨cs ++ ds, collect_cons_eq_ok.mpr ⟨cs, hcs, ds, hds, rfl⟩⟩

/-- What is collected, as far as every step determines it. -/
theorem flatMap_of_collect {g : β → List γ} {k : α → List γ}
    (h : ∀ a ∈ l, ∀ cs, f a = .ok cs → cs.flatMap g = k a) (hl : collect f l = .ok bs) :
    bs.flatMap g = l.flatMap k := by
  induction l generalizing bs with
  | nil =>
    cases hl
    rfl
  | cons a l ih =>
    obtain ⟨cs, hcs, ds, hds, rfl⟩ := collect_cons_eq_ok.mp hl
    rw [List.flatMap_cons, List.flatMap_append, h a List.mem_cons_self cs hcs,
      ih (fun b hb => h b (List.mem_cons_of_mem _ hb)) hds]

/-- The order of the list only changes the order of what is collected. -/
theorem alike_collect_perm (h : l.Perm m) : Alike List.Perm (collect f l) (collect f m) := by
  induction h with
  | nil => exact List.Perm.refl _
  | cons a _ ih =>
    refine (alike_refl (f a)).bind fun bs cs hbs => ih.bind fun ds es hds => ?_
    rw [hbs]
    exact hds.append_left _
  | swap a b l =>
    unfold collect collect
    cases f a with
    | error e => cases f b <;> trivial
    | ok bs =>
      cases f b with
      | error e => trivial
      | ok cs =>
        cases collect f l with
        | error e => trivial
        | ok ds =>
          show (cs ++ (bs ++ ds)).Perm (bs ++ (cs ++ ds))
          rw [← List.append_assoc, ← List.append_assoc]
          exact List.perm_append_comm.append_right _
  | trans _ _ ih₁ ih₂ => exact ih₁.trans (fun _ _ _ => List.Perm.trans) ih₂

/-- Two lists with the same members. -/
def SameMembers (l m : List β) : Prop := ∀ b, b ∈ l ↔ b ∈ m

theorem alike_collect (hmem : ∀ a, a ∈ l ↔ a ∈ m)
    (h : ∀ a ∈ l, Alike SameMembers (f a) (g a)) :
    Alike SameMembers (collect f l) (collect g m) := by
  have hsame : ∀ {a}, a ∈ l → ∀ {cs}, f a = .ok cs → ∃ ds, g a = .ok ds ∧ SameMembers cs ds :=
    fun ha _ hcs => (h _ ha).exists_ok hcs
  have hback : ∀ {a}, a ∈ l → ∀ {ds}, g a = .ok ds → ∃ cs, f a = .ok cs ∧ SameMembers cs ds := by
    intro a ha ds hds
    have halike := h a ha
    rw [hds] at halike
    cases hf : f a with
    | ok cs => exact ⟨cs, rfl, by rwa [hf] at halike⟩
    | error e => rw [hf] at halike; exact halike.elim
  cases hl : collect f l with
  | ok bs =>
    obtain ⟨cs, hcs⟩ : ∃ cs, collect g m = .ok cs := exists_collect fun a ha => by
      obtain ⟨bs, hbs⟩ := exists_of_collect hl a ((hmem a).mpr ha)
      obtain ⟨cs, hcs, -⟩ := hsame ((hmem a).mpr ha) hbs
      exact ⟨cs, hcs⟩
    rw [hcs]
    intro b
    rw [mem_of_collect hl, mem_of_collect hcs]
    constructor
    · rintro ⟨a, ha, es, hes, hb⟩
      obtain ⟨ds, hds, hsame⟩ := hsame ha hes
      exact ⟨a, (hmem a).mp ha, ds, hds, (hsame b).mp hb⟩
    · rintro ⟨a, ha, es, hes, hb⟩
      obtain ⟨ds, hds, hsame⟩ := hback ((hmem a).mpr ha) hes
      exact ⟨a, (hmem a).mpr ha, ds, hds, (hsame b).mpr hb⟩
  | error e =>
    cases hm : collect g m with
    | error e' => trivial
    | ok cs =>
      obtain ⟨bs, hbs⟩ : ∃ bs, collect f l = .ok bs := exists_collect fun a ha => by
        obtain ⟨ds, hds⟩ := exists_of_collect hm a ((hmem a).mp ha)
        obtain ⟨es, hes, -⟩ := hback ha hds
        exact ⟨es, hes⟩
      rw [hl] at hbs
      cases hbs

end Collect

/-! ### Loops that check for duplicates -/

section Distinct

variable [DecidableEq κ]

/-- Checks every element, and that its key did not come before; `seen` are the keys so far. -/
def checkDistinct (key : α → κ) (before after : α → Except ε Unit) (duplicate : α → ε) :
    List κ → List α → Except ε Unit
  | _, [] => .ok ()
  | seen, a :: l => do
    before a
    rejectIf (key a ∈ seen) (duplicate a)
    after a
    checkDistinct key before after duplicate (key a :: seen) l

variable {key : α → κ} {before after : α → Except ε Unit} {duplicate : α → ε}

theorem checkDistinct_eq_ok {seen : List κ} :
    checkDistinct key before after duplicate seen l = .ok () ↔
      (∀ a ∈ l, before a = .ok () ∧ after a = .ok ()) ∧ (l.map key).Nodup ∧
        ∀ a ∈ l, key a ∉ seen := by
  induction l generalizing seen with
  | nil => simp [checkDistinct]
  | cons a l ih =>
    simp only [checkDistinct, bind_eq_ok, rejectIf_eq_ok, ih]
    rw [List.forall_mem_cons, List.forall_mem_cons, List.map_cons, List.nodup_cons]
    constructor
    · rintro ⟨_, hbefore, _, hnew, _, hafter, hl, hnodup, hseen⟩
      refine ⟨⟨⟨hbefore, hafter⟩, hl⟩, ⟨fun hmem => ?_, hnodup⟩, hnew, fun b hb hmem => ?_⟩
      · obtain ⟨b, hb, heq⟩ := List.mem_map.mp hmem
        exact hseen b hb (heq ▸ List.mem_cons_self)
      · exact hseen b hb (List.mem_cons_of_mem _ hmem)
    · rintro ⟨⟨⟨hbefore, hafter⟩, hl⟩, ⟨hdistinct, hnodup⟩, hnew, hseen⟩
      refine ⟨(), hbefore, (), hnew, (), hafter, hl, hnodup, fun b hb hmem => ?_⟩
      rcases List.mem_cons.mp hmem with heq | hmem
      · exact hdistinct (heq ▸ List.mem_map_of_mem hb)
      · exact hseen b hb hmem

end Distinct

end Checked
