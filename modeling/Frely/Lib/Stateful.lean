import Frely.Lib.Checked

/-!
# Checked computations with a state

Programs that read and change a state and stop at the first failed check.  As in `Checked`, the
lemmas turn "the program returned" into what its steps returned, with the states in between:
`run_bind`, `check_eq_ok`, `change_eq_ok`, and `traverse_eq_ok` for a loop over a list.  `Keeps` is
what every run keeps, and `Returns` says that every run returns, with a rule for each way to build a
program.  `RunAlike` relates two programs that end alike, except for errors that do not count.
-/

namespace Stateful

variable {σ ε α β : Type}

abbrev Program (σ ε : Type) := StateT σ (Except ε)

/-- A check that does not look at the state. -/
def check (result : Except ε α) : Program σ ε α := fun s => result.map fun a => (a, s)

/-- A step that changes the state, or fails. -/
def change (f : σ → Except ε σ) : Program σ ε Unit := fun s => (f s).map fun s' => ((), s')

/-- A loop over a list that collects its results. -/
def traverse (f : α → Program σ ε β) : List α → Program σ ε (List β)
  | [] => pure []
  | a :: l => do
    let b ← f a
    let bs ← traverse f l
    return b :: bs

variable {s s' : σ} {a : α}

theorem run_pure {b : α} : (pure a : Program σ ε α) s = .ok (b, s') ↔ b = a ∧ s' = s := by
  change Except.ok (a, s) = .ok (b, s') ↔ _
  simp [eq_comm]

variable {f : α → Program σ ε β} {x : Program σ ε α} {b : β}

theorem run_bind {s'' : σ} :
    (x >>= f) s = .ok (b, s'') ↔ ∃ a s', x s = .ok (a, s') ∧ f a s' = .ok (b, s'') := by
  change (x s >>= fun p => f p.1 p.2) = .ok (b, s'') ↔ _
  rw [Checked.bind_eq_ok]
  simp

variable {result : Except ε α}

theorem check_eq_ok : check result s = .ok (a, s') ↔ result = .ok a ∧ s' = s := by
  unfold check
  cases result <;> simp [Except.map, eq_comm]

theorem change_eq_ok {f : σ → Except ε σ} {u : Unit} : change f s = .ok (u, s') ↔ f s = .ok s' := by
  unfold change
  cases f s <;> simp [Except.map]

theorem run_check_bind :
    (check result >>= f) s = .ok (b, s') ↔ ∃ a, result = .ok a ∧ f a s = .ok (b, s') := by
  rw [run_bind]
  constructor
  · rintro ⟨a, s₁, hcheck, hrest⟩
    obtain ⟨hresult, rfl⟩ := check_eq_ok.mp hcheck
    exact ⟨a, hresult, hrest⟩
  · rintro ⟨a, hresult, hrest⟩
    exact ⟨a, s, check_eq_ok.mpr ⟨hresult, rfl⟩, hrest⟩

variable {e : ε}

theorem run_bind_error (h : (x >>= f) s = .error e) :
    x s = .error e ∨ ∃ a s', x s = .ok (a, s') ∧ f a s' = .error e := by
  change (x s >>= fun p => f p.1 p.2) = .error e at h
  rcases Checked.bind_eq_error.mp h with h | ⟨⟨a, s'⟩, hx, hf⟩
  · exact .inl h
  · exact .inr ⟨a, s', hx, hf⟩

theorem check_eq_error (h : check result s = .error e) : result = .error e := by
  unfold check at h
  cases result with
  | error e' => exact congrArg Except.error (Except.error.inj h)
  | ok a => cases h

theorem change_eq_error {f : σ → Except ε σ} (h : change f s = .error e) : f s = .error e := by
  unfold change at h
  cases hf : f s with
  | error e' =>
    rw [hf] at h
    exact congrArg Except.error (Except.error.inj h)
  | ok s' =>
    rw [hf] at h
    cases h

/-- A loop that returned: each of its results is the one of a round. -/
theorem traverse_eq_ok {f : α → Program σ ε β} {l : List α} {bs : List β} {s s' : σ}
    (h : traverse f l s = .ok (bs, s')) :
    List.Forall₂ (fun a b => ∃ s₁ s₂, f a s₁ = .ok (b, s₂)) l bs := by
  induction l generalizing bs s with
  | nil =>
    obtain ⟨rfl, -⟩ := run_pure.mp h
    exact .nil
  | cons a l ih =>
    obtain ⟨b, s₁, ha, h⟩ := run_bind.mp h
    obtain ⟨rest, s₂, hl, h⟩ := run_bind.mp h
    obtain ⟨rfl, rfl⟩ := run_pure.mp h
    exact .cons ⟨s, s₁, ha⟩ (ih hl)

variable {l : List α}

/-- A loop that failed: one of its rounds did. -/
theorem traverse_eq_error (h : traverse f l s = .error e) : ∃ a ∈ l, ∃ s', f a s' = .error e := by
  induction l generalizing s with
  | nil => cases h
  | cons a l ih =>
    rcases run_bind_error h with h | ⟨b, s₁, -, h⟩
    · exact ⟨a, List.mem_cons_self, s, h⟩
    rcases run_bind_error h with h | ⟨bs, s₂, -, h⟩
    · obtain ⟨a', ha', hfail⟩ := ih h
      exact ⟨a', List.mem_cons_of_mem _ ha', hfail⟩
    · cases h

/-- Two lists that agree element by element: every element of the second has one of the first. -/
theorem exists_of_forall₂ {R : α → β → Prop} {bs : List β} (h : List.Forall₂ R l bs) (hb : b ∈ bs) :
    ∃ a ∈ l, R a b := by
  induction h with
  | nil => cases hb
  | @cons a b' l bs hab _ ih =>
    obtain rfl | hb := List.mem_cons.mp hb
    · exact ⟨a, List.mem_cons_self, hab⟩
    · obtain ⟨a', ha', hR⟩ := ih hb
      exact ⟨a', List.mem_cons_of_mem _ ha', hR⟩

theorem exists_right_of_forall₂ {R : α → β → Prop} {bs : List β} (h : List.Forall₂ R l bs)
    (ha : a ∈ l) : ∃ b ∈ bs, R a b := by
  induction h with
  | nil => cases ha
  | @cons a' b l bs hab _ ih =>
    obtain rfl | ha := List.mem_cons.mp ha
    · exact ⟨b, List.mem_cons_self, hab⟩
    · obtain ⟨b', hb', hR⟩ := ih ha
      exact ⟨b', List.mem_cons_of_mem _ hb', hR⟩

/-! ### What every run keeps -/

/-- Every run that returns keeps `P`. -/
def Keeps (P : σ → Prop) (x : Program σ ε α) : Prop :=
  ∀ ⦃s a s'⦄, x s = .ok (a, s') → P s → P s'

variable {P : σ → Prop}

theorem keeps_pure (a : α) : Keeps P (pure a : Program σ ε α) := by
  intro s b s' h hs
  obtain ⟨-, rfl⟩ := run_pure.mp h
  exact hs

theorem keeps_check (result : Except ε α) : Keeps P (check result : Program σ ε α) := by
  intro s a s' h hs
  obtain ⟨-, rfl⟩ := check_eq_ok.mp h
  exact hs

theorem keeps_change {f : σ → Except ε σ} (hf : ∀ ⦃s s'⦄, f s = .ok s' → P s → P s') :
    Keeps P (change f) := by
  intro s u s' h hs
  exact hf (change_eq_ok.mp h) hs

theorem Keeps.bind (hx : Keeps P x) (hf : ∀ a, Keeps P (f a)) : Keeps P (x >>= f) := by
  intro s b s'' h hs
  obtain ⟨a, s', ha, hrest⟩ := run_bind.mp h
  exact hf a hrest (hx ha hs)

theorem keeps_traverse (hf : ∀ a, Keeps P (f a)) (l : List α) : Keeps P (traverse f l) := by
  induction l with
  | nil => exact keeps_pure []
  | cons a l ih => exact (hf a).bind fun b => ih.bind fun bs => keeps_pure (b :: bs)

/-! ### What every run returns -/

/-- From a state of `P` the program returns `a`, in a state of `P`. -/
def Returns (P : σ → Prop) (x : Program σ ε α) (a : α) : Prop :=
  ∀ s, P s → ∃ s', x s = .ok (a, s') ∧ P s'

theorem returns_pure (a : α) : Returns P (pure a : Program σ ε α) a :=
  fun s hs => ⟨s, rfl, hs⟩

theorem returns_check (h : result = .ok a) : Returns P (check result : Program σ ε α) a :=
  fun s hs => ⟨s, check_eq_ok.mpr ⟨h, rfl⟩, hs⟩

theorem returns_change {f : σ → Except ε σ} (hf : ∀ s, P s → ∃ s', f s = .ok s' ∧ P s') :
    Returns P (change f) () := by
  intro s hs
  obtain ⟨s', hchange, hs'⟩ := hf s hs
  exact ⟨s', change_eq_ok.mpr hchange, hs'⟩

theorem Returns.bind (hx : Returns P x a) (hf : Returns P (f a) b) : Returns P (x >>= f) b := by
  intro s hs
  obtain ⟨s₁, hfirst, hs₁⟩ := hx s hs
  obtain ⟨s₂, hrest, hs₂⟩ := hf s₁ hs₁
  exact ⟨s₂, run_bind.mpr ⟨a, s₁, hfirst, hrest⟩, hs₂⟩

theorem returns_traverse (hf : ∀ a ∈ l, ∃ b, Returns P (f a) b) :
    ∃ bs, Returns P (traverse f l) bs := by
  induction l with
  | nil => exact ⟨[], returns_pure []⟩
  | cons a l ih =>
    obtain ⟨b, hb⟩ := hf a List.mem_cons_self
    obtain ⟨bs, hbs⟩ := ih fun a' ha' => hf a' (List.mem_cons_of_mem _ ha')
    exact ⟨b :: bs, hb.bind (hbs.bind (returns_pure (b :: bs)))⟩

/-! ### Programs that agree -/

section Agreement

variable {τ γ δ : Type} {ignored : ε → Prop} {alike : ε → ε → Prop} {R : α → β → Prop}
  {S : γ → δ → Prop}

/-- Two runs end alike: with results that are related, or with errors that are alike.  A run that
ends with an error of `ignored` says nothing. -/
inductive EndsAlike (ignored : ε → Prop) (alike : ε → ε → Prop) (R : α → β → Prop) :
    Except ε (α × σ) → Except ε (β × τ) → Prop where
  | ignoredLeft (e : ε) (h : ignored e) (y : Except ε (β × τ)) :
    EndsAlike ignored alike R (.error e) y
  | ignoredRight (x : Except ε (α × σ)) (e : ε) (h : ignored e) :
    EndsAlike ignored alike R x (.error e)
  | failed (e e' : ε) (h : alike e e') : EndsAlike ignored alike R (.error e) (.error e')
  | returned (a : α) (s : σ) (b : β) (t : τ) (h : R a b) :
    EndsAlike ignored alike R (.ok (a, s)) (.ok (b, t))

/-- From every two states the programs end alike. -/
def RunAlike (ignored : ε → Prop) (alike : ε → ε → Prop) (R : α → β → Prop) (x : Program σ ε α)
    (y : Program τ ε β) : Prop :=
  ∀ s t, EndsAlike ignored alike R (x s) (y t)

/-- Two runs that end alike and not with an error of `ignored`. -/
theorem EndsAlike.cases {x : Except ε (α × σ)} {y : Except ε (β × τ)}
    (h : EndsAlike ignored alike R x y) (hx : ∀ e, x = .error e → ¬ignored e)
    (hy : ∀ e, y = .error e → ¬ignored e) :
    (∃ a s b t, x = .ok (a, s) ∧ y = .ok (b, t) ∧ R a b) ∨
      ∃ e e', x = .error e ∧ y = .error e' ∧ alike e e' := by
  cases h with
  | ignoredLeft e h => exact absurd h (hx e rfl)
  | ignoredRight _ e h => exact absurd h (hy e rfl)
  | failed e e' h => exact .inr ⟨e, e', rfl, rfl, h⟩
  | returned a s b t h => exact .inl ⟨a, s, b, t, rfl, rfl, h⟩

theorem runAlike_pure (h : R a b) :
    RunAlike ignored alike R (pure a : Program σ ε α) (pure b : Program τ ε β) :=
  fun s t => .returned a s b t h

theorem runAlike_check_ok (h : R a b) :
    RunAlike ignored alike R (check (.ok a) : Program σ ε α) (check (.ok b) : Program τ ε β) :=
  fun s t => .returned a s b t h

theorem runAlike_check_error {e' : ε} (h : alike e e') :
    RunAlike ignored alike R (check (.error e) : Program σ ε α)
      (check (.error e') : Program τ ε β) :=
  fun _ _ => .failed e e' h

/-- One check made twice. -/
theorem runAlike_check (halike : ∀ e, alike e e) (result : Except ε α) :
    RunAlike ignored alike Eq (check result : Program σ ε α) (check result : Program τ ε α) := by
  cases result with
  | error e => exact runAlike_check_error (halike e)
  | ok a => exact runAlike_check_ok rfl

/-- Steps whose errors do not count. -/
theorem runAlike_change {f : σ → Except ε σ} {g : τ → Except ε τ}
    (hf : ∀ s e, f s = .error e → ignored e) (hg : ∀ t e, g t = .error e → ignored e) :
    RunAlike ignored alike Eq (change f) (change g) := by
  intro s t
  unfold change
  cases hs : f s with
  | error e => exact .ignoredLeft e (hf s e hs) _
  | ok s' =>
    cases ht : g t with
    | error e => exact .ignoredRight _ e (hg t e ht)
    | ok t' => exact .returned () s' () t' rfl

variable {g : β → Program τ ε δ}

theorem RunAlike.bind {x : Program σ ε α} {y : Program τ ε β} {f : α → Program σ ε γ}
    {g : β → Program τ ε δ} (hxy : RunAlike ignored alike R x y)
    (hfg : ∀ a b, R a b → RunAlike ignored alike S (f a) (g b)) :
    RunAlike ignored alike S (x >>= f) (y >>= g) := by
  intro s t
  change EndsAlike ignored alike S (x s >>= fun p => f p.1 p.2) (y t >>= fun p => g p.1 p.2)
  have hends := hxy s t
  generalize x s = first, y t = second at hends
  cases hends with
  | ignoredLeft e h => exact .ignoredLeft e h _
  | ignoredRight _ e h => exact .ignoredRight _ e h
  | failed e e' h => exact .failed e e' h
  | returned a s' b t' h => exact hfg a b h s' t'

theorem runAlike_traverse {f : α → Program σ ε γ}
    (hfg : ∀ a b, R a b → RunAlike ignored alike S (f a) (g b)) {m : List β}
    (h : List.Forall₂ R l m) :
    RunAlike ignored alike (List.Forall₂ S) (traverse f l) (traverse g m) := by
  induction h with
  | nil => exact runAlike_pure .nil
  | @cons a b l m hab _ ih =>
    refine (hfg a b hab).bind fun c d hcd => ?_
    exact ih.bind fun cs ds hrest => runAlike_pure (.cons hcd hrest)

/-- Two programs that always fail, alike. -/
theorem runAlike_of_fails {y : Program τ ε β} {expected : ε → Prop}
    (hx : ∀ s, ∃ e, x s = .error e ∧ (ignored e ∨ expected e))
    (hy : ∀ t, ∃ e, y t = .error e ∧ (ignored e ∨ expected e))
    (halike : ∀ e e', expected e → expected e' → alike e e') : RunAlike ignored alike R x y := by
  intro s t
  obtain ⟨e, hs, hleft⟩ := hx s
  obtain ⟨e', ht, hright⟩ := hy t
  rw [hs, ht]
  rcases hleft with hleft | hleft
  · exact .ignoredLeft e hleft _
  · rcases hright with hright | hright
    · exact .ignoredRight _ e' hright
    · exact .failed e e' (halike e e' hleft hright)

end Agreement

end Stateful
