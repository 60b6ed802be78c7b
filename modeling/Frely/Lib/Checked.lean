import Mathlib.Tactic.Common

/-!
# Checked computations

Computations that either return a value or stop at the first failed check, as `Except` values.
`rejectIf` is one check; `bind_eq_ok` and `rejectIf_eq_ok` turn "the computation returned" into
the conjunction of what its steps returned and of the checks that passed.
-/

namespace Checked

universe u v

variable {ε : Type u} {α β : Type v}

/-- Stops with `error` when the condition holds. -/
def rejectIf (condition : Prop) [Decidable condition] (error : ε) : Except ε Unit :=
  if condition then .error error else .ok ()

variable {condition : Prop} {error : ε}

@[simp] theorem rejectIf_eq_ok [Decidable condition] {u : Unit} :
    rejectIf condition error = .ok u ↔ ¬condition := by
  unfold rejectIf
  split_ifs with h <;> simp [h]

theorem rejectIf_of_not [Decidable condition] (h : ¬condition) :
    rejectIf condition error = .ok () :=
  rejectIf_eq_ok.mpr h

theorem rejectIf_of [Decidable condition] (h : condition) :
    rejectIf condition error = .error error := by
  rw [rejectIf, if_pos h]

@[simp] theorem bind_ok (a : α) (f : α → Except ε β) : (Except.ok a >>= f) = f a := rfl

@[simp] theorem bind_error (e : ε) (f : α → Except ε β) : (Except.error e >>= f) = .error e := rfl

@[simp] theorem pure_eq_ok (a : α) : (pure a : Except ε α) = .ok a := rfl

@[simp] theorem throw_eq_error (e : ε) : (throw e : Except ε α) = .error e := rfl

variable {x : Except ε α} {f : α → Except ε β}

/-- A sequence of computations returns when its first part does and the rest does after it. -/
@[simp] theorem bind_eq_ok {b : β} : x >>= f = .ok b ↔ ∃ a, x = .ok a ∧ f a = .ok b := by
  cases x with
  | error e => simp
  | ok a => simp

/-- A sequence of computations stops where one of its parts does. -/
theorem bind_eq_error {e : ε} :
    x >>= f = .error e ↔ x = .error e ∨ ∃ a, x = .ok a ∧ f a = .error e := by
  cases x with
  | error e' => simp
  | ok a => simp

theorem rejectIf_eq_error [Decidable condition] {e : ε} :
    rejectIf condition error = .error e ↔ condition ∧ error = e := by
  unfold rejectIf
  split_ifs with h <;> simp [h]

/-- A sequence of computations does not stop with an error that none of its parts stops with. -/
theorem bind_ne_error {e : ε} (hx : x ≠ .error e) (hf : ∀ a, x = .ok a → f a ≠ .error e) :
    x >>= f ≠ .error e := by
  intro h
  rcases bind_eq_error.mp h with hstop | ⟨a, ha, hrest⟩
  · exact hx hstop
  · exact hf a ha hrest

theorem rejectIf_ne_error [Decidable condition] {e : ε} (h : condition → error ≠ e) :
    rejectIf condition error ≠ .error e := by
  intro hstop
  obtain ⟨hcondition, hsame⟩ := rejectIf_eq_error.mp hstop
  exact h hcondition hsame

variable {l : List α}

/-- Mapping a step that always returns collects the results. -/
theorem mapM_eq_ok {g : α → β} (h : ∀ a ∈ l, f a = .ok (g a)) : l.mapM f = .ok (l.map g) := by
  induction l with
  | nil => rfl
  | cons a l ih =>
    rw [List.mapM_cons, h a List.mem_cons_self, ih fun b hb => h b (List.mem_cons_of_mem _ hb)]
    rfl

variable {bs : List β}

/-- When a mapped step sequence returns, it holds what the step returned on every element. -/
theorem exists_of_mapM_eq_ok (h : l.mapM f = .ok bs) : ∀ a ∈ l, ∃ b ∈ bs, f a = .ok b := by
  induction l generalizing bs with
  | nil => simp
  | cons a l ih =>
    simp only [List.mapM_cons, bind_eq_ok, pure_eq_ok, Except.ok.injEq] at h
    obtain ⟨b, hb, cs, hcs, rfl⟩ := h
    intro c hc
    rcases List.mem_cons.mp hc with rfl | hc
    · exact ⟨b, List.mem_cons_self, hb⟩
    · obtain ⟨d, hd, hcd⟩ := ih hcs c hc
      exact ⟨d, List.mem_cons_of_mem _ hd, hcd⟩

/-- What a mapped step sequence returns comes from its elements. -/
theorem mem_of_mapM_eq_ok (h : l.mapM f = .ok bs) : ∀ b ∈ bs, ∃ a ∈ l, f a = .ok b := by
  induction l generalizing bs with
  | nil =>
    cases h
    simp
  | cons a l ih =>
    simp only [List.mapM_cons, bind_eq_ok, pure_eq_ok, Except.ok.injEq] at h
    obtain ⟨b, hb, cs, hcs, rfl⟩ := h
    intro c hc
    rcases List.mem_cons.mp hc with rfl | hc
    · exact ⟨a, List.mem_cons_self, hb⟩
    · obtain ⟨d, hd, hcd⟩ := ih hcs c hc
      exact ⟨d, List.mem_cons_of_mem _ hd, hcd⟩

theorem length_of_mapM_eq_ok (h : l.mapM f = .ok bs) : bs.length = l.length := by
  induction l generalizing bs with
  | nil =>
    cases h
    rfl
  | cons a l ih =>
    simp only [List.mapM_cons, bind_eq_ok, pure_eq_ok, Except.ok.injEq] at h
    obtain ⟨b, -, cs, hcs, rfl⟩ := h
    rw [List.length_cons, List.length_cons, ih hcs]

/-- A check for every element of a list, in order. -/
def forAll (l : List α) (f : α → Except ε Unit) : Except ε Unit := l.foldlM (fun _ a => f a) ()

theorem forAll_eq_ok {f : α → Except ε Unit} {u : Unit} :
    forAll l f = .ok u ↔ ∀ a ∈ l, f a = .ok () := by
  unfold forAll
  induction l with
  | nil => simp
  | cons a l ih =>
    rw [List.foldlM_cons, bind_eq_ok, List.forall_mem_cons]
    constructor
    · rintro ⟨_, ha, hl⟩
      exact ⟨ha, ih.mp hl⟩
    · rintro ⟨ha, hl⟩
      exact ⟨(), ha, ih.mpr hl⟩

theorem exists_of_forAll_eq_error {f : α → Except ε Unit} {e : ε} (h : forAll l f = .error e) :
    ∃ a ∈ l, f a = .error e := by
  unfold forAll at h
  induction l with
  | nil => cases h
  | cons a l ih =>
    rw [List.foldlM_cons, bind_eq_error] at h
    rcases h with ha | ⟨_, -, hl⟩
    · exact ⟨a, List.mem_cons_self, ha⟩
    · obtain ⟨b, hb, hfail⟩ := ih hl
      exact ⟨b, List.mem_cons_of_mem _ hb, hfail⟩

theorem mapError_eq_error {ε' : Type} {f : ε → ε'} {e : ε'} :
    x.mapError f = .error e ↔ ∃ e₀, x = .error e₀ ∧ f e₀ = e := by
  cases x <;> simp [Except.mapError]

/-- Renaming the error of a computation keeps what it returns. -/
@[simp] theorem mapError_eq_ok {ε' : Type} {f : ε → ε'} {a : α} :
    x.mapError f = .ok a ↔ x = .ok a := by
  cases x <;> simp [Except.mapError]

/-- Two computations that return the same results, whatever their errors. -/
theorem toOption_eq_of_iff {y : Except ε α} (h : ∀ a, x = .ok a ↔ y = .ok a) :
    x.toOption = y.toOption := by
  cases x with
  | ok a => rw [(h a).mp rfl]
  | error e =>
    cases y with
    | ok b => cases (h b).mpr rfl
    | error e' => rfl

/-- A computation whose result passes a test returned one. -/
theorem exists_of_test {test : α → Bool} (h : x.toOption.any test = true) :
    ∃ a, x = .ok a ∧ test a = true := by
  cases x with
  | error e => cases h
  | ok a => exact ⟨a, rfl, h⟩

end Checked
