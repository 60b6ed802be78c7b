import Mathlib.Tactic.Common

/-!
# Computations whose state outlives a failure

Programs with a state that may throw: unlike in a transaction, what was done before a failure stays
done.  `attempt` turns a failure into a value, `tryCatch` handles it, and `ensure` runs a last step
in every case.

`wp x Q R s` says that `x`, run in the state `s`, returns with `Q` or throws with `R`.  The `wp_`
lemmas compute it along the structure of a program; `wp_mono` weakens what holds at the end.
-/

namespace Effects

variable {σ ε α β : Type}

abbrev Effect (σ ε : Type) := ExceptT ε (StateM σ)

/-- A change of the state. -/
def change (f : σ → σ) : Effect σ ε Unit := fun s => (.ok (), f s)

/-- A look at the state. -/
def inspect (f : σ → α) : Effect σ ε α := fun s => (.ok (f s), s)

/-- Runs a computation and returns the error it throws, if any. -/
def attempt (x : Effect σ ε Unit) : Effect σ ε (Option ε) := fun s =>
  match x s with
  | (.ok (), s') => (.ok none, s')
  | (.error e, s') => (.ok (some e), s')

/-- Runs a computation and then a last step, whether or not it threw; an error of the last step
takes the place of its own. -/
def ensure (x : Effect σ ε α) (last : Effect σ ε Unit) : Effect σ ε α := fun s =>
  match x s with
  | (result, s') => match last s' with
    | (.ok (), s'') => (result, s'')
    | (.error e, s'') => (.error e, s'')

def wp (x : Effect σ ε α) (Q : α → σ → Prop) (R : ε → σ → Prop) (s : σ) : Prop :=
  match x s with
  | (.ok a, s') => Q a s'
  | (.error e, s') => R e s'

variable {Q : α → σ → Prop} {R : ε → σ → Prop} {s : σ}

@[simp] theorem wp_pure (a : α) : wp (pure a : Effect σ ε α) Q R s ↔ Q a s := Iff.rfl

@[simp] theorem wp_throw (e : ε) : wp (throw e : Effect σ ε α) Q R s ↔ R e s := Iff.rfl

@[simp] theorem wp_change {Q : Unit → σ → Prop} (f : σ → σ) :
    wp (change f : Effect σ ε Unit) Q R s ↔ Q () (f s) := Iff.rfl

@[simp] theorem wp_inspect (f : σ → α) : wp (inspect f : Effect σ ε α) Q R s ↔ Q (f s) s := Iff.rfl

@[simp] theorem wp_bind {x : Effect σ ε β} {f : β → Effect σ ε α} :
    wp (x >>= f) Q R s ↔ wp x (fun b s' => wp (f b) Q R s') R s := by
  have hbind : (x >>= f) s = (ExceptT.bindCont f (x s).1 : StateM σ (Except ε α)) (x s).2 := rfl
  unfold wp
  rw [hbind]
  cases x s with
  | mk result s' =>
    cases result with
    | ok b => rfl
    | error e => rfl

variable {x : Effect σ ε α}

@[simp] theorem wp_tryCatch {handler : ε → Effect σ ε α} :
    wp (tryCatch x handler) Q R s ↔ wp x Q (fun e s' => wp (handler e) Q R s') s := by
  have htry : (tryCatch x handler : Effect σ ε α) s = (match (x s).1 with
    | .ok a => (pure (.ok a) : StateM σ (Except ε α))
    | .error e => handler e) (x s).2 := rfl
  unfold wp
  rw [htry]
  cases x s with
  | mk result s' =>
    cases result with
    | ok a => rfl
    | error e => rfl

@[simp] theorem wp_attempt {Q : Option ε → σ → Prop} {x : Effect σ ε Unit} :
    wp (attempt x) Q R s ↔ wp x (fun _ s' => Q none s') (fun e s' => Q (some e) s') s := by
  unfold wp attempt
  cases x s with
  | mk result s' =>
    cases result with
    | ok u => rfl
    | error e => rfl

@[simp] theorem wp_ensure {last : Effect σ ε Unit} :
    wp (ensure x last) Q R s ↔ wp x (fun a s' => wp last (fun _ s'' => Q a s'') R s')
      (fun e s' => wp last (fun _ s'' => R e s'') R s') s := by
  unfold wp ensure
  cases x s with
  | mk result s' =>
    cases result with
    | ok a =>
      dsimp only
      cases last s' with
      | mk lastResult s'' =>
        cases lastResult with
        | ok u => rfl
        | error e => rfl
    | error e =>
      dsimp only
      cases last s' with
      | mk lastResult s'' =>
        cases lastResult with
        | ok u => rfl
        | error e => rfl

/-- What holds at the end may be weakened. -/
theorem wp_mono {Q' : α → σ → Prop} {R' : ε → σ → Prop} (h : wp x Q R s)
    (hQ : ∀ a s', Q a s' → Q' a s') (hR : ∀ e s', R e s' → R' e s') : wp x Q' R' s := by
  unfold wp at h ⊢
  cases hx : x s with
  | mk result s' =>
    rw [hx] at h
    cases result with
    | ok a => exact hQ a s' h
    | error e => exact hR e s' h

/-- What holds at every end holds at the end. -/
theorem of_wp {P : σ → Prop} (h : wp x (fun _ s' => P s') (fun _ s' => P s') s) : P (x s).2 := by
  unfold wp at h
  cases hx : x s with
  | mk result s' =>
    rw [hx] at h
    cases result with
    | ok a => exact h
    | error e => exact h

end Effects
