import Mathlib.Algebra.BigOperators.Group.List.Basic
import Mathlib.Algebra.Ring.Int.Defs
import Mathlib.Algebra.Ring.Nat

/-!
# State machines and their runs

A machine is a step function that answers an input with an output and a new state; `final` is the
state a list of inputs leads to and `trace` the steps taken on the way.

The rules: `invariant` (what every step preserves holds in every state of a run), `timed` (the
same for statements that mention a clock that never goes back and the steps so far), `bounded_final`
(a quantity that a step raises by at most its cost, or keeps within a bound, a run raises above the
bound by at most the sum of the costs), `countP_le_one` (an event that needs a flag down and leaves
it up happens at most once), `pairwise_trace` (what a step leaves behind holds before every later
step) and `part_final` (a part of the state to which each step adds at most one element).
-/

namespace Machine

variable {ι ο σ : Type}

/-- One step of a run. -/
structure Step (ι ο σ : Type) where
  before : σ
  input : ι
  output : ο
  after : σ

variable (step : ι → σ → ο × σ)

/-- The step a machine takes on an input. -/
def stepOf (s : σ) (i : ι) : Step ι ο σ := ⟨s, i, (step i s).1, (step i s).2⟩

def final : σ → List ι → σ
  | s, [] => s
  | s, i :: inputs => final (step i s).2 inputs

def trace : σ → List ι → List (Step ι ο σ)
  | _, [] => []
  | s, i :: inputs => stepOf step s i :: trace (step i s).2 inputs

variable {step}

theorem final_append (s : σ) (is js : List ι) :
    final step s (is ++ js) = final step (final step s is) js := by
  induction is generalizing s with
  | nil => rfl
  | cons i is ih => exact ih (step i s).2

theorem trace_append (s : σ) (is js : List ι) :
    trace step s (is ++ js) = trace step s is ++ trace step (final step s is) js := by
  induction is generalizing s with
  | nil => rfl
  | cons i is ih => exact congrArg (stepOf step s i :: ·) (ih (step i s).2)

variable {t : Step ι ο σ} {inputs : List ι}

/-- The steps before and after a step of a run. -/
theorem trace_split {s : σ} {older newer : List (Step ι ο σ)}
    (h : trace step s inputs = older ++ t :: newer) :
    ∃ is i js, older = trace step s is ∧ t = stepOf step (final step s is) i ∧
      newer = trace step t.after js := by
  induction older generalizing s inputs with
  | nil =>
    cases inputs with
    | nil => cases h
    | cons i js =>
      obtain ⟨rfl, rfl⟩ := List.cons.inj h
      exact ⟨[], i, js, rfl, rfl, rfl⟩
  | cons first older ih =>
    cases inputs with
    | nil => cases h
    | cons i inputs =>
      obtain ⟨rfl, hrest⟩ := List.cons.inj h
      obtain ⟨is, j, js, rfl, ht, hnewer⟩ := ih hrest
      exact ⟨i :: is, j, js, rfl, ht, hnewer⟩

theorem eq_stepOf_of_mem {s : σ} (h : t ∈ trace step s inputs) :
    t = stepOf step t.before t.input := by
  induction inputs generalizing s with
  | nil => cases h
  | cons i inputs ih =>
    rcases List.mem_cons.mp h with rfl | h
    · rfl
    · exact ih h

theorem input_mem {s : σ} (h : t ∈ trace step s inputs) : t.input ∈ inputs := by
  induction inputs generalizing s with
  | nil => cases h
  | cons i inputs ih =>
    rcases List.mem_cons.mp h with rfl | h
    · exact List.mem_cons_self
    · exact List.mem_cons_of_mem _ (ih h)

/-- The states and steps of a run satisfy what the start satisfies and every allowed step
preserves. -/
theorem invariant {Inv : σ → Prop} {Allowed : Step ι ο σ → Prop}
    (hstep : ∀ i s, Inv s → Allowed (stepOf step s i) → Inv (step i s).2)
    {s : σ} (hs : Inv s) {inputs : List ι} (hall : ∀ t ∈ trace step s inputs, Allowed t) :
    Inv (final step s inputs) ∧ ∀ t ∈ trace step s inputs, Inv t.before ∧ Inv t.after := by
  induction inputs generalizing s with
  | nil => exact ⟨hs, fun t ht => absurd ht List.not_mem_nil⟩
  | cons i inputs ih =>
    have hnext : Inv (step i s).2 := hstep i s hs (hall _ List.mem_cons_self)
    obtain ⟨hfinal, htrace⟩ := ih hnext fun t ht => hall t (List.mem_cons_of_mem _ ht)
    refine ⟨hfinal, fun t ht => ?_⟩
    rcases List.mem_cons.mp ht with rfl | ht
    · exact ⟨hs, hnext⟩
    · exact htrace t ht

/-- The rule without a condition on the steps. -/
theorem invariant_final {Inv : σ → Prop} (hstep : ∀ i s, Inv s → Inv (step i s).2) {s : σ}
    (hs : Inv s) (inputs : List ι) : Inv (final step s inputs) :=
  (@invariant ι ο σ step Inv (fun _ => True) (fun i s h _ => hstep i s h) s hs inputs
    fun _ _ => trivial).1

/-- The time never goes back along the inputs, and starts no earlier than `now`. -/
def Timed (time : ι → Int) (now : Int) : List ι → Prop
  | [] => True
  | i :: inputs => now ≤ time i ∧ Timed time (time i) inputs

instance (time : ι → Int) : ∀ (now : Int) (inputs : List ι), Decidable (Timed time now inputs)
  | _, [] => inferInstanceAs (Decidable True)
  | now, i :: inputs =>
    have : Decidable (Timed time (time i) inputs) := instDecidableTimed time (time i) inputs
    inferInstanceAs (Decidable (now ≤ time i ∧ Timed time (time i) inputs))

/-- The time of the last input. -/
def lastTime (time : ι → Int) (now : Int) (inputs : List ι) : Int :=
  inputs.foldl (fun _ i => time i) now

/-- The invariant rule for a machine with a clock and a history: the time of the last input is
part of what is preserved, and so is what `record` makes of the steps so far. -/
theorem timed {γ : Type} {time : ι → Int} {record : γ → Step ι ο σ → γ}
    {Inv : Int → γ → σ → Prop} {Allowed : Step ι ο σ → Prop}
    (hstep : ∀ now i g s, Inv now g s → now ≤ time i → Allowed (stepOf step s i) →
      Inv (time i) (record g (stepOf step s i)) (step i s).2)
    {now : Int} {g : γ} {s : σ} (hs : Inv now g s) {inputs : List ι}
    (htime : Timed time now inputs) (hall : ∀ t ∈ trace step s inputs, Allowed t) :
    Inv (lastTime time now inputs) ((trace step s inputs).foldl record g)
      (final step s inputs) := by
  induction inputs generalizing now g s with
  | nil => exact hs
  | cons i inputs ih =>
    have hnext := hstep now i g s hs htime.1 (hall _ List.mem_cons_self)
    exact ih hnext htime.2 fun t ht => hall t (List.mem_cons_of_mem _ ht)

/-- The invariant rule for a machine with a history and no clock. -/
theorem recorded_of_allowed {γ : Type} {record : γ → Step ι ο σ → γ} {Inv : γ → σ → Prop}
    {Allowed : Step ι ο σ → Prop}
    (hstep : ∀ g i s, Inv g s → Allowed (stepOf step s i) →
      Inv (record g (stepOf step s i)) (step i s).2) {g : γ} {s : σ} (hs : Inv g s)
    {inputs : List ι} (hall : ∀ t ∈ trace step s inputs, Allowed t) :
    Inv ((trace step s inputs).foldl record g) (final step s inputs) := by
  induction inputs generalizing g s with
  | nil => exact hs
  | cons i inputs ih =>
    have hnext := hstep g i s hs (hall _ List.mem_cons_self)
    exact ih hnext fun t ht => hall t (List.mem_cons_of_mem _ ht)

theorem recorded {γ : Type} {record : γ → Step ι ο σ → γ} {Inv : γ → σ → Prop}
    (hstep : ∀ g i s, Inv g s → Inv (record g (stepOf step s i)) (step i s).2) {g : γ} {s : σ}
    (hs : Inv g s) (inputs : List ι) :
    Inv ((trace step s inputs).foldl record g) (final step s inputs) :=
  @recorded_of_allowed ι ο σ step γ record Inv (fun _ => True) (fun g i s h _ => hstep g i s h)
    g s hs inputs fun _ _ => trivial

/-- A quantity that every allowed step raises by at most its cost, unless it leaves it within the
bound. -/
theorem bounded_final {Inv : σ → Prop} {Allowed : Step ι ο σ → Prop} {quantity : σ → Int}
    {cost : Step ι ο σ → Int} {bound : Int} (hcost : ∀ t, 0 ≤ cost t)
    (hinv : ∀ i s, Inv s → Allowed (stepOf step s i) → Inv (step i s).2)
    (hstep : ∀ i s, Inv s → Allowed (stepOf step s i) →
      quantity (step i s).2 ≤ max bound (quantity s) + cost (stepOf step s i))
    {s : σ} (hs : Inv s) {inputs : List ι} (hall : ∀ t ∈ trace step s inputs, Allowed t) :
    quantity (final step s inputs) ≤
      max bound (quantity s) + ((trace step s inputs).map cost).sum := by
  induction inputs generalizing s with
  | nil =>
    rw [final, trace, List.map_nil, List.sum_nil]
    omega
  | cons i inputs ih =>
    have hallowed : Allowed (stepOf step s i) := hall _ List.mem_cons_self
    have hrest := ih (hinv i s hs hallowed) fun t ht => hall t (List.mem_cons_of_mem _ ht)
    have hhead := hstep i s hs hallowed
    have hnonneg := hcost (stepOf step s i)
    rw [trace, List.map_cons, List.sum_cons, final]
    omega

/-! ### Events that raise a flag -/

section Flag

variable {Inv : σ → Prop} {flag : σ → Prop} {event : Step ι ο σ → Bool}

/-- A flag that never comes down. -/
theorem flag_final (hinv : ∀ i s, Inv s → Inv (step i s).2)
    (hkeep : ∀ i s, Inv s → flag s → flag (step i s).2) {s : σ} (hs : Inv s) (hflag : flag s)
    (inputs : List ι) : flag (final step s inputs) := by
  induction inputs generalizing s with
  | nil => exact hflag
  | cons i inputs ih => exact ih (hinv i s hs) (hkeep i s hs hflag)

/-- An event that only happens while a flag is down does not happen once it is up. -/
theorem countP_eq_zero (hinv : ∀ i s, Inv s → Inv (step i s).2)
    (hkeep : ∀ i s, Inv s → flag s → flag (step i s).2)
    (hdown : ∀ i s, Inv s → event (stepOf step s i) → ¬flag s) {s : σ} (hs : Inv s)
    (hflag : flag s) (inputs : List ι) : (trace step s inputs).countP event = 0 := by
  induction inputs generalizing s with
  | nil => rfl
  | cons i inputs ih =>
    have hnot : ¬event (stepOf step s i) := fun h => hdown i s hs h hflag
    rw [trace, List.countP_cons_of_neg hnot]
    exact ih (hinv i s hs) (hkeep i s hs hflag)

/-- An event that raises a flag leaves it up. -/
theorem flag_of_event (hinv : ∀ i s, Inv s → Inv (step i s).2)
    (hkeep : ∀ i s, Inv s → flag s → flag (step i s).2)
    (hup : ∀ i s, Inv s → event (stepOf step s i) → flag (step i s).2) {s : σ} (hs : Inv s)
    {inputs : List ι} (hevent : ∃ t ∈ trace step s inputs, event t) :
    flag (final step s inputs) := by
  induction inputs generalizing s with
  | nil =>
    obtain ⟨t, ht, -⟩ := hevent
    cases ht
  | cons i inputs ih =>
    obtain ⟨t, ht, hhappens⟩ := hevent
    rcases List.mem_cons.mp ht with rfl | ht
    · exact flag_final hinv hkeep (hinv i s hs) (hup i s hs hhappens) inputs
    · exact ih (hinv i s hs) ⟨t, ht, hhappens⟩

/-- **At most once.** An event that only happens while a flag is down, and leaves it up, happens
at most once when the flag never comes down. -/
theorem countP_le_one (hinv : ∀ i s, Inv s → Inv (step i s).2)
    (hkeep : ∀ i s, Inv s → flag s → flag (step i s).2)
    (hdown : ∀ i s, Inv s → event (stepOf step s i) → ¬flag s)
    (hup : ∀ i s, Inv s → event (stepOf step s i) → flag (step i s).2)
    {s : σ} (hs : Inv s) (inputs : List ι) : (trace step s inputs).countP event ≤ 1 := by
  induction inputs generalizing s with
  | nil => exact Nat.zero_le 1
  | cons i inputs ih =>
    by_cases hevent : event (stepOf step s i)
    · have hrest := countP_eq_zero hinv hkeep hdown (hinv i s hs) (hup i s hs hevent) inputs
      rw [trace, List.countP_cons_of_pos hevent]
      omega
    · rw [trace, List.countP_cons_of_neg hevent]
      exact ih (hinv i s hs)

end Flag

/-! ### Marks that steps leave -/

/-- A mark that a step leaves is there before the steps after the next one. -/
theorem mark_trace {mark : Step ι ο σ → σ → Prop} (hkeep : ∀ t i s, mark t s → mark t (step i s).2)
    {s : σ} (hmark : mark t s) (inputs : List ι) :
    ∀ t' ∈ trace step s inputs, mark t t'.before := by
  induction inputs generalizing s with
  | nil => exact fun t' ht' => absurd ht' List.not_mem_nil
  | cons i inputs ih =>
    intro t' ht'
    rcases List.mem_cons.mp ht' with rfl | ht'
    · exact hmark
    · exact ih (hkeep t i s hmark) t' ht'

/-- A mark that every step leaves and none removes is there before every later step. -/
theorem pairwise_trace {mark : Step ι ο σ → σ → Prop}
    (hleave : ∀ i s, mark (stepOf step s i) (step i s).2)
    (hkeep : ∀ t i s, mark t s → mark t (step i s).2) (s : σ) (inputs : List ι) :
    (trace step s inputs).Pairwise fun t t' => mark t t'.before := by
  induction inputs generalizing s with
  | nil => exact List.Pairwise.nil
  | cons i inputs ih =>
    exact List.pairwise_cons.mpr ⟨mark_trace hkeep (hleave i s) inputs, ih (step i s).2⟩

/-! ### A part that grows -/

/-- A part of the state to which every step adds what it answers, if anything. -/
theorem part_final {α : Type} {part : σ → List α} {added : Step ι ο σ → Option α}
    {Inv : σ → Prop} (hinv : ∀ i s, Inv s → Inv (step i s).2)
    (hstep : ∀ i s, Inv s → part (step i s).2 = (added (stepOf step s i)).toList ++ part s) {s : σ}
    (hs : Inv s) (inputs : List ι) :
    part (final step s inputs) = ((trace step s inputs).filterMap added).reverse ++ part s := by
  induction inputs generalizing s with
  | nil => rfl
  | cons i inputs ih =>
    rw [final, trace, ih (hinv i s hs), hstep i s hs]
    cases hadded : added (stepOf step s i) with
    | none => rw [List.filterMap_cons_none hadded, Option.toList_none, List.nil_append]
    | some a =>
      rw [List.filterMap_cons_some hadded, Option.toList_some, List.reverse_cons,
        List.append_assoc]

end Machine
