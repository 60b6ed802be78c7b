import Frely.Gateway.Pipeline
import Mathlib.Tactic.Common

/-!
# The steps of a pipeline session

`KernelStep` says once what an input can do to the part of a session that hooks and artifacts are
about; every property of a run is read off it.  `KernelInv` ties the facts to the invocations that
have ended.
-/

namespace Frely.Pipeline

variable {ν : Type}

/-! ### Patches -/

variable {artifacts : Artifacts ν} {patch : Patch ν}

theorem setEntry_of_ne {entry : PatchKey × Option ν} {name : ArtifactName}
    (h : ∀ value, entry ≠ (.artifact name, some value)) :
    setEntry artifacts entry name = artifacts name := by
  obtain ⟨key, value⟩ := entry
  cases key with
  | unknown text => rfl
  | artifact other =>
    cases value with
    | none => rfl
    | some value =>
      have hne : name ≠ other := by
        rintro rfl
        exact h value rfl
      exact Function.update_of_ne hne _ _

/-- An artifact that no entry sets stays as it is. -/
theorem applied_of_ne {name : ArtifactName}
    (h : ∀ value, (.artifact name, some value) ∉ patch.entries) :
    patch.applied artifacts name = artifacts name := by
  obtain ⟨entries, nodup⟩ := patch
  simp only [Patch.applied] at h ⊢
  clear nodup
  induction entries generalizing artifacts with
  | nil => rfl
  | cons entry rest ih =>
    rw [List.foldl_cons, ih fun value hmem => h value (List.mem_cons_of_mem _ hmem)]
    exact setEntry_of_ne fun value heq => h value (heq ▸ List.mem_cons_self)

/-- What may not be replaced is not. -/
def Kept (artifacts after : Artifacts ν) : Prop :=
  ∀ name : ArtifactName, name.isReplaceable = false →
    (name = .originalRequest ∨ (artifacts name).isSome = true) → after name = artifacts name

theorem kept_of_published {after : Artifacts ν} {writable : List ArtifactName}
    (h : publishHookArtifacts artifacts writable patch = some after) :
    after = patch.applied artifacts ∧ Kept artifacts after := by
  unfold publishHookArtifacts at h
  split_ifs at h with hall
  obtain rfl := Option.some.inj h
  refine ⟨rfl, ?_⟩
  intro name hreplaceable hname
  refine applied_of_ne fun value hmem => ?_
  have hentry := List.all_eq_true.mp hall _ hmem
  rcases hname with rfl | hsome
  · simp [mayPublish] at hentry
  · simp [mayPublish, hsome, hreplaceable] at hentry

theorem kept_of_trusted {after : Artifacts ν}
    (h : publishTrustedArtifacts artifacts patch = some after) :
    after = patch.applied artifacts ∧ Kept artifacts after := by
  unfold publishTrustedArtifacts at h
  split_ifs at h with hall
  obtain rfl := Option.some.inj h
  refine ⟨rfl, ?_⟩
  intro name hreplaceable hname
  refine applied_of_ne fun value hmem => ?_
  have hentry := List.all_eq_true.mp hall _ hmem
  rcases hname with rfl | hsome
  · simp [mayPublishTrusted] at hentry
  · simp [mayPublishTrusted, hsome] at hentry

/-! ### What an input can do -/

variable {i : Nat} {before after invocation : Invocation ν} {invocations : List (Invocation ν)}
  {s' : Kernel ν}

/-- The invocation has an end, whichever it is. -/
def Stage.HasEnded (stage : Stage ν) : Prop := ∃ how, stage = .ended how

/-- The invocation that an input is about. -/
def Input.invocation? : Input ν → Option Nat
  | isApplicable i _ => some i
  | settle i _ => some i
  | timeout i => some i
  | resume i => some i
  | getValue i _ => some i
  | setValue i _ _ => some i
  | getArtifact i _ => some i
  | _ => none

def Stage.isChecking : Stage ν → Bool
  | checking => true
  | _ => false

def Stage.isRunning : Stage ν → Bool
  | running _ => true
  | _ => false

/-- An invocation before and after inputs that settle races. -/
def RacedFrom (before after : Invocation ν) : Prop :=
  after = before ∨ before.stage = .running none ∧
    ∃ raced, after = { before with stage := .running (some raced) }

/-- An invocation that has not ended goes on: from `isApplicable` to `run`, or to its end. -/
structure Moves (before after : Invocation ν) : Prop where
  hook : after.hook = before.hook
  live : ¬before.stage.HasEnded
  left : after.stage.isChecking = false

/-- Everything that a step can do to the kernel. -/
inductive KernelStep (s : Kernel ν) (input : Input ν) : Kernel ν → Prop where
  | same : KernelStep s input s
  | started (invocation : Invocation ν) (hactive : s.finished = false)
    (hnew : invocation.hook.ref ∉ s.executedHooks) : KernelStep s input { s with
      executedHooks := invocation.hook.ref :: s.executedHooks
      invocations := s.invocations ++ [invocation]
      facts := s.facts ++ invocation.fact?.toList }
  | entered (i : Nat) (before after : Invocation ν) (hi : s.invocations[i]? = some before)
    (hmoves : Moves before after) : KernelStep s input (s.enter i after)
  | published (i : Nat) (before after : Invocation ν) (result : HookResult ν) (patch : Patch ν)
    (artifacts : Artifacts ν) (hinput : input = .resume i) (hi : s.invocations[i]? = some before)
    (hmoves : Moves before after) (hstage : before.stage = .running (some (.returned result)))
    (hended : after.stage = .ended (.returned result.outcome))
    (hpatch : result.artifacts = some patch) (hactive : s.finished = false)
    (hpublish : publishHookArtifacts s.artifacts before.hook.writableArtifactNames patch =
      some artifacts) :
    KernelStep s input (Kernel.enter { s with artifacts } i after)
  | raced (invocations : List (Invocation ν)) (aborted : Bool)
    (h : List.Forall₂ RacedFrom s.invocations invocations) :
    KernelStep s input { s with invocations, signalAborted := aborted }
  | set (i : Nat) (invocation : Invocation ν) (key : ContextKey) (value : Option ν)
    (hinput : input = .setValue i key value) (hi : s.invocations[i]? = some invocation)
    (hlive : ¬invocation.stage.HasEnded) (hactive : s.finished = false) :
    KernelStep s input { s with values := Function.update s.values key.id (some value) }
  | trusted (patch : Patch ν) (artifacts : Artifacts ν) (hinput : input = .publishTrusted patch)
    (hactive : s.finished = false)
    (hpublish : publishTrustedArtifacts s.artifacts patch = some artifacts) :
    KernelStep s input { s with artifacts }
  | disposed (hinput : input.invocation? = none) (hactive : s.finished = false) :
    KernelStep s input { s with
      finished := true
      artifacts := fun _ => none
      values := fun _ => none }

section Steps

variable {plan : ExecutionPlan} {maxInvocationFacts : Nat} {s : Kernel ν} {input : Input ν}

theorem racedFrom_race (invocation : Invocation ν) (raced : Raced ν) :
    RacedFrom invocation (Kernel.race invocation raced) := by
  obtain ⟨hook, stage⟩ := invocation
  cases stage with
  | running settled =>
    cases settled with
    | none => exact .inr ⟨rfl, raced, rfl⟩
    | some first => exact .inl rfl
  | _ => exact .inl rfl

theorem forall₂_refl (invocations : List (Invocation ν)) :
    List.Forall₂ RacedFrom invocations invocations := by
  induction invocations with
  | nil => exact .nil
  | cons invocation rest ih => exact .cons (.inl rfl) ih

theorem forall₂_set (hi : invocations[i]? = some before) (h : RacedFrom before after) :
    List.Forall₂ RacedFrom invocations (invocations.set i after) := by
  induction invocations generalizing i with
  | nil => exact .nil
  | cons first rest ih =>
    cases i with
    | zero =>
      obtain rfl : first = before := by simpa using hi
      exact .cons h (forall₂_refl rest)
    | succ i => exact .cons (.inl rfl) (ih (by simpa using hi))

theorem forall₂_map (invocations : List (Invocation ν)) (raced : Raced ν) :
    List.Forall₂ RacedFrom invocations (invocations.map (Kernel.race · raced)) := by
  induction invocations with
  | nil => exact .nil
  | cons invocation rest ih => exact .cons (racedFrom_race invocation raced) ih

theorem kernelStep_startHook {hook : CompiledPipelineHook}
    (h : s.startHook plan maxInvocationFacts hook = some s') : KernelStep s input s' := by
  unfold Kernel.startHook at h
  split_ifs at h with hfinished hexecuted
  obtain rfl := Option.some.inj h
  exact .started ⟨hook, _⟩ (Bool.not_eq_true _ ▸ hfinished) hexecuted

theorem kernelStep_finish (hinput : input.invocation? = none) : KernelStep s input s.finish := by
  unfold Kernel.finish
  split_ifs with hfinished
  · exact .same
  · exact .disposed hinput (Bool.not_eq_true _ ▸ hfinished)

theorem not_hasEnded_of_isChecking {stage : Stage ν} (h : stage.isChecking = true) :
    ¬stage.HasEnded := by
  rintro ⟨how, rfl⟩
  exact absurd h nofun

theorem not_hasEnded_of_running {stage : Stage ν} {raced : Option (Raced ν)}
    (h : stage = .running raced) : ¬stage.HasEnded := by
  rintro ⟨how, rfl⟩
  exact absurd h nofun

theorem isChecking_checkedStage (hook : CompiledPipelineHook) (answer : Option Bool) :
    (s.checkedStage plan hook answer).isChecking = false := by
  unfold Kernel.checkedStage
  split
  · rfl
  · rfl
  · split_ifs <;> rfl

theorem kernelStep_resumed {raced : Raced ν} (hi : s.invocations[i]? = some invocation)
    (hstage : invocation.stage = .running (some raced)) :
    KernelStep s (.resume i) (s.resumed i invocation raced) := by
  have hmoves (how : InvocationEnd) : Moves invocation ⟨invocation.hook, .ended how⟩ :=
    ⟨rfl, not_hasEnded_of_running hstage, rfl⟩
  cases raced with
  | returned result =>
    unfold Kernel.resumed
    dsimp only
    cases hpublished : s.published invocation.hook result with
    | none => exact .entered i invocation _ hi (hmoves _)
    | some artifacts =>
      unfold Kernel.published at hpublished
      cases hpatch : result.artifacts with
      | none =>
        rw [hpatch] at hpublished
        obtain rfl := Option.some.inj hpublished
        exact .entered i invocation _ hi (hmoves _)
      | some patch =>
        rw [hpatch] at hpublished
        dsimp only at hpublished
        split_ifs at hpublished with hfinished
        exact .published i invocation _ result patch artifacts rfl hi (hmoves _) hstage rfl hpatch
          (Bool.not_eq_true _ ▸ hfinished) hpublished
  | threw => exact .entered i invocation _ hi (hmoves _)
  | timedOut => exact .entered i invocation _ hi (hmoves _)
  | aborted => exact .entered i invocation _ hi (hmoves _)

theorem kernelStep_setValue {i : Nat} {invocation : Invocation ν} {key : ContextKey}
    {value : Option ν} {s' : Kernel ν} (hi : s.invocations[i]? = some invocation)
    (h : s.setValue plan invocation key value = some s') :
    KernelStep s (.setValue i key value) s' := by
  unfold Kernel.setValue at h
  split_ifs at h with hfinished hended
  obtain rfl := Option.some.inj h
  refine .set i invocation key value rfl hi ?_ (Bool.not_eq_true _ ▸ hfinished)
  rintro ⟨how, hstage⟩
  rw [hstage] at hended
  exact hended rfl

theorem kernelStep_startNext {s : Session ν} {calls : List PhaseCall} {c : Nat} {call : PhaseCall} :
    KernelStep s.toKernel input
      (Session.startNext plan maxInvocationFacts { s with calls } c call).toKernel := by
  unfold Session.startNext
  cases call.remaining with
  | nil => exact .same
  | cons hook rest =>
    dsimp only
    cases hstart : s.toKernel.startHook plan maxInvocationFacts hook with
    | none => exact .same
    | some kernel => exact kernelStep_startHook hstart

theorem kernelStep_answerKernel {s : Session ν} {kernel : Option (Kernel ν)}
    (h : ∀ s', kernel = some s' → KernelStep s.toKernel input s') :
    KernelStep s.toKernel input (answerKernel s kernel).2.toKernel := by
  cases kernel with
  | none => exact .same
  | some s' => exact h s' rfl

theorem kernelStep_onInvocation {s : Session ν} {i : Nat}
    {f : Invocation ν → Answer ν × Session ν}
    (h : ∀ invocation, s.invocations[i]? = some invocation →
      KernelStep s.toKernel input (f invocation).2.toKernel) :
    KernelStep s.toKernel input (onInvocation s i f).2.toKernel := by
  unfold onInvocation
  cases hi : s.invocations[i]? with
  | none => exact .same
  | some invocation => exact h invocation hi

/-- **What an input can do.** -/
theorem step_kernel (input : Input ν) (s : Session ν) :
    KernelStep s.toKernel input (step plan maxInvocationFacts input s).2.toKernel := by
  cases input with
  | executeHook hook => exact kernelStep_answerKernel fun s' => kernelStep_startHook
  | executePhase phase => exact kernelStep_startNext
  | nextHook c =>
    simp only [step]
    cases hc : s.calls[c]? with
    | none => exact .same
    | some call =>
      simp only [Session.nextHook]
      split
      · exact .same
      split
      · exact .same
      split
      · exact .same
      · exact @kernelStep_startNext ν plan maxInvocationFacts _ s s.calls c call
      · exact .same
  | isApplicable i answer =>
    refine kernelStep_onInvocation fun invocation hi => ?_
    cases hstage : invocation.stage with
    | checking =>
      have hchecking : invocation.stage.isChecking = true := hstage ▸ rfl
      exact .entered i invocation _ hi ⟨rfl, not_hasEnded_of_isChecking hchecking,
        isChecking_checkedStage _ _⟩
    | _ => exact .same
  | settle i result =>
    refine kernelStep_onInvocation fun invocation hi => ?_
    exact .raced _ _ (forall₂_set hi (racedFrom_race invocation _))
  | timeout i =>
    refine kernelStep_onInvocation fun invocation hi => ?_
    split
    · exact .raced _ _ (forall₂_set hi (racedFrom_race invocation _))
    · exact .same
  -- the abort decides every race that is open
  | abort => exact .raced _ _ (forall₂_map s.invocations .aborted)
  | resume i =>
    refine kernelStep_onInvocation fun invocation hi => ?_
    cases hstage : invocation.stage with
    | running raced =>
      cases raced with
      | none => exact .same
      | some raced => exact kernelStep_resumed hi hstage
    | _ => exact .same
  | getValue i key =>
    refine kernelStep_onInvocation fun invocation hi => ?_
    split <;> exact .same
  | setValue i key value =>
    refine kernelStep_onInvocation fun invocation hi => ?_
    exact kernelStep_answerKernel fun s' => kernelStep_setValue hi
  | getArtifact i name =>
    refine kernelStep_onInvocation fun invocation hi => ?_
    split <;> exact .same
  | readArtifact name =>
    simp only [step]
    split <;> exact .same
  | publishTrusted patch =>
    simp only [step]
    split_ifs with hfinished
    · exact .same
    · cases hpublish : publishTrustedArtifacts s.artifacts patch with
      | none => exact .same
      | some artifacts =>
        exact .trusted patch artifacts rfl (Bool.not_eq_true _ ▸ hfinished) hpublish
  | wrapStream =>
    simp only [step]
    split <;> exact .same
  | pull w read =>
    simp only [step]
    split
    · exact kernelStep_finish rfl
    · exact kernelStep_finish rfl
    · exact .same
  | cancel w =>
    simp only [step]
    split
    · exact kernelStep_finish rfl
    · exact .same
  | wrapAsyncIterable =>
    simp only [step]
    split <;> exact .same
  | next w read =>
    simp only [step]
    split
    · exact kernelStep_finish rfl
    · exact kernelStep_finish rfl
    · exact .same
  | close w =>
    simp only [step]
    split
    · exact kernelStep_finish rfl
    · exact .same
  | finish => exact kernelStep_finish rfl

end Steps

/-! ### Invocations stay -/

variable {s : Kernel ν}

/-- What becomes of an invocation. -/
structure Advances (before after : Invocation ν) : Prop where
  hook : after.hook = before.hook
  left : before.stage.isChecking = false → after.stage.isChecking = false
  ended : before.stage.HasEnded → after = before

theorem Advances.refl (invocation : Invocation ν) : Advances invocation invocation :=
  ⟨rfl, fun h => h, fun _ => rfl⟩

theorem advances_of_racedFrom (h : RacedFrom before after) : Advances before after := by
  rcases h with rfl | ⟨hstage, raced, rfl⟩
  · exact .refl _
  · refine ⟨rfl, fun _ => rfl, ?_⟩
    rintro ⟨how, hended⟩
    rw [hstage] at hended
    exact absurd hended nofun

theorem exists_of_forall₂ {before after : List (Invocation ν)}
    (h : List.Forall₂ RacedFrom before after) {j : Nat} {first : Invocation ν}
    (hj : before[j]? = some first) : ∃ last, after[j]? = some last ∧ RacedFrom first last := by
  induction h generalizing j with
  | nil => simp at hj
  | cons hraced _ ih =>
    cases j with
    | zero =>
      obtain rfl := Option.some.inj hj
      exact ⟨_, rfl, hraced⟩
    | succ j => exact ih hj

theorem advances_of_moves (h : Moves before after) : Advances before after :=
  ⟨h.hook, fun _ => h.left, fun hended => absurd hended h.live⟩

theorem exists_of_set {j : Nat} {first : Invocation ν} (hi : invocations[i]? = some before)
    (hmoves : Moves before after) (hj : invocations[j]? = some first) :
    ∃ last, (invocations.set i after)[j]? = some last ∧ Advances first last := by
  by_cases hij : i = j
  · subst hij
    obtain rfl : first = before := Option.some.inj (hj.symm.trans hi)
    exact ⟨after, List.getElem?_set_self (List.getElem?_eq_some_iff.mp hi).1,
      advances_of_moves hmoves⟩
  · exact ⟨first, (List.getElem?_set_ne hij).trans hj, .refl first⟩

/-- Invocations stay where they are, with their hooks. -/
theorem KernelStep.advances {input : Input ν} (h : KernelStep s input s') {j : Nat}
    (hj : s.invocations[j]? = some before) :
    ∃ after, s'.invocations[j]? = some after ∧ Advances before after := by
  cases h with
  | started invocation hactive hnew =>
    refine ⟨before, ?_, .refl before⟩
    exact (List.getElem?_append_left (List.getElem?_eq_some_iff.mp hj).1).trans hj
  | entered i first last hi hmoves => exact exists_of_set hi hmoves hj
  | published i first last result patch artifacts hinput hi hmoves =>
    exact exists_of_set hi hmoves hj
  | raced invocations aborted hraced =>
    obtain ⟨after, hafter, hfrom⟩ := exists_of_forall₂ hraced hj
    exact ⟨after, hafter, advances_of_racedFrom hfrom⟩
  | same => exact ⟨before, hj, .refl before⟩
  | set => exact ⟨before, hj, .refl before⟩
  | trusted => exact ⟨before, hj, .refl before⟩
  | disposed => exact ⟨before, hj, .refl before⟩

/-! ### The invariant of the kernel -/

/-- The hooks that have been started. -/
def refs (s : Kernel ν) : List String := s.invocations.map (·.hook.ref)

/-- No hook runs twice, each end has its fact, and a finished kernel holds nothing. -/
structure KernelInv (s : Kernel ν) : Prop where
  nodup : (refs s).Nodup
  executed : ∀ ref ∈ refs s, ref ∈ s.executedHooks
  facts : (s.invocations.filterMap Invocation.fact?).Perm s.facts
  disposed : s.finished = true → (∀ name, s.artifacts name = none) ∧ ∀ id, s.values id = none

theorem filterMap_set (hi : invocations[i]? = some before) (hbefore : before.fact? = none) :
    ((invocations.set i after).filterMap Invocation.fact?).Perm
      (invocations.filterMap Invocation.fact? ++ after.fact?.toList) := by
  induction invocations generalizing i with
  | nil => simp at hi
  | cons first rest ih =>
    cases i with
    | zero =>
      obtain rfl : first = before := by simpa using hi
      rw [List.set_cons_zero, List.filterMap_cons_none hbefore]
      cases hafter : after.fact? with
      | none =>
        rw [List.filterMap_cons_none hafter, Option.toList_none, List.append_nil]
      | some fact =>
        rw [List.filterMap_cons_some hafter, Option.toList_some]
        exact (List.perm_append_singleton fact _).symm
    | succ i =>
      have hrest := ih (by simpa using hi)
      rw [List.set_cons_succ]
      cases hfirst : first.fact? with
      | none =>
        rw [List.filterMap_cons_none hfirst, List.filterMap_cons_none hfirst]
        exact hrest
      | some fact =>
        rw [List.filterMap_cons_some hfirst, List.filterMap_cons_some hfirst]
        exact hrest.cons fact

theorem filterMap_raced {before after : List (Invocation ν)}
    (h : List.Forall₂ RacedFrom before after) :
    after.filterMap Invocation.fact? = before.filterMap Invocation.fact? := by
  induction h with
  | nil => rfl
  | @cons first last _ _ hraced _ ih =>
    have hfact : last.fact? = first.fact? := by
      rcases hraced with rfl | ⟨hstage, raced, rfl⟩
      · rfl
      · simp only [Invocation.fact?, hstage]
    rw [List.filterMap_cons, List.filterMap_cons, ih, hfact]

theorem refs_set (hi : invocations[i]? = some before) (hhook : after.hook = before.hook) :
    (invocations.set i after).map (·.hook.ref) = invocations.map (·.hook.ref) := by
  induction invocations generalizing i with
  | nil => rfl
  | cons first rest ih =>
    cases i with
    | zero =>
      obtain rfl : first = before := by simpa using hi
      rw [List.set_cons_zero, List.map_cons, List.map_cons, hhook]
    | succ i =>
      rw [List.set_cons_succ, List.map_cons, List.map_cons, ih (by simpa using hi)]

theorem refs_raced {before after : List (Invocation ν)} (h : List.Forall₂ RacedFrom before after) :
    after.map (·.hook.ref) = before.map (·.hook.ref) := by
  induction h with
  | nil => rfl
  | cons hraced _ ih =>
    rw [List.map_cons, List.map_cons, ih, (advances_of_racedFrom hraced).hook]

theorem fact?_of_live (hlive : ¬invocation.stage.HasEnded) : invocation.fact? = none := by
  unfold Invocation.fact?
  split
  · exact absurd ⟨_, ‹_›⟩ hlive
  · exact absurd ⟨_, ‹_›⟩ hlive
  · rfl

theorem KernelInv.enter (h : KernelInv s) (hi : s.invocations[i]? = some before)
    (hmoves : Moves before after) : KernelInv (s.enter i after) := by
  have hrefs : refs (s.enter i after) = refs s := refs_set hi hmoves.hook
  constructor
  · rw [hrefs]
    exact h.nodup
  · rw [hrefs]
    exact h.executed
  · exact (filterMap_set hi (fact?_of_live hmoves.live)).trans (h.facts.append_right _)
  · exact h.disposed

/-- **One step.** -/
theorem KernelInv.step {input : Input ν} (h : KernelInv s) (hstep : KernelStep s input s') :
    KernelInv s' := by
  cases hstep with
  | same => exact h
  | started invocation hactive hnew =>
    -- a hook is started when its ref is new, and then noted with its fact
    have hrefs : refs { s with
        executedHooks := invocation.hook.ref :: s.executedHooks
        invocations := s.invocations ++ [invocation]
        facts := s.facts ++ invocation.fact?.toList } = refs s ++ [invocation.hook.ref] := by
      unfold refs
      rw [List.map_append, List.map_singleton]
    constructor
    · have hfresh : invocation.hook.ref ∉ refs s := fun hmem => hnew (h.executed _ hmem)
      rw [hrefs]
      exact List.nodup_append.mpr ⟨h.nodup, by simp, by
        intro ref href other hother
        rintro rfl
        exact hfresh (List.mem_singleton.mp hother ▸ href)⟩
    · intro ref href
      rw [hrefs, List.mem_append, List.mem_singleton] at href
      rcases href with hold | rfl
      · exact List.mem_cons_of_mem _ (h.executed ref hold)
      · exact List.mem_cons_self
    · have hfact : [invocation].filterMap Invocation.fact? = invocation.fact?.toList := by
        cases hfact : invocation.fact? with
        | none => exact List.filterMap_cons_none hfact
        | some fact => exact List.filterMap_cons_some hfact
      rw [List.filterMap_append, hfact]
      exact h.facts.append_right _
    · exact fun hfinished => absurd (hactive.symm.trans hfinished) nofun
  | entered i before after hi hmoves => exact h.enter hi hmoves
  | published i before after result patch artifacts hinput hi hmoves hstage hended hpatch hactive =>
    have hartifacts : KernelInv { s with artifacts } :=
      ⟨h.nodup, h.executed, h.facts, fun hfinished => absurd (hactive.symm.trans hfinished) nofun⟩
    exact hartifacts.enter hi hmoves
  | raced invocations aborted hraced =>
    have hrefs : refs { s with invocations, signalAborted := aborted } = refs s :=
      refs_raced hraced
    refine ⟨?_, ?_, ?_, h.disposed⟩
    · rw [hrefs]
      exact h.nodup
    · rw [hrefs]
      exact h.executed
    · change (invocations.filterMap Invocation.fact?).Perm s.facts
      rw [filterMap_raced hraced]
      exact h.facts
  | set i invocation key value hinput hi hlive hactive =>
    exact ⟨h.nodup, h.executed, h.facts,
      fun hfinished => absurd (hactive.symm.trans hfinished) nofun⟩
  | trusted patch artifacts hinput hactive hpublish =>
    exact ⟨h.nodup, h.executed, h.facts,
      fun hfinished => absurd (hactive.symm.trans hfinished) nofun⟩
  | disposed hinput hactive =>
    exact ⟨h.nodup, h.executed, h.facts, fun _ => ⟨fun _ => rfl, fun _ => rfl⟩⟩

end Frely.Pipeline
