import Frely.Gateway.Equiv.PipelineSteps
import Frely.Lib.Machine

/-!
# Isolation of pipeline hooks

`CallInv` ties the hooks that a call of `executePhase` has started to the order of its phase.
`pipeline_isolated` collects what holds in every run: of artifacts and context values, of the hooks
that run, and of `finish`.
-/

namespace Frely.Pipeline

variable {ν : Type}

/-! ### Calls of `executePhase` -/

/-- A call starts the hooks of its phase in their order, each after the one before has ended
without being denied, and without failing unless it is best effort. -/
structure CallInv (plan : ExecutionPlan) (invocations : List (Invocation ν)) (call : PhaseCall) :
    Prop where
  remaining : call.remaining = (plan.hooksByPhase call.phase).drop call.started.length
  started : ∀ k i, call.started[k]? = some i → ∃ invocation, invocations[i]? = some invocation ∧
    (plan.hooksByPhase call.phase)[k]? = some invocation.hook ∧
    (k + 1 < call.started.length → Session.goesOn invocation = some true)

theorem hasEnded_of_goesOn {invocation : Invocation ν} {goes : Bool}
    (h : Session.goesOn invocation = some goes) : invocation.stage.HasEnded := by
  unfold Session.goesOn at h
  split at h
  · exact ⟨_, ‹_›⟩
  · exact ⟨_, ‹_›⟩
  · exact ⟨_, ‹_›⟩
  · cases h

theorem CallInv.advance {plan : ExecutionPlan} {before after : List (Invocation ν)}
    {call : PhaseCall} (h : CallInv plan before call)
    (hadvances : ∀ (j : Nat) (first : Invocation ν), before[j]? = some first →
      ∃ last, after[j]? = some last ∧ Advances first last) : CallInv plan after call := by
  refine ⟨h.remaining, fun k i hk => ?_⟩
  obtain ⟨first, hfirst, hhook, hgoes⟩ := h.started k i hk
  obtain ⟨last, hlast, hadvance⟩ := hadvances i first hfirst
  refine ⟨last, hlast, hadvance.hook ▸ hhook, fun hlt => ?_⟩
  rw [hadvance.ended (hasEnded_of_goesOn (hgoes hlt))]
  exact hgoes hlt

/-- The kernel, and the calls that share its invocations without overlapping. -/
structure SessionInv (plan : ExecutionPlan) (s : Session ν) : Prop where
  kernel : KernelInv s.toKernel
  calls : ∀ call ∈ s.calls, CallInv plan s.invocations call
  apart : ∀ (c d : Nat) (call other : PhaseCall), s.calls[c]? = some call →
    s.calls[d]? = some other → c ≠ d → ∀ i ∈ call.started, i ∉ other.started

section Sessions

variable {plan : ExecutionPlan} {maxInvocationFacts : Nat} {s s' : Session ν} {input : Input ν}

theorem CallInv.lt_length {invocations : List (Invocation ν)} {call : PhaseCall}
    (h : CallInv plan invocations call) {i : Nat} (hi : i ∈ call.started) :
    i < invocations.length := by
  obtain ⟨k, hk⟩ := List.mem_iff_getElem?.mp hi
  obtain ⟨invocation, hinvocation, -⟩ := h.started k i hk
  exact (List.getElem?_eq_some_iff.mp hinvocation).1

theorem SessionInv.of_kernel (h : SessionInv plan s)
    (hstep : KernelStep s.toKernel input s'.toKernel) (hcalls : s'.calls = s.calls) :
    SessionInv plan s' := by
  constructor
  · exact h.kernel.step hstep
  · rw [hcalls]
    exact fun call hcall => (h.calls call hcall).advance fun j first => hstep.advances
  · rw [hcalls]
    exact h.apart

/-- One call goes on. -/
theorem SessionInv.of_call (h : SessionInv plan s)
    (hstep : KernelStep s.toKernel input s'.toKernel) {c : Nat} {call call' : PhaseCall}
    (hc : s.calls[c]? = some call) (hcalls : s'.calls = s.calls.set c call')
    (hcall : CallInv plan s'.invocations call')
    (hnew : ∀ i ∈ call'.started, i ∈ call.started ∨ s.invocations.length ≤ i) :
    SessionInv plan s' := by
  have hlt : c < s.calls.length := (List.getElem?_eq_some_iff.mp hc).1
  have hother : ∀ (d : Nat) (other : PhaseCall), c ≠ d → s.calls[d]? = some other →
      ∀ i ∈ other.started, i ∉ call'.started := by
    intro d other hne hd i hi hmem
    have hbound := (h.calls other (List.mem_of_getElem? hd)).lt_length hi
    rcases hnew i hmem with hold | hold
    · exact h.apart c d call other hc hd hne i hold hi
    · omega
  constructor
  · exact h.kernel.step hstep
  · intro other hmem
    rw [hcalls] at hmem
    rcases List.mem_or_eq_of_mem_set hmem with hmem | rfl
    · exact (h.calls other hmem).advance fun j first => hstep.advances
    · exact hcall
  · intro d e first second hd he hne
    rw [hcalls] at hd he
    by_cases hcd : c = d
    · subst hcd
      obtain rfl : call' = first := by simpa [hlt] using hd
      rw [List.getElem?_set_ne hne] at he
      exact fun i hi hmem => hother e second hne he i hmem hi
    · rw [List.getElem?_set_ne hcd] at hd
      by_cases hce : c = e
      · subst hce
        obtain rfl : call' = second := by simpa [hlt] using he
        exact hother d first hcd hd
      · rw [List.getElem?_set_ne hce] at he
        exact h.apart d e first second hd he hne

theorem SessionInv.stopped (h : SessionInv plan s) {c : Nat} {call : PhaseCall}
    (hc : s.calls[c]? = some call) :
    SessionInv plan { s with calls := s.calls.set c { call with ended := true } } := by
  have hcall := h.calls call (List.mem_of_getElem? hc)
  exact @SessionInv.of_call ν plan s { s with calls := s.calls.set c { call with ended := true } }
    .abort h .same c call _ hc rfl ⟨hcall.remaining, hcall.started⟩ fun i hi => .inl hi

theorem SessionInv.startNext (h : SessionInv plan s) {c : Nat} {call : PhaseCall}
    (hc : s.calls[c]? = some call)
    (hgoes : ∀ i, call.started.getLast? = some i →
      (s.invocations[i]?).bind Session.goesOn = some true) :
    SessionInv plan (s.startNext plan maxInvocationFacts c call) := by
  have hcall := h.calls call (List.mem_of_getElem? hc)
  have hstopped := h.stopped hc
  unfold Session.startNext
  cases hremaining : call.remaining with
  | nil =>
    rw [hremaining] at hstopped
    exact hstopped
  | cons hook rest =>
    dsimp only
    cases hstart : s.toKernel.startHook plan maxInvocationFacts hook with
    | none =>
      rw [hremaining] at hstopped
      exact hstopped
    | some kernel =>
      have hstep : KernelStep s.toKernel .abort kernel := kernelStep_startHook hstart
      -- the new invocation is the last one, and is of the next hook of the phase
      have hnext : kernel.invocations[s.invocations.length]? =
          some ⟨hook, s.toKernel.firstStage plan hook⟩ := by
        unfold Kernel.startHook at hstart
        split_ifs at hstart
        obtain rfl := Option.some.inj hstart
        exact List.getElem?_concat_length
      have hdrop : (plan.hooksByPhase call.phase).drop call.started.length = hook :: rest :=
        hcall.remaining.symm.trans hremaining
      refine @SessionInv.of_call ν plan s _ .abort h hstep c call _ hc rfl ⟨?_, ?_⟩ ?_
      · show rest =
          (plan.hooksByPhase call.phase).drop (call.started ++ [s.invocations.length]).length
        rw [List.length_append, List.length_singleton, ← List.drop_drop, hdrop]
        rfl
      · intro k i hk
        change (call.started ++ [s.invocations.length])[k]? = some i at hk
        -- an invocation of before has ended by now and goes on, the new one is not judged
        rcases Nat.lt_trichotomy k call.started.length with hlt | rfl | hgt
        · rw [List.getElem?_append_left hlt] at hk
          obtain ⟨first, hfirst, hhook, hbefore⟩ := hcall.started k i hk
          obtain ⟨last, hlast, hadvance⟩ := hstep.advances hfirst
          refine ⟨last, hlast, hadvance.hook ▸ hhook, fun _ => ?_⟩
          have hgoes : Session.goesOn first = some true := by
            by_cases hkl : k + 1 < call.started.length
            · exact hbefore hkl
            · have hgetLast : call.started.getLast? = some i := by
                rw [List.getLast?_eq_getElem?, ← hk]
                congr 1
                omega
              simpa [hfirst] using hgoes i hgetLast
          rw [hadvance.ended (hasEnded_of_goesOn hgoes)]
          exact hgoes
        · rw [List.getElem?_concat_length] at hk
          obtain rfl := Option.some.inj hk
          refine ⟨_, hnext, ?_, fun hlt => ?_⟩
          · have hhead := congrArg (·[0]?) hdrop
            simpa using hhead
          · rw [List.length_append, List.length_singleton] at hlt
            omega
        · rw [List.getElem?_eq_none (by simpa using Nat.succ_le_of_lt hgt)] at hk
          cases hk
      · intro i hi
        rcases List.mem_append.mp hi with hold | hnew
        · exact .inl hold
        · obtain rfl := List.mem_singleton.mp hnew
          exact .inr (Nat.le_refl _)

theorem SessionInv.opened (h : SessionInv plan s) (phase : PipelinePhase) :
    SessionInv plan
      { s with calls := s.calls ++ [⟨phase, [], plan.hooksByPhase phase, false⟩] } := by
  constructor
  · exact h.kernel
  · intro call hcall
    rcases List.mem_append.mp hcall with hcall | hcall
    · exact h.calls call hcall
    · obtain rfl := List.mem_singleton.mp hcall
      exact ⟨rfl, fun k i hk => by simp at hk⟩
  · intro c d first second hc hd hne i hfirst hsecond
    have hold : ∀ (e : Nat) (call : PhaseCall),
        (s.calls ++ [⟨phase, [], plan.hooksByPhase phase, false⟩])[e]? = some call →
          i ∈ call.started → s.calls[e]? = some call := by
      intro e call he hi
      rcases Nat.lt_trichotomy e s.calls.length with hlt | rfl | hgt
      · rwa [List.getElem?_append_left hlt] at he
      · rw [List.getElem?_concat_length] at he
        obtain rfl := Option.some.inj he
        cases hi
      · rw [List.getElem?_eq_none (by simpa using Nat.succ_le_of_lt hgt)] at he
        cases he
    exact h.apart c d first second (hold c first hc hfirst) (hold d second hd hsecond) hne i hfirst
      hsecond

theorem step_calls (hphase : ∀ phase, input ≠ .executePhase phase)
    (hnext : ∀ c, input ≠ .nextHook c) :
    (step plan maxInvocationFacts input s).2.calls = s.calls := by
  cases input with
  | executePhase phase => exact absurd rfl (hphase phase)
  | nextHook c => exact absurd rfl (hnext c)
  | abort => rfl
  | finish => rfl
  | executeHook hook =>
    simp only [step, answerKernel]
    split <;> rfl
  | setValue i key value =>
    simp only [step, onInvocation, answerKernel]
    repeat' split
    all_goals rfl
  | _ =>
    simp only [step, onInvocation]
    repeat' split
    all_goals rfl

/-- **One step.** -/
theorem SessionInv.step (h : SessionInv plan s) (input : Input ν) :
    SessionInv plan (step plan maxInvocationFacts input s).2 := by
  by_cases hphase : ∃ phase, input = .executePhase phase
  · obtain ⟨phase, rfl⟩ := hphase
    exact (h.opened phase).startNext List.getElem?_concat_length nofun
  by_cases hnext : ∃ c, input = .nextHook c
  · obtain ⟨c, rfl⟩ := hnext
    simp only [Pipeline.step]
    cases hc : s.calls[c]? with
    | none => exact h
    | some call =>
      simp only [Session.nextHook]
      split
      · exact h
      split
      · exact h
      next i hlast =>
        split
        · exact h
        next hgoes =>
          refine h.startNext hc fun j hj => ?_
          obtain rfl : i = j := Option.some.inj (hlast.symm.trans hj)
          exact hgoes
        · exact h.stopped hc
  · exact h.of_kernel (step_kernel input s)
      (step_calls (fun phase heq => hphase ⟨phase, heq⟩) fun c heq => hnext ⟨c, heq⟩)

end Sessions

/-! ### Artifacts and context values -/

section Artifacts

variable {s s' : Kernel ν} {input : Input ν}

theorem KernelStep.finished (h : KernelStep s input s') (hfinished : s.finished = true) :
    s'.finished = true := by
  cases h with
  | disposed => rfl
  | _ => exact hfinished

theorem KernelStep.kept (h : KernelStep s input s') (hactive : s'.finished = false) :
    Kept s.artifacts s'.artifacts := by
  cases h with
  | published i before after result patch artifacts hinput hi hmoves hstage hended hpatch hactive
      hpublish => exact (kept_of_published hpublish).2
  | trusted patch artifacts hinput hactive hpublish => exact (kept_of_trusted hpublish).2
  | disposed => exact absurd hactive nofun
  | _ => exact fun name _ _ => rfl

/-- An invocation that has ended is of no more effect. -/
theorem KernelStep.of_ended (h : KernelStep s input s') {i : Nat} {invocation : Invocation ν}
    (hinput : input.invocation? = some i) (hi : s.invocations[i]? = some invocation)
    (hended : invocation.stage.HasEnded) :
    s'.artifacts = s.artifacts ∧ s'.values = s.values := by
  cases h with
  | published j before after result patch artifacts hresume hj hmoves =>
    subst hresume
    obtain rfl : j = i := Option.some.inj hinput
    obtain rfl : before = invocation := Option.some.inj (hj.symm.trans hi)
    exact absurd hended hmoves.live
  | set j other key value hset hj hlive =>
    subst hset
    obtain rfl : j = i := Option.some.inj hinput
    obtain rfl : other = invocation := Option.some.inj (hj.symm.trans hi)
    exact absurd hended hlive
  | trusted patch artifacts htrusted =>
    subst htrusted
    cases hinput
  | disposed hnone => exact absurd (hnone.symm.trans hinput) nofun
  | _ => exact ⟨rfl, rfl⟩

theorem KernelStep.eq_of_finished (h : KernelStep s input s') (hfinished : s.finished = true) :
    s'.artifacts = s.artifacts ∧ s'.values = s.values ∧
      s'.invocations.length = s.invocations.length := by
  cases h with
  | same => exact ⟨rfl, rfl, rfl⟩
  | entered i before after => exact ⟨rfl, rfl, List.length_set⟩
  | raced invocations aborted hraced => exact ⟨rfl, rfl, hraced.length_eq.symm⟩
  | started invocation hactive => exact absurd (hactive.symm.trans hfinished) nofun
  | published i before after result patch artifacts hinput hi hmoves hstage hended hpatch hactive =>
    exact absurd (hactive.symm.trans hfinished) nofun
  | set i invocation key value hinput hi hlive hactive =>
    exact absurd (hactive.symm.trans hfinished) nofun
  | trusted patch artifacts hinput hactive => exact absurd (hactive.symm.trans hfinished) nofun
  | disposed hinput hactive => exact absurd (hactive.symm.trans hfinished) nofun

end Artifacts

/-! ### Runs -/

abbrev SessionStep (ν : Type) := Machine.Step (Input ν) (Answer ν) (Session ν)

/-- The step calls `run` of the hook. -/
def runs (ref : String) (t : SessionStep ν) : Bool :=
  t.after.invocations.zipIdx.any fun (invocation, i) =>
    invocation.hook.ref == ref && invocation.stage.isRunning &&
      (t.before.invocations[i]?).all (·.stage.isChecking)

/-- The step that sets an artifact. -/
def sets (name : ArtifactName) (t : SessionStep ν) : Bool :=
  (t.before.artifacts name).isNone && (t.after.artifacts name).isSome

/-- The step that finishes the session. -/
def finishes (t : SessionStep ν) : Bool := !t.before.finished && t.after.finished

/-- A wrapped stream or iterable ends: it is done, it fails, or its reader gives it up. -/
def endsWrapped (t : SessionStep ν) : Bool :=
  match t.input with
  | .pull w read => t.before.wrapped[w]? = some .stream && read ≠ .value
  | .cancel w => t.before.wrapped[w]? = some .stream
  | .next w read => t.before.wrapped[w]? = some (.iterable false) && read ≠ .value
  | .close w => t.before.wrapped[w]? = some (.iterable false)
  | _ => false

/-- The input starts a hook, or reads or writes an artifact or a context value. -/
def Input.accesses : Input ν → Bool
  | executeHook _ => true
  | getValue _ _ => true
  | setValue _ _ _ => true
  | getArtifact _ _ => true
  | readArtifact _ => true
  | publishTrusted _ => true
  | wrapStream => true
  | wrapAsyncIterable => true
  | _ => false

/-- What a step does to the artifacts. -/
inductive ArtifactsChange (t : SessionStep ν) : Prop where
  | unchanged (h : t.after.artifacts = t.before.artifacts)
  | trusted (patch : Patch ν) (hinput : t.input = .publishTrusted patch)
    (h : t.after.artifacts = patch.applied t.before.artifacts)
  | returned (i : Nat) (before after : Invocation ν) (result : HookResult ν) (patch : Patch ν)
    (hinput : t.input = .resume i) (hbefore : t.before.invocations[i]? = some before)
    (hstage : before.stage = .running (some (.returned result)))
    (hafter : t.after.invocations[i]? = some after)
    (hended : after.stage = .ended (.returned result.outcome))
    (hpatch : result.artifacts = some patch)
    (h : t.after.artifacts = patch.applied t.before.artifacts)
  | disposed (h : finishes t = true)

/-- Hooks are isolated in a run. -/
structure Isolated (plan : ExecutionPlan) (initialArtifacts : Artifacts ν)
    (trace : List (SessionStep ν)) (final : Session ν) : Prop where
  /-- Artifacts change by whole patches. -/
  changes : ∀ t ∈ trace, ArtifactsChange t
  originalRequest : ∀ t ∈ trace, t.after.finished = false →
    t.after.artifacts .originalRequest = initialArtifacts .originalRequest
  /-- An artifact that may not be replaced is set once, and then stays. -/
  setOnce : ∀ name : ArtifactName, name.isReplaceable = false →
    (initialArtifacts name).isSome.toNat + trace.countP (sets name) ≤ 1
  stays : ∀ name : ArtifactName, name.isReplaceable = false → ∀ t ∈ trace,
    (t.before.artifacts name).isSome = true → t.after.finished = false →
      t.after.artifacts name = t.before.artifacts name
  /-- An invocation that has ended changes nothing. -/
  ended : ∀ t ∈ trace, ∀ i, t.input.invocation? = some i → ∀ invocation,
    t.before.invocations[i]? = some invocation → invocation.stage.HasEnded →
      t.after.artifacts = t.before.artifacts ∧ t.after.values = t.before.values
  /-- A hook has one invocation, and runs once. -/
  refs : (refs final.toKernel).Nodup
  runsOnce : ∀ ref, trace.countP (runs ref) ≤ 1
  /-- The facts are those of the invocations that have ended. -/
  facts : (final.invocations.filterMap Invocation.fact?).Perm final.facts
  /-- The hooks of a phase start in order, each after the one before went well. -/
  phases : ∀ call ∈ final.calls, CallInv plan final.invocations call
  /-- At most one call of a phase starts hooks. -/
  alone : ∀ (c d : Nat) (call other : PhaseCall), final.calls[c]? = some call →
    final.calls[d]? = some other → c ≠ d → call.phase = other.phase →
      call.started = [] ∨ other.started = []
  finishesOnce : trace.countP finishes = final.finished.toNat
  finishes : ∀ t ∈ trace, endsWrapped t = true → t.after.finished = true
  /-- After `finish` nothing can be read or written. -/
  closed : ∀ t ∈ trace, t.before.finished = true →
    t.after.finished = true ∧ (∀ name, t.after.artifacts name = none) ∧
      (∀ id, t.after.values id = none) ∧
      t.after.invocations.length = t.before.invocations.length ∧
      (t.input.accesses = true → t.output matches .threw)

section Runs

variable {plan : ExecutionPlan} {maxInvocationFacts : Nat} {s : Session ν}

theorem sessionInv_start (initialArtifacts : Artifacts ν) :
    SessionInv plan (start initialArtifacts) := by
  constructor
  · exact ⟨List.nodup_nil, fun ref href => absurd href List.not_mem_nil, .nil, nofun⟩
  · exact fun call hcall => absurd hcall List.not_mem_nil
  · intro c d call other hc
    cases hc

theorem artifactsChange (input : Input ν) (s : Session ν) :
    ArtifactsChange (Machine.stepOf (step plan maxInvocationFacts) s input) := by
  have hstep := @step_kernel ν plan maxInvocationFacts input s
  unfold Machine.stepOf
  generalize (step plan maxInvocationFacts input s).2 = s' at hstep ⊢
  obtain ⟨kernel, calls, wrapped⟩ := s'
  cases hstep with
  | published i before after result patch artifacts hinput hi hmoves hstage hended hpatch hactive
      hpublish =>
    exact .returned i before after result patch hinput hi hstage
      (List.getElem?_set_self (List.getElem?_eq_some_iff.mp hi).1) hended hpatch
      (kept_of_published hpublish).1
  | trusted patch artifacts hinput hactive hpublish =>
    exact .trusted patch hinput (kept_of_trusted hpublish).1
  | disposed hinput hactive => exact .disposed (by simp [finishes, hactive])
  | _ => exact .unchanged rfl

theorem step_kept {name : ArtifactName} (hreplaceable : name.isReplaceable = false)
    (hname : name = .originalRequest ∨ (s.artifacts name).isSome = true) (input : Input ν)
    (hactive : (step plan maxInvocationFacts input s).2.finished = false) :
    (step plan maxInvocationFacts input s).2.artifacts name = s.artifacts name :=
  (step_kernel input s).kept hactive name hreplaceable hname

theorem countP_sets (name : ArtifactName) (hreplaceable : name.isReplaceable = false)
    (hs : SessionInv plan s) (inputs : List (Input ν)) :
    (s.artifacts name).isSome.toNat +
      (Machine.trace (step plan maxInvocationFacts) s inputs).countP (sets name) ≤ 1 := by
  have hkeep : ∀ input (s : Session ν), SessionInv plan s →
      ((s.artifacts name).isSome = true ∨ s.finished = true) →
      (((step plan maxInvocationFacts input s).2.artifacts name).isSome = true ∨
        (step plan maxInvocationFacts input s).2.finished = true) := by
    intro input s hs hflag
    rcases hflag with hsome | hfinished
    · cases hactive : (step plan maxInvocationFacts input s).2.finished with
      | true => exact .inr rfl
      | false =>
        refine .inl ?_
        rw [step_kept hreplaceable (.inr hsome) input hactive]
        exact hsome
    · exact .inr ((step_kernel input s).finished hfinished)
  -- the flag is "set, or finished": an artifact is set only while it is down, and that raises it
  have hdown : ∀ input (s : Session ν), SessionInv plan s →
      sets name (Machine.stepOf (step plan maxInvocationFacts) s input) = true →
      ¬((s.artifacts name).isSome = true ∨ s.finished = true) := by
    intro input s hs hevent hflag
    obtain ⟨hbefore, hafter⟩ := Bool.and_eq_true_iff.mp hevent
    change (s.artifacts name).isNone = true at hbefore
    change ((step plan maxInvocationFacts input s).2.artifacts name).isSome = true at hafter
    rcases hflag with hsome | hfinished
    · rw [Option.isNone_iff_eq_none.mp hbefore] at hsome
      exact absurd hsome nofun
    · rw [((step_kernel input s).eq_of_finished hfinished).1,
        Option.isNone_iff_eq_none.mp hbefore] at hafter
      exact absurd hafter nofun
  have hup : ∀ input (s : Session ν), SessionInv plan s →
      sets name (Machine.stepOf (step plan maxInvocationFacts) s input) = true →
      (((step plan maxInvocationFacts input s).2.artifacts name).isSome = true ∨
        (step plan maxInvocationFacts input s).2.finished = true) :=
    fun input s _ hevent => .inl (Bool.and_eq_true_iff.mp hevent).2
  have hinv : ∀ input (s : Session ν), SessionInv plan s →
      SessionInv plan (step plan maxInvocationFacts input s).2 := fun input s hs => hs.step input
  cases hsome : (s.artifacts name).isSome with
  | true =>
    have hzero := Machine.countP_eq_zero hinv hkeep hdown hs (.inl hsome) inputs
    rw [hzero]
    exact Nat.le_refl 1
  | false =>
    have hone := Machine.countP_le_one hinv hkeep hdown hup hs inputs
    rw [Bool.toNat_false, Nat.zero_add]
    exact hone

/-- An invocation of the hook has got past `isApplicable`. -/
def HasLeft (ref : String) (s : Session ν) : Prop :=
  ∃ invocation ∈ s.invocations, invocation.hook.ref = ref ∧ invocation.stage.isChecking = false

theorem exists_of_runs {ref : String} {t : SessionStep ν} (h : runs ref t = true) :
    ∃ (i : Nat) (invocation : Invocation ν), t.after.invocations[i]? = some invocation ∧
      invocation.hook.ref = ref ∧ invocation.stage.isRunning = true ∧
      ∀ before, t.before.invocations[i]? = some before → before.stage.isChecking = true := by
  obtain ⟨⟨invocation, i⟩, hmem, hall⟩ := List.any_eq_true.mp h
  simp only [Bool.and_eq_true, beq_iff_eq] at hall
  obtain ⟨⟨href, hrunning⟩, hbefore⟩ := hall
  refine ⟨i, invocation, List.mem_zipIdx_iff_getElem?.mp hmem, href, hrunning, ?_⟩
  intro before hi
  rw [hi] at hbefore
  exact hbefore

theorem isChecking_of_isRunning {stage : Stage ν} (h : stage.isRunning = true) :
    stage.isChecking = false := by
  cases stage with
  | running raced => rfl
  | _ => exact absurd h nofun

theorem index_unique {s : Kernel ν} (h : KernelInv s) {i j : Nat} {first second : Invocation ν}
    (hi : s.invocations[i]? = some first) (hj : s.invocations[j]? = some second)
    (href : first.hook.ref = second.hook.ref) : i = j := by
  have hfirst : (refs s)[i]? = some first.hook.ref := by
    rw [refs, List.getElem?_map, hi]
    rfl
  have hsecond : (refs s)[j]? = some first.hook.ref := by
    rw [refs, List.getElem?_map, hj, href]
    rfl
  have hlt : i < (refs s).length := (List.getElem?_eq_some_iff.mp hfirst).1
  exact (List.getElem?_inj hlt h.nodup).mp (hfirst.trans hsecond.symm)

theorem countP_runs (ref : String) (hs : SessionInv plan s) (inputs : List (Input ν)) :
    (Machine.trace (step plan maxInvocationFacts) s inputs).countP (runs ref) ≤ 1 := by
  refine @Machine.countP_le_one _ _ _ (step plan maxInvocationFacts) (SessionInv plan) (HasLeft ref)
    (runs ref) (fun input s hs => hs.step input) ?_ ?_ ?_ s hs inputs
  · rintro input s hs ⟨invocation, hmem, href, hleft⟩
    obtain ⟨i, hi⟩ := List.mem_iff_getElem?.mp hmem
    obtain ⟨after, hafter, hadvances⟩ := (step_kernel input s).advances hi
    exact ⟨after, List.mem_of_getElem? hafter, hadvances.hook ▸ href, hadvances.left hleft⟩
  · rintro input s hs hevent ⟨invocation, hmem, href, hleft⟩
    obtain ⟨i, running, hi, hrunningRef, hrunning, hbefore⟩ := exists_of_runs hevent
    obtain ⟨j, hj⟩ := List.mem_iff_getElem?.mp hmem
    obtain ⟨after, hafter, hadvances⟩ := (step_kernel input s).advances hj
    have hsame : after.hook.ref = running.hook.ref := by
      rw [hadvances.hook, href, hrunningRef]
    obtain rfl : j = i := index_unique (hs.step input).kernel hafter hi hsame
    have hchecking := hbefore invocation hj
    rw [hleft] at hchecking
    exact absurd hchecking nofun
  · intro input s hs hevent
    obtain ⟨i, running, hi, hrunningRef, hrunning, hbefore⟩ := exists_of_runs hevent
    exact ⟨running, List.mem_of_getElem? hi, hrunningRef, isChecking_of_isRunning hrunning⟩

theorem SessionInv.alone (h : SessionInv plan s) {c d : Nat} {call other : PhaseCall}
    (hc : s.calls[c]? = some call) (hd : s.calls[d]? = some other) (hne : c ≠ d)
    (hphase : call.phase = other.phase) : call.started = [] ∨ other.started = [] := by
  cases hcall : call.started with
  | nil => exact .inl rfl
  | cons i rest =>
    cases hother : other.started with
    | nil => exact .inr rfl
    | cons j more =>
      obtain ⟨first, hfirst, hfirstHook, -⟩ :=
        (h.calls call (List.mem_of_getElem? hc)).started 0 i (by rw [hcall]; rfl)
      obtain ⟨second, hsecond, hsecondHook, -⟩ :=
        (h.calls other (List.mem_of_getElem? hd)).started 0 j (by rw [hother]; rfl)
      have hhook : first.hook = second.hook := by
        rw [hphase] at hfirstHook
        exact Option.some.inj (hfirstHook.symm.trans hsecondHook)
      have hij : i = j := index_unique h.kernel hfirst hsecond (congrArg _ hhook)
      have hmem : i ∈ other.started := by
        rw [hother, hij]
        exact List.mem_cons_self
      exact absurd hmem (h.apart c d call other hc hd hne i (hcall ▸ List.mem_cons_self))

theorem countP_finishes (s : Session ν) (inputs : List (Input ν)) :
    s.finished.toNat +
      (Machine.trace (step plan maxInvocationFacts) s inputs).countP Pipeline.finishes =
      (Machine.final (step plan maxInvocationFacts) s inputs).finished.toNat := by
  induction inputs generalizing s with
  | nil => rfl
  | cons input inputs ih =>
    have hnext := ih (step plan maxInvocationFacts input s).2
    have hmono := @(@step_kernel ν plan maxInvocationFacts input s).finished
    rw [Machine.trace, List.countP_cons, Machine.final, ← hnext]
    simp only [finishes, Machine.stepOf]
    by_cases hbefore : s.finished = true
    · simp [hbefore, hmono hbefore]
    · by_cases hafter : (step plan maxInvocationFacts input s).2.finished = true
      · simp [hbefore, hafter, Nat.add_comm]
      · simp [hbefore, hafter]

theorem finish_finished (s : Session ν) : s.finish.finished = true := by
  simp only [Session.finish, Session.withKernel, Kernel.finish]
  split_ifs with hfinished
  · exact hfinished
  · rfl

theorem finished_of_endsWrapped (input : Input ν) (s : Session ν)
    (h : endsWrapped (Machine.stepOf (step plan maxInvocationFacts) s input) = true) :
    (step plan maxInvocationFacts input s).2.finished = true := by
  cases input with
  | pull w read =>
    obtain ⟨hw, hread⟩ := Bool.and_eq_true_iff.mp h
    have hw : s.wrapped[w]? = some .stream := of_decide_eq_true hw
    simp only [step, hw]
    cases read with
    | value => exact absurd hread Bool.false_ne_true
    | _ => exact finish_finished s
  | cancel w =>
    have hw : s.wrapped[w]? = some .stream := of_decide_eq_true h
    simp only [step, hw]
    exact finish_finished s
  | next w read =>
    obtain ⟨hw, hread⟩ := Bool.and_eq_true_iff.mp h
    have hw : s.wrapped[w]? = some (.iterable false) := of_decide_eq_true hw
    simp only [step, hw]
    cases read with
    | value => exact absurd hread Bool.false_ne_true
    | _ => exact finish_finished _
  | close w =>
    have hw : s.wrapped[w]? = some (.iterable false) := of_decide_eq_true h
    simp only [step, hw]
    exact finish_finished _
  | _ => exact absurd h Bool.false_ne_true

theorem threw_of_finished (hfinished : s.finished = true) {input : Input ν}
    (haccesses : input.accesses = true) :
    (step plan maxInvocationFacts input s).1 matches .threw := by
  cases input with
  | executeHook hook => simp [step, Kernel.startHook, hfinished, answerKernel]
  | getValue i key =>
    simp only [step, onInvocation, Kernel.getValue, if_pos hfinished]
    cases s.invocations[i]? <;> rfl
  | setValue i key value =>
    simp only [step, onInvocation, Kernel.setValue, if_pos hfinished, answerKernel]
    cases s.invocations[i]? <;> rfl
  | getArtifact i name =>
    simp only [step, onInvocation, hfinished, true_or, if_true]
    cases s.invocations[i]? <;> rfl
  | readArtifact name => simp [step, hfinished]
  | publishTrusted patch => simp [step, hfinished]
  | wrapStream => simp [step, hfinished]
  | wrapAsyncIterable => simp [step, hfinished]
  | _ => exact absurd haccesses Bool.false_ne_true

/-- **Pipeline hooks are isolated**, in whatever order their inputs come. -/
theorem pipeline_isolated (plan : ExecutionPlan) (maxInvocationFacts : Nat)
    (initialArtifacts : Artifacts ν) (inputs : List (Input ν)) :
    Isolated plan initialArtifacts
      (Machine.trace (step plan maxInvocationFacts) (start initialArtifacts) inputs)
      (Machine.final (step plan maxInvocationFacts) (start initialArtifacts) inputs) := by
  have hstart : SessionInv plan (start initialArtifacts) := sessionInv_start initialArtifacts
  obtain ⟨hfinal, htrace⟩ := @Machine.invariant _ _ _ (step plan maxInvocationFacts)
    (SessionInv plan) (fun _ => True) (fun input s hs _ => hs.step input) _ hstart inputs
    fun _ _ => trivial
  -- the original request is set at the start, and nothing may publish it again
  have horiginal := (@Machine.invariant _ _ _ (step plan maxInvocationFacts)
    (fun s => s.finished = false → s.artifacts .originalRequest = initialArtifacts .originalRequest)
    (fun _ => True) (by
      intro input s hs _ hactive
      rw [step_kept rfl (.inl rfl) input hactive]
      refine hs ?_
      cases hfinished : s.finished with
      | false => rfl
      | true => exact (((step_kernel input s).finished hfinished).symm.trans hactive))
    (start initialArtifacts) (fun _ => rfl) inputs fun _ _ => trivial).2
  constructor
  · intro t ht
    rw [Machine.eq_stepOf_of_mem ht]
    exact artifactsChange t.input t.before
  · exact fun t ht => (horiginal t ht).2
  · exact fun name hreplaceable => countP_sets name hreplaceable hstart inputs
  · intro name hreplaceable t ht hsome hactive
    rw [Machine.eq_stepOf_of_mem ht] at hactive ⊢
    exact step_kept hreplaceable (.inr hsome) t.input hactive
  · intro t ht i hinput invocation hi hended
    rw [Machine.eq_stepOf_of_mem ht]
    exact (step_kernel t.input t.before).of_ended hinput hi hended
  · exact hfinal.kernel.nodup
  · exact fun ref => countP_runs ref hstart inputs
  · exact hfinal.kernel.facts
  · exact hfinal.calls
  · exact fun c d call other => hfinal.alone
  · have hcount := @countP_finishes ν plan maxInvocationFacts (start initialArtifacts) inputs
    exact (Nat.zero_add _).symm.trans hcount
  · intro t ht hends
    rw [Machine.eq_stepOf_of_mem ht] at hends ⊢
    exact finished_of_endsWrapped t.input t.before hends
  · intro t ht hfinished
    obtain ⟨hbefore, hafter⟩ := htrace t ht
    rw [Machine.eq_stepOf_of_mem ht] at hafter ⊢
    have hstep := @step_kernel ν plan maxInvocationFacts t.input t.before
    have hdone := hstep.finished hfinished
    obtain ⟨hartifacts, hvalues⟩ := hafter.kernel.disposed hdone
    exact ⟨hdone, hartifacts, hvalues, (hstep.eq_of_finished hfinished).2.2,
      threw_of_finished hfinished⟩

end Runs

end Frely.Pipeline
