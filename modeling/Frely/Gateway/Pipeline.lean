import Mathlib.Logic.Function.Basic

/-!
# A pipeline session

`PipelineRequestSession` and its context as a machine.  An input is the call of a method, what a
hook does, a timer, an abort, or the moment at which a call that waited goes on.  A hook is not
bound by its invocation: whatever it does, it may do at any time, also after its invocation has
ended.  A result that `validateResult` refuses is not told apart from one that is thrown.

Values are immutable, so that freezing one does nothing.  A context key is an object; `object`
tells keys with equal fields apart.
-/

namespace Frely.Pipeline

inductive PipelinePhase where
  | requestIngress
  | requestDecode
  | requestNormalize
  | requestEstimate
  | policyPreResolution
  | accessCandidates
  | accessSelect
  | policyPostResolution
  | pricingQuote
  | providerRequest
  | providerInvoke
  | responseDecode
  | responseTransform
  | streamTransform
  | usageMeasure
  | billingCalculate
  | responseEgress
  | observability
deriving DecidableEq

inductive ArtifactName where
  | originalRequest
  | effectiveSourceRequest
  | canonicalRequest
  | subscriptionSelection
  | accessResolution
  | priceQuote
  | budgetDecision
  | providerRequest
  | canonicalResponse
  | clientResponse
  | usage
  | billingDraft
deriving DecidableEq

/-- `REPLACEABLE_TRANSFORM_ARTIFACTS`. -/
def ArtifactName.isReplaceable : ArtifactName → Bool
  | effectiveSourceRequest => true
  | canonicalRequest => true
  | canonicalResponse => true
  | clientResponse => true
  | _ => false

inductive PipelineOutcome where
  | applied
  | noop
  | denied
  | failed
  | fallback
deriving DecidableEq

inductive ContextMode where
  | artifact
  | ownerCache
deriving DecidableEq

structure ContextKey where
  id : String
  ownerPluginId : String
  mode : ContextMode
  object : Nat
deriving DecidableEq

structure CompiledPipelineHook where
  ref : String
  pluginId : String
  behaviorVersion : Nat
  phase : PipelinePhase
  bestEffort : Bool
  timeoutMs : Option Nat
  instanceRevision : String
  readableArtifactNames : List ArtifactName
  writableArtifactNames : List ArtifactName
  readableContextKeyIds : List String
  requiredContextKeyIds : List String
  writableContextKeyIds : List String
  hasIsApplicable : Bool
deriving DecidableEq

structure ExecutionPlan where
  hooksByPhase : PipelinePhase → List CompiledPipelineHook
  contextKeys : String → Option ContextKey

/-! ### Patches -/

inductive PatchKey where
  | artifact (name : ArtifactName)
  | unknown (name : String)
deriving DecidableEq

/-- The entries of an object; `none` is `undefined`. -/
structure Patch (ν : Type) where
  entries : List (PatchKey × Option ν)
  nodup : (entries.map (·.1)).Nodup

abbrev Artifacts (ν : Type) := ArtifactName → Option ν

section Patches

variable {ν : Type} (artifacts : Artifacts ν)

/-- A hook may set this entry. -/
def mayPublish (writable : List ArtifactName) : PatchKey × Option ν → Bool
  | (.unknown _, _) => false
  | (.artifact name, value) => name ∈ writable && (value.isNone ||
      !(name = .originalRequest || (artifacts name).isSome && !name.isReplaceable))

def mayPublishTrusted : PatchKey × Option ν → Bool
  | (.unknown _, _) => false
  | (.artifact name, value) => value.isNone || !(name = .originalRequest || (artifacts name).isSome)

def setEntry (artifacts : Artifacts ν) : PatchKey × Option ν → Artifacts ν
  | (.artifact name, some value) => Function.update artifacts name (some value)
  | _ => artifacts

/-- The artifacts with every entry of the patch. -/
def Patch.applied (patch : Patch ν) : Artifacts ν := patch.entries.foldl setEntry artifacts

/-- `publishHookArtifacts`, less the check that the context is active. -/
def publishHookArtifacts (writable : List ArtifactName) (patch : Patch ν) :
    Option (Artifacts ν) :=
  if patch.entries.all (mayPublish artifacts writable) then some (patch.applied artifacts) else none

def publishTrustedArtifacts (patch : Patch ν) : Option (Artifacts ν) :=
  if patch.entries.all (mayPublishTrusted artifacts) then some (patch.applied artifacts) else none

end Patches

/-! ### Invocations -/

/-- The outcomes that a hook may return. -/
inductive HookOutcome where
  | applied
  | noop
  | denied
  | fallback
deriving DecidableEq

def HookOutcome.outcome : HookOutcome → PipelineOutcome
  | applied => .applied
  | noop => .noop
  | denied => .denied
  | fallback => .fallback

structure HookResult (ν : Type) where
  outcome : HookOutcome
  artifacts : Option (Patch ν)

/-- What came first in the race of `invokeWithDeadline`. -/
inductive Raced (ν : Type) where
  | returned (result : HookResult ν)
  | threw
  | timedOut
  | aborted

inductive InvocationEnd where
  | notApplicable
  | returned (outcome : HookOutcome)
  | failed
deriving DecidableEq

inductive Stage (ν : Type) where
  /-- before `hook.run` -/
  | checking
  /-- `hook.run` is called, and this has come first if anything has -/
  | running (raced : Option (Raced ν))
  | ended (how : InvocationEnd)

structure Invocation (ν : Type) where
  hook : CompiledPipelineHook
  stage : Stage ν

structure InvocationFact where
  pluginId : String
  behaviorVersion : Nat
  hook : PipelinePhase
  instanceRevision : String
  outcome : PipelineOutcome
deriving DecidableEq

def factOf (hook : CompiledPipelineHook) (outcome : PipelineOutcome) : InvocationFact :=
  ⟨hook.pluginId, hook.behaviorVersion, hook.phase, hook.instanceRevision, outcome⟩

/-- What `#record` leaves of an invocation: a fact when it has ended, unless it was not
applicable. -/
def Invocation.fact? {ν : Type} (invocation : Invocation ν) : Option InvocationFact :=
  match invocation.stage with
  | .ended (.returned outcome) => some (factOf invocation.hook outcome.outcome)
  | .ended .failed => some (factOf invocation.hook .failed)
  | _ => none

/-! ### Sessions -/

/-- A call of `executePhase`: the invocations it has started, and the hooks that are left. -/
structure PhaseCall where
  phase : PipelinePhase
  started : List Nat
  remaining : List CompiledPipelineHook
  ended : Bool
deriving DecidableEq

inductive Wrapped where
  | stream
  | iterable (returned : Bool)
deriving DecidableEq

/-- The part of a session that hooks and artifacts are about.  A context value may be set to
`undefined`: the inner `none`. -/
structure Kernel (ν : Type) where
  artifacts : Artifacts ν
  values : String → Option (Option ν)
  finished : Bool
  signalAborted : Bool
  executedHooks : List String
  invocations : List (Invocation ν)
  facts : List InvocationFact

structure Session (ν : Type) extends Kernel ν where
  calls : List PhaseCall
  wrapped : List Wrapped

/-- The read of a wrapped source. -/
inductive SourceRead where
  | value
  | done
  | threw
deriving DecidableEq

inductive Input (ν : Type) where
  | executeHook (hook : CompiledPipelineHook)
  | executePhase (phase : PipelinePhase)
  /-- `executePhase` goes on after one of its hooks. -/
  | nextHook (call : Nat)
  /-- `isApplicable` answers, or throws. -/
  | isApplicable (i : Nat) (answer : Option Bool)
  /-- The promise of `run` settles; `none` when it rejects. -/
  | settle (i : Nat) (result : Option (HookResult ν))
  | timeout (i : Nat)
  | abort
  /-- `executeHook` goes on after the race. -/
  | resume (i : Nat)
  | getValue (i : Nat) (key : ContextKey)
  | setValue (i : Nat) (key : ContextKey) (value : Option ν)
  | getArtifact (i : Nat) (name : ArtifactName)
  /-- the reader of the context itself -/
  | readArtifact (name : ArtifactName)
  | publishTrusted (patch : Patch ν)
  | wrapStream
  | pull (w : Nat) (read : SourceRead)
  | cancel (w : Nat)
  | wrapAsyncIterable
  | next (w : Nat) (read : SourceRead)
  /-- `return` or `throw` of the iterator -/
  | close (w : Nat)
  | finish

inductive Answer (ν : Type) where
  | threw
  | done
  | value (value : Option ν)

section Steps

variable {ν : Type} (plan : ExecutionPlan) (maxInvocationFacts : Nat)

namespace Kernel

/-- An invocation goes on to another stage, and leaves its fact when it has ended. -/
def enter (s : Kernel ν) (i : Nat) (invocation : Invocation ν) : Kernel ν :=
  { s with
    invocations := s.invocations.set i invocation
    facts := s.facts ++ invocation.fact?.toList }

/-- `get` of the view of an invocation: `none` when it throws. -/
def getValue (s : Kernel ν) (invocation : Invocation ν) (key : ContextKey) : Option (Option ν) :=
  if s.finished then none
  else if invocation.stage matches .ended _ then none
  else if plan.contextKeys key.id ≠ some key then none
  else if key.id ∉ invocation.hook.readableContextKeyIds then none
  else some (s.values key.id).join

def setValue (s : Kernel ν) (invocation : Invocation ν) (key : ContextKey) (value : Option ν) :
    Option (Kernel ν) :=
  if s.finished then none
  else if invocation.stage matches .ended _ then none
  else if plan.contextKeys key.id ≠ some key then none
  else if key.ownerPluginId ≠ invocation.hook.pluginId ∨
      key.id ∉ invocation.hook.writableContextKeyIds then none
  else if key.mode = .artifact ∧ (s.values key.id).isSome then none
  else some { s with values := Function.update s.values key.id (some value) }

/-- Every required context key is there and readable. -/
def hasRequired (s : Kernel ν) (hook : CompiledPipelineHook) : Bool :=
  hook.requiredContextKeyIds.all fun keyId =>
    match plan.contextKeys keyId with
    | none => false
    | some key =>
      match s.getValue plan ⟨hook, .checking⟩ key with
      | some (some _) => true
      | _ => false

/-- From the answer of `isApplicable` to `hook.run`. -/
def checkedStage (s : Kernel ν) (hook : CompiledPipelineHook) : Option Bool → Stage ν
  | none => .ended .failed
  | some false => .ended .notApplicable
  | some true =>
    if !s.hasRequired plan hook then .ended .failed
    -- `invokeWithDeadline` looks at the signal again
    else if s.signalAborted then .ended .failed
    else .running none

def firstStage (s : Kernel ν) (hook : CompiledPipelineHook) : Stage ν :=
  if s.signalAborted then .ended .failed
  else if hook.hasIsApplicable then .checking
  else s.checkedStage plan hook (some true)

/-- `executeHook` up to `isApplicable`; nothing when it throws before the hook counts as
executed. -/
def startHook (s : Kernel ν) (hook : CompiledPipelineHook) : Option (Kernel ν) :=
  if s.finished then none
  else if hook.ref ∈ s.executedHooks then none
  else if maxInvocationFacts ≤ s.facts.length then none
  else
    let invocation : Invocation ν := ⟨hook, s.firstStage plan hook⟩
    some { s with
      executedHooks := hook.ref :: s.executedHooks
      invocations := s.invocations ++ [invocation]
      facts := s.facts ++ invocation.fact?.toList }

/-- The artifacts after the result of a hook: `none` when publishing throws. -/
def published (s : Kernel ν) (hook : CompiledPipelineHook) (result : HookResult ν) :
    Option (Artifacts ν) :=
  match result.artifacts with
  | none => some s.artifacts
  | some patch =>
    if s.finished then none
    else publishHookArtifacts s.artifacts hook.writableArtifactNames patch

/-- The rest of `executeHook` after the race. -/
def resumed (s : Kernel ν) (i : Nat) (invocation : Invocation ν) (raced : Raced ν) : Kernel ν :=
  match raced with
  | .returned result =>
    match s.published invocation.hook result with
    | some artifacts =>
      { s with artifacts }.enter i ⟨invocation.hook, .ended (.returned result.outcome)⟩
    | none => s.enter i ⟨invocation.hook, .ended .failed⟩
  | _ => s.enter i ⟨invocation.hook, .ended .failed⟩

/-- What settles first wins the race. -/
def race (invocation : Invocation ν) (raced : Raced ν) : Invocation ν :=
  match invocation.stage with
  | .running none => { invocation with stage := .running (some raced) }
  | _ => invocation

def abort (s : Kernel ν) : Kernel ν :=
  { s with
    signalAborted := true
    invocations := s.invocations.map (race · .aborted) }

def finish (s : Kernel ν) : Kernel ν :=
  if s.finished then s
  else { s with finished := true, artifacts := fun _ => none, values := fun _ => none }

end Kernel

namespace Session

def withKernel (s : Session ν) (kernel : Kernel ν) : Session ν := { s with toKernel := kernel }

/-- The loop of `executePhase` starts its next hook, or ends. -/
def startNext (s : Session ν) (c : Nat) (call : PhaseCall) : Session ν :=
  match call.remaining with
  | [] => { s with calls := s.calls.set c { call with ended := true } }
  | hook :: rest =>
    match s.toKernel.startHook plan maxInvocationFacts hook with
    | none => { s with calls := s.calls.set c { call with ended := true } }
    | some kernel =>
      { s.withKernel kernel with
        calls := s.calls.set c { call with
          started := call.started ++ [s.invocations.length]
          remaining := rest } }

/-- `executePhase` after a hook: it throws, or goes on. -/
def goesOn (invocation : Invocation ν) : Option Bool :=
  match invocation.stage with
  | .ended .notApplicable => some true
  | .ended .failed => some invocation.hook.bestEffort
  | .ended (.returned outcome) => some (outcome ≠ .denied)
  | _ => none

def nextHook (s : Session ν) (c : Nat) (call : PhaseCall) : Session ν :=
  if call.ended then s
  else
    match call.started.getLast? with
    | none => s
    | some i =>
      match (s.invocations[i]?).bind goesOn with
      | none => s
      | some true => s.startNext plan maxInvocationFacts c call
      | some false => { s with calls := s.calls.set c { call with ended := true } }

def finish (s : Session ν) : Session ν := s.withKernel s.toKernel.finish

end Session

/-- A method of one invocation. -/
def onInvocation (s : Session ν) (i : Nat)
    (f : Invocation ν → Answer ν × Session ν) : Answer ν × Session ν :=
  match s.invocations[i]? with
  | none => (.threw, s)
  | some invocation => f invocation

def answerKernel (s : Session ν) : Option (Kernel ν) → Answer ν × Session ν
  | none => (.threw, s)
  | some kernel => (.done, s.withKernel kernel)

def step : Input ν → Session ν → Answer ν × Session ν
  | .executeHook hook, s => answerKernel s (s.toKernel.startHook plan maxInvocationFacts hook)
  | .executePhase phase, s =>
    let call : PhaseCall := ⟨phase, [], plan.hooksByPhase phase, false⟩
    let s' := { s with calls := s.calls ++ [call] }
    (.done, s'.startNext plan maxInvocationFacts s.calls.length call)
  | .nextHook c, s =>
    match s.calls[c]? with
    | none => (.done, s)
    | some call => (.done, s.nextHook plan maxInvocationFacts c call)
  | .isApplicable i answer, s => onInvocation s i fun invocation =>
    match invocation.stage with
    | .checking =>
      let stage := s.toKernel.checkedStage plan invocation.hook answer
      (.done, s.withKernel (s.toKernel.enter i ⟨invocation.hook, stage⟩))
    | _ => (.done, s)
  | .settle i result, s => onInvocation s i fun invocation =>
    let raced := match result with
      | some result => Raced.returned result
      | none => .threw
    (.done, s.withKernel { s.toKernel with
      invocations := s.invocations.set i (Kernel.race invocation raced) })
  | .timeout i, s => onInvocation s i fun invocation =>
    if invocation.hook.timeoutMs.isSome then
      (.done, s.withKernel { s.toKernel with
        invocations := s.invocations.set i (Kernel.race invocation .timedOut) })
    else (.done, s)
  | .abort, s => (.done, s.withKernel s.toKernel.abort)
  | .resume i, s => onInvocation s i fun invocation =>
    match invocation.stage with
    | .running (some raced) => (.done, s.withKernel (s.toKernel.resumed i invocation raced))
    | _ => (.done, s)
  | .getValue i key, s => onInvocation s i fun invocation =>
    match s.toKernel.getValue plan invocation key with
    | none => (.threw, s)
    | some value => (.value value, s)
  | .setValue i key value, s => onInvocation s i fun invocation =>
    answerKernel s (s.toKernel.setValue plan invocation key value)
  | .getArtifact i name, s => onInvocation s i fun invocation =>
    if s.finished ∨ name ∉ invocation.hook.readableArtifactNames then (.threw, s)
    else (.value (s.artifacts name), s)
  | .readArtifact name, s => if s.finished then (.threw, s) else (.value (s.artifacts name), s)
  | .publishTrusted patch, s =>
    if s.finished then (.threw, s)
    else
      match publishTrustedArtifacts s.artifacts patch with
      | none => (.threw, s)
      | some artifacts => (.done, s.withKernel { s.toKernel with artifacts })
  | .wrapStream, s =>
    if s.finished then (.threw, s) else (.done, { s with wrapped := s.wrapped ++ [.stream] })
  | .pull w read, s =>
    match s.wrapped[w]?, read with
    | some .stream, .done => (.done, s.finish)
    | some .stream, .threw => (.done, s.finish)
    | _, _ => (.done, s)
  | .cancel w, s =>
    match s.wrapped[w]? with
    | some .stream => (.done, s.finish)
    | _ => (.done, s)
  | .wrapAsyncIterable, s =>
    if s.finished then (.threw, s)
    else (.done, { s with wrapped := s.wrapped ++ [.iterable false] })
  | .next w read, s =>
    match s.wrapped[w]?, read with
    | some (.iterable false), .done =>
      (.done, { s with wrapped := s.wrapped.set w (.iterable true) }.finish)
    | some (.iterable false), .threw => (.done, s.finish)
    | _, _ => (.done, s)
  | .close w, s =>
    match s.wrapped[w]? with
    | some (.iterable false) =>
      (.done, { s with wrapped := s.wrapped.set w (.iterable true) }.finish)
    | _ => (.done, s)
  | .finish, s => (.done, s.finish)

end Steps

/-- A new session; `originalRequest` is required. -/
def start {ν : Type} (initialArtifacts : Artifacts ν) : Session ν where
  artifacts := initialArtifacts
  values := fun _ => none
  finished := false
  signalAborted := false
  executedHooks := []
  invocations := []
  facts := []
  calls := []
  wrapped := []

end Frely.Pipeline
