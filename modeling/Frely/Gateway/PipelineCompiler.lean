import Frely.Core.Text
import Frely.Core.Values
import Frely.Gateway.Pipeline
import Frely.Lib.TopologicalSort
import Frely.Lib.Unordered
import Mathlib.Data.List.Dedup

/-!
# Compiling execution plans

`compiler.ts`: the hooks of the active plugins are put in an order, phase by phase.  A plugin's
schema and tests are functions, which may throw; `run` and `isApplicable` of a hook are left out.
What is absent from a hook, such as its `before`, is the empty list.

A map from names to nodes is the sequence of its insertions, and a set of edges that of its
additions: `(from, to)` says that `from` runs before `to`.
-/

namespace Frely.Pipeline

open Checked StableSort

/-! ### Contracts -/

def PipelinePhase.text : PipelinePhase → String
  | requestIngress => "request.ingress"
  | requestDecode => "request.decode"
  | requestNormalize => "request.normalize"
  | requestEstimate => "request.estimate"
  | policyPreResolution => "policy.pre-resolution"
  | accessCandidates => "access.candidates"
  | accessSelect => "access.select"
  | policyPostResolution => "policy.post-resolution"
  | pricingQuote => "pricing.quote"
  | providerRequest => "provider.request"
  | providerInvoke => "provider.invoke"
  | responseDecode => "response.decode"
  | responseTransform => "response.transform"
  | streamTransform => "stream.transform"
  | usageMeasure => "usage.measure"
  | billingCalculate => "billing.calculate"
  | responseEgress => "response.egress"
  | observability => "observability"

def pipelinePhases : List PipelinePhase :=
  [.requestIngress, .requestDecode, .requestNormalize, .requestEstimate, .policyPreResolution,
    .accessCandidates, .accessSelect, .policyPostResolution, .pricingQuote, .providerRequest,
    .providerInvoke, .responseDecode, .responseTransform, .streamTransform, .usageMeasure,
    .billingCalculate, .responseEgress, .observability]

/-- `PHASE_INDEX`. -/
def PipelinePhase.index (phase : PipelinePhase) : Nat := pipelinePhases.idxOf phase

def PipelinePhase.startsWith (phase : PipelinePhase) (start : String) : Bool :=
  start.toList.isPrefixOf phase.text.toList

/-- `PIPELINE_REQUEST_PHASES`. -/
def requestPhases : List PipelinePhase :=
  pipelinePhases.filter fun phase =>
    phase.startsWith "request." || phase.startsWith "policy." || phase.startsWith "access." ||
      phase = .pricingQuote || phase.startsWith "provider."

/-- `PIPELINE_RESPONSE_PHASES`. -/
def responsePhases : List PipelinePhase :=
  pipelinePhases.filter fun phase =>
    phase.startsWith "response." || phase = .usageMeasure || phase = .billingCalculate ||
      phase = .observability

def ArtifactName.text : ArtifactName → String
  | originalRequest => "originalRequest"
  | effectiveSourceRequest => "effectiveSourceRequest"
  | canonicalRequest => "canonicalRequest"
  | subscriptionSelection => "subscriptionSelection"
  | accessResolution => "accessResolution"
  | priceQuote => "priceQuote"
  | budgetDecision => "budgetDecision"
  | providerRequest => "providerRequest"
  | canonicalResponse => "canonicalResponse"
  | clientResponse => "clientResponse"
  | usage => "usage"
  | billingDraft => "billingDraft"

inductive PipelineHookKind where
  | transform
  | guard
  | contribute
  | observe
deriving DecidableEq

inductive PluginAvailability where
  | required
  | optional
deriving DecidableEq

inductive ContextVisibility where
  | «private»
  | shared
deriving DecidableEq

structure PipelineContextKey extends ContextKey where
  visibility : ContextVisibility
deriving DecidableEq

/-- A value that a schema returns.  `object` tells arrays and objects apart; below one that occurs
again nothing is listed, so that a cycle is a tree too.  `other` is `undefined`, a function, a
symbol or a `bigint`. -/
inductive ConfigValue where
  | null
  | boolean (value : Bool)
  | string (value : String)
  | number (finite : Bool) (text : String)
  | array (object : Nat) (items : List ConfigValue)
  | record (object : Nat) (plain : Bool) (entries : List (String × ConfigValue))
  | other

structure PipelineHook where
  id : String
  phase : PipelinePhase
  kind : PipelineHookKind
  requires : List String
  provides : List String
  readsArtifacts : List ArtifactName
  writesArtifacts : List ArtifactName
  requiresContext : List PipelineContextKey
  providesContext : List PipelineContextKey
  before : List String
  after : List String
  bestEffort : Bool
  timeoutMs : Option Int
  hasIsApplicable : Bool

structure PluginManifest where
  id : String
  desc : String
  apiVersion : Int
  behaviorVersion : Int
  configVersion : Int
  availability : PluginAvailability
  userConfigurable : Bool
  userToggleable : Bool
  permissions : List String
  requires : List String
  provides : List String

/-- A plugin; `φ` are the facts on which it may be applicable, `configUi` the keys of its fields. -/
structure PipelinePlugin (φ : Type) where
  manifest : PluginManifest
  defaultConfig : ConfigValue
  parse : ConfigValue → Except String ConfigValue
  configUi : List String
  contextKeys : List PipelineContextKey
  hooks : List PipelineHook
  isApplicable : Option (φ → Except String Bool)

structure PipelinePluginSetting where
  pluginId : String
  enabled : Bool
  config : Option ConfigValue
  instanceRevision : String
  /-- The keys of the object that no setting has. -/
  otherKeys : List String

structure CompilerInput (φ π : Type) where
  kernelApiVersion : Int
  plugins : List (PipelinePlugin φ)
  settingsRevision : String
  settings : List PipelinePluginSetting
  cacheKey : String
  facts : φ
  availableCapabilities : List String
  singletonCapabilities : List String
  availablePorts : String → Option π

/-! ### Patterns -/

def isLowerAlphanum (c : Char) : Bool := c.isLower || c.isDigit

/-- `[a-z0-9]+(?:-[a-z0-9]+)*`, where `started` says that the current word has a character. -/
def isIdFrom (started : Bool) : List Char → Bool
  | [] => started
  | c :: rest => if c = '-' then started && isIdFrom false rest
    else isLowerAlphanum c && isIdFrom true rest

/-- `ID_PATTERN`. -/
def isId (text : String) : Bool := isIdFrom false text.toList

/-- `TOKEN_PATTERN`. -/
def isToken (text : String) : Bool :=
  let scope := text.toList.takeWhile (· ≠ ':')
  let name := (text.toList.dropWhile (· ≠ ':')).drop 1
  scope.head?.any Char.isLower && scope.all (fun c => isLowerAlphanum c || c = '.' || c = '-') &&
    name.head?.any isLowerAlphanum &&
    name.all fun c => isLowerAlphanum c || c = '.' || c = '_' || c = '-'

/-- `REVISION_PATTERN`. -/
def isRevision (text : String) : Bool :=
  text.toList ≠ [] && text.toList.length ≤ 128 &&
    text.toList.all fun c => c.isAlphanum || c = '.' || c = '_' || c = ':' || c = '-'

def sensitiveWords : List String :=
  ["authorization", "credential", "oauth", "password", "secret", "api-key"]

def isDelimiter (c : Char) : Bool := c = '-' || c = '_' || c = ':'

def startsSensitive (text : List Char) : Bool :=
  sensitiveWords.any fun word => word.toList.isPrefixOf text &&
    (text.drop word.toList.length).head?.all isDelimiter

def sensitiveAfterDelimiter : List Char → Bool
  | [] => false
  | c :: rest => isDelimiter c && startsSensitive rest || sensitiveAfterDelimiter rest

/-- `SENSITIVE_KEY_SEGMENT`, on a text that is a token. -/
def namesSensitive (text : String) : Bool :=
  startsSensitive (text.toList.map Char.toLower) ||
    sensitiveAfterDelimiter (text.toList.map Char.toLower)

/-! ### Plugins and settings -/

def assertIntegerVersion (value : Int) (label : String) : Except String Unit :=
  rejectIf (¬IsSafeInteger value ∨ value < 1) s!"{label} must be a positive integer"

def assertTokenList (values : List String) (label : String) : Except String Unit :=
  checkDistinct id (fun value => rejectIf (isToken value = false) s!"Invalid {label}: {value}")
    (fun _ => .ok ()) (fun value => s!"Duplicate {label}: {value}") [] values

def assertArtifactList (values : List ArtifactName) (label : String) (allowOriginalRequest : Bool) :
    Except String Unit :=
  checkDistinct id
    (fun value => rejectIf (allowOriginalRequest = false ∧ value = .originalRequest)
      s!"{label} cannot include originalRequest")
    (fun _ => .ok ()) (fun value => s!"Duplicate {label}: {value.text}") [] values

def assertSafeContextKey (key : PipelineContextKey) : Except String Unit :=
  rejectIf (namesSensitive key.id)
    s!"Pipeline context key may not name sensitive material: {key.id}"

mutual

/-- Returns the arrays and objects that it has seen. -/
def deepFreezeJson (path : String) (seen : List Nat) : ConfigValue → Except String (List Nat)
  | .null => .ok seen
  | .boolean _ => .ok seen
  | .string _ => .ok seen
  | .number finite _ => do
    rejectIf (finite = false) s!"{path} must contain finite JSON numbers"
    return seen
  | .array object items => do
    rejectIf (object ∈ seen) s!"{path} must not contain cycles"
    deepFreezeItems path 0 (object :: seen) items
  | .record object plain entries => do
    rejectIf (plain = false) s!"{path} must be plain JSON data"
    rejectIf (object ∈ seen) s!"{path} must not contain cycles"
    deepFreezeEntries path (object :: seen) entries
  | .other => .error s!"{path} must contain JSON data only"

def deepFreezeItems (path : String) (index : Nat) (seen : List Nat) :
    List ConfigValue → Except String (List Nat)
  | [] => .ok seen
  | item :: rest => do
    let seen ← deepFreezeJson s!"{path}[{index}]" seen item
    deepFreezeItems path (index + 1) seen rest

def deepFreezeEntries (path : String) (seen : List Nat) :
    List (String × ConfigValue) → Except String (List Nat)
  | [] => .ok seen
  | (key, value) :: rest => do
    let seen ← deepFreezeJson s!"{path}.{key}" seen value
    deepFreezeEntries path seen rest

end

section Validation

variable {φ : Type}

def validateContextKey (manifest : PluginManifest) (key : PipelineContextKey) :
    Except String Unit := do
  rejectIf (key.ownerPluginId ≠ manifest.id ∨
      (manifest.id.toList ++ [':']).isPrefixOf key.id.toList = false ∨ isToken key.id = false)
    s!"Invalid context key ownership: {key.id}"
  assertSafeContextKey key

/-- The checks of a hook after the one that its id is new. -/
def validateHook (plugin : PipelinePlugin φ) (hook : PipelineHook) : Except String Unit := do
  let manifest := plugin.manifest
  rejectIf (hook.bestEffort ∧ hook.kind ≠ .observe)
    s!"Only observe hooks may be best-effort: {manifest.id}/{hook.id}"
  rejectIf (hook.timeoutMs.any fun timeout =>
      decide (¬IsSafeInteger timeout) || decide (timeout < 1) || decide (120000 < timeout))
    s!"Invalid hook timeout: {manifest.id}/{hook.id}"
  assertTokenList hook.requires s!"{manifest.id}/{hook.id} required capability"
  assertTokenList hook.provides s!"{manifest.id}/{hook.id} provided capability"
  assertArtifactList hook.readsArtifacts s!"{manifest.id}/{hook.id} artifact read" true
  assertArtifactList hook.writesArtifacts s!"{manifest.id}/{hook.id} artifact write" false
  forAll hook.requires fun token => rejectIf (token ∉ manifest.requires)
    s!"Hook requires undeclared manifest capability: {token}"
  forAll hook.provides fun token => rejectIf (token ∉ manifest.provides)
    s!"Hook provides undeclared manifest capability: {token}"
  forAll hook.providesContext fun key =>
    rejectIf (key.id ∉ plugin.contextKeys.map (·.id) ∨ key.ownerPluginId ≠ manifest.id)
      s!"Hook provides undeclared context key: {key.id}"

def validatePlugin (plugin : PipelinePlugin φ) (kernelApiVersion : Int) : Except String Unit := do
  let manifest := plugin.manifest
  rejectIf (isId manifest.id = false) s!"Invalid pipeline plugin ID: {manifest.id}"
  rejectIf (trimmed manifest.desc.toList = [])
    s!"Pipeline plugin {manifest.id} must have a description"
  assertIntegerVersion manifest.apiVersion s!"{manifest.id} apiVersion"
  assertIntegerVersion manifest.behaviorVersion s!"{manifest.id} behaviorVersion"
  assertIntegerVersion manifest.configVersion s!"{manifest.id} configVersion"
  rejectIf (manifest.apiVersion ≠ kernelApiVersion)
    s!"Pipeline plugin {manifest.id} requires API {manifest.apiVersion}, kernel is {kernelApiVersion}"
  rejectIf (manifest.availability = .required ∧ manifest.userToggleable)
    s!"Required pipeline plugin {manifest.id} cannot be user-toggleable"
  rejectIf (manifest.userConfigurable = false ∧ 0 < plugin.configUi.length)
    s!"Non-configurable pipeline plugin {manifest.id} cannot declare config UI"
  assertTokenList manifest.permissions s!"{manifest.id} permission"
  assertTokenList manifest.requires s!"{manifest.id} required capability"
  assertTokenList manifest.provides s!"{manifest.id} provided capability"
  rejectIf (plugin.hooks.isEmpty) s!"Pipeline plugin {manifest.id} must declare at least one hook"
  checkDistinct (·.id) (validateContextKey manifest) (fun _ => .ok ())
    (fun key => s!"Duplicate context key in {manifest.id}: {key.id}") [] plugin.contextKeys
  checkDistinct (·.id)
    (fun hook => rejectIf (isId hook.id = false) s!"Invalid hook ID: {manifest.id}/{hook.id}")
    (validateHook plugin) (fun hook => s!"Duplicate hook ID: {manifest.id}/{hook.id}") []
    plugin.hooks
  let parsed ← plugin.parse plugin.defaultConfig
  let _ ← deepFreezeJson s!"{manifest.id}.defaultConfig" [] parsed

/-- `createPipelineRegistry`, with the ids and the context keys so far. -/
def registerPlugins (kernelApiVersion : Int) (ids contextKeyIds : List String) :
    List (PipelinePlugin φ) → Except String Unit
  | [] => .ok ()
  | plugin :: rest => do
    validatePlugin plugin kernelApiVersion
    rejectIf (plugin.manifest.id ∈ ids) s!"Duplicate pipeline plugin ID: {plugin.manifest.id}"
    checkDistinct (·.id) (fun _ => .ok ()) (fun _ => .ok ())
      (fun key => s!"Duplicate pipeline context key: {key.id}") contextKeyIds plugin.contextKeys
    registerPlugins kernelApiVersion (plugin.manifest.id :: ids)
      (plugin.contextKeys.map (·.id) ++ contextKeyIds) rest

def createPipelineRegistry (plugins : List (PipelinePlugin φ)) (kernelApiVersion : Int) :
    Except String Unit :=
  registerPlugins kernelApiVersion [] [] plugins

/-- `contextKeys.get`. -/
def contextKeyOf (plugins : List (PipelinePlugin φ)) (id : String) : Option PipelineContextKey :=
  (plugins.flatMap (·.contextKeys)).find? fun key => decide (key.id = id)

def validateSetting (setting : PipelinePluginSetting) : Except String Unit := do
  forAll setting.otherKeys fun key => .error s!"Unknown pipeline setting field: {key}"
  rejectIf (isId setting.pluginId = false) s!"Invalid setting plugin ID: {setting.pluginId}"
  rejectIf (isRevision setting.instanceRevision = false)
    s!"Invalid instance revision: {setting.pluginId}"

/-- The loop that fills `settingsById`. -/
def assertSettings (pluginIds : List String) (settings : List PipelinePluginSetting) :
    Except String Unit :=
  checkDistinct (·.pluginId)
    (fun setting => do
      validateSetting setting
      rejectIf (setting.pluginId ∉ pluginIds)
        s!"Unknown pipeline plugin setting: {setting.pluginId}")
    (fun _ => .ok ())
    (fun setting => s!"Duplicate pipeline plugin setting: {setting.pluginId}") [] settings

end Validation

/-! ### Nodes -/

section Nodes

variable {φ : Type}

structure ActivePlugin (φ : Type) where
  plugin : PipelinePlugin φ
  setting : Option PipelinePluginSetting
  config : ConfigValue

def PluginManifest.isAlwaysEnabled (manifest : PluginManifest) : Bool :=
  manifest.availability = .required || !manifest.userToggleable

/-- `setting?.config ?? plugin.defaultConfig`. -/
def chosenConfig (plugin : PipelinePlugin φ) (setting : Option PipelinePluginSetting) :
    ConfigValue :=
  match setting.bind (·.config) with
  | none => plugin.defaultConfig
  | some .null => plugin.defaultConfig
  | some config => config

def isApplicableTo (plugin : PipelinePlugin φ) (facts : φ) : Except String Bool :=
  match plugin.isApplicable with
  | none => .ok true
  | some test => test facts

def configured (plugin : PipelinePlugin φ) (setting : Option PipelinePluginSetting) :
    Except String (List (ActivePlugin φ)) := do
  rejectIf (plugin.manifest.userConfigurable = false ∧ (setting.bind (·.config)).isSome)
    s!"Pipeline plugin {plugin.manifest.id} is not user-configurable"
  let parsed ← plugin.parse (chosenConfig plugin setting)
  let _ ← deepFreezeJson s!"{plugin.manifest.id}.config" [] parsed
  return [⟨plugin, setting, parsed⟩]

/-- The plugin as an active one, or nothing. -/
def activate (settings : List PipelinePluginSetting) (facts : φ) (plugin : PipelinePlugin φ) :
    Except String (List (ActivePlugin φ)) := do
  let setting := settings.find? fun setting => decide (setting.pluginId = plugin.manifest.id)
  rejectIf (plugin.manifest.isAlwaysEnabled ∧ setting.any fun setting => !setting.enabled)
    s!"Pipeline plugin {plugin.manifest.id} cannot be disabled"
  if plugin.manifest.isAlwaysEnabled || setting.any (·.enabled) then do
    let applicable ← isApplicableTo plugin facts
    if applicable then configured plugin setting else return []
  else return []

structure HookNode (φ : Type) where
  ref : String
  plugin : PipelinePlugin φ
  hook : PipelineHook
  setting : Option PipelinePluginSetting
  config : ConfigValue

def nodesOf (entry : ActivePlugin φ) : List (HookNode φ) :=
  entry.plugin.hooks.map fun hook =>
    ⟨s!"{entry.plugin.manifest.id}/{hook.id}", entry.plugin, hook, entry.setting, entry.config⟩

/-- A map from the names of capabilities or context keys to the nodes that provide them. -/
abbrev Producers (φ : Type) := List (String × HookNode φ)

/-- `producers.get(name) ?? []`. -/
def producersOf (producers : Producers φ) (name : String) : List (HookNode φ) :=
  (producers.filter fun entry => decide (entry.1 = name)).map (·.2)

/-- One producer more, unless the name may have one only. -/
def addProducer (single : Bool) (duplicate : HookNode φ → String) (producers : Producers φ)
    (name : String) (node : HookNode φ) : Except String (Producers φ) :=
  match producersOf producers name with
  | [] => .ok (producers ++ [(name, node)])
  | first :: _ => do
    rejectIf (single = true) (duplicate first)
    return producers ++ [(name, node)]

def addCapability (singletonCapabilities : List String) (producers : Producers φ)
    (offer : String × HookNode φ) : Except String (Producers φ) :=
  addProducer (decide (offer.1 ∈ singletonCapabilities))
    (fun first => s!"Duplicate singleton capability provider {offer.1}: {first.ref}, {offer.2.ref}")
    producers offer.1 offer.2

def capabilityProviders (singletonCapabilities : List String) (nodes : List (HookNode φ)) :
    Except String (Producers φ) :=
  (nodes.flatMap fun node => node.hook.provides.map (·, node)).foldlM
    (addCapability singletonCapabilities) []

def addContext (contextKeys : String → Option PipelineContextKey) (producers : Producers φ)
    (offer : PipelineContextKey × HookNode φ) : Except String (Producers φ) := do
  rejectIf (contextKeys offer.1.id ≠ some offer.1 ∨
      offer.1.ownerPluginId ≠ offer.2.plugin.manifest.id)
    s!"Unregistered provided context key: {offer.1.id}"
  addProducer (decide (offer.1.mode = .artifact))
    (fun _ => s!"Duplicate context key producer: {offer.1.id}") producers offer.1.id offer.2

def contextProducers (contextKeys : String → Option PipelineContextKey)
    (nodes : List (HookNode φ)) : Except String (Producers φ) :=
  (nodes.flatMap fun node => node.hook.providesContext.map (·, node)).foldlM
    (addContext contextKeys) []

/-! ### Edges -/

abbrev Edges := List (String × String)

def capabilityEdge (token : String) (node producer : HookNode φ) : Except String Edges := do
  rejectIf (node.hook.phase.index < producer.hook.phase.index)
    s!"Capability {token} is produced after consumer {node.ref}"
  return if producer.hook.phase.index = node.hook.phase.index ∧ producer.ref ≠ node.ref then
    [(producer.ref, node.ref)] else []

def capabilityEdges (externallyAvailable : List String) (providers : Producers φ)
    (node : HookNode φ) (token : String) : Except String Edges := do
  let producers := producersOf providers token
  if producers.isEmpty then do
    rejectIf (token ∉ externallyAvailable) s!"Missing capability {token} required by {node.ref}"
    return []
  else collect (capabilityEdge token node) producers

def resolveReference (reference : String) (node : HookNode φ) (nodes : List (HookNode φ)) :
    Except String String :=
  if '/' ∈ reference.toList then do
    rejectIf (reference ∉ nodes.map (·.ref))
      s!"Missing hook order dependency {reference} required by {node.ref}"
    return reference
  else match nodes.filter fun candidate =>
      candidate.plugin.manifest.id = reference && candidate.hook.phase = node.hook.phase with
    | [candidate] => .ok candidate.ref
    | _ => .error s!"Hook order dependency {reference} is missing or ambiguous for {node.ref}"

/-- The target of a `before` or `after`, which has to stay within the phase. -/
def orderTarget (nodes : List (HookNode φ)) (node : HookNode φ) (reference : String) :
    Except String String := do
  let target ← resolveReference reference node nodes
  forAll (nodes.filter fun candidate => decide (candidate.ref = target)) fun targetNode =>
    rejectIf (targetNode.hook.phase ≠ node.hook.phase)
      s!"before/after dependencies must stay within phase: {node.ref}"
  return target

/-- The edges that the capabilities and the order of a node ask for. -/
def orderEdges (externallyAvailable : List String) (providers : Producers φ)
    (nodes : List (HookNode φ)) (node : HookNode φ) : Except String Edges := do
  let required ← collect (capabilityEdges externallyAvailable providers node) node.hook.requires
  let before ← collect (fun reference => do
    let target ← orderTarget nodes node reference
    return [(node.ref, target)]) node.hook.before
  let after ← collect (fun reference => do
    let target ← orderTarget nodes node reference
    return [(target, node.ref)]) node.hook.after
  return required ++ before ++ after

/-- `producer.ref !== node.ref`, and the producer is not of a later phase. -/
def isAvailableTo (node producer : HookNode φ) : Bool :=
  producer.ref ≠ node.ref && producer.hook.phase.index ≤ node.hook.phase.index

def contextEdge (contextKeys : String → Option PipelineContextKey) (producers : Producers φ)
    (node : HookNode φ) (key : PipelineContextKey) : Except String Edges := do
  rejectIf (contextKeys key.id ≠ some key) s!"Unknown required context key: {key.id}"
  rejectIf (key.visibility = .private ∧ key.ownerPluginId ≠ node.plugin.manifest.id)
    s!"Plugin {node.plugin.manifest.id} cannot require private context key {key.id}"
  let availableProducers := (producersOf producers key.id).filter (isAvailableTo node)
  rejectIf (availableProducers.isEmpty) s!"Context {key.id} is unavailable to {node.ref}"
  return (availableProducers.filter fun producer =>
    decide (producer.hook.phase = node.hook.phase)).map fun producer => (producer.ref, node.ref)

def contextEdges (contextKeys : String → Option PipelineContextKey) (producers : Producers φ)
    (node : HookNode φ) : Except String Edges :=
  collect (contextEdge contextKeys producers node) node.hook.requiresContext

/-- `node.edges`. -/
def edgesOf (edges : Edges) (ref : String) : List String :=
  ((edges.filter fun edge => decide (edge.1 = ref)).map (·.2)).dedup

end Nodes

/-! ### Plans -/

def isRefText (text : String) : Prop := ∀ c ∈ text.toList, isLowerAlphanum c ∨ c = '-' ∨ c = '/'

/-- What the compiler does not do itself.  `localeCompare` tells references apart. -/
structure CompilerHost where
  localeCompare : String → String → Ordering
  transCmp : Std.TransCmp localeCompare
  eq_of_localeCompare : ∀ left right, isRefText left → isRefText right →
    localeCompare left right = .eq → left = right
  /-- The SHA-256 digest of a text, in hexadecimal digits. -/
  sha256 : String → String

structure PlannedHook (π : Type) extends CompiledPipelineHook where
  kind : PipelineHookKind
  config : ConfigValue
  ports : List (String × π)

structure CompiledPlan (π : Type) where
  kernelApiVersion : Int
  planRevision : String
  settingsRevision : String
  applicabilityCacheKey : String
  hooksByPhase : PipelinePhase → List (PlannedHook π)
  requestHooks : List (PlannedHook π)
  responseHooks : List (PlannedHook π)
  streamHooks : List (PlannedHook π)
  contextKeys : String → Option PipelineContextKey

/-- The plan as a session reads it. -/
def CompiledPlan.executionPlan {π : Type} (plan : CompiledPlan π) : ExecutionPlan where
  hooksByPhase phase := (plan.hooksByPhase phase).map (·.toCompiledPipelineHook)
  contextKeys id := (plan.contextKeys id).map (·.toContextKey)

section Plans

variable {φ π : Type} (host : CompilerHost)

def topologicalSort (edges : Edges) (phase : PipelinePhase) (phaseNodes : List (HookNode φ)) :
    Except String (List (HookNode φ)) := do
  let result := TopologicalSort.sorted (·.ref) (fun node => edgesOf edges node.ref)
    (fun left right => host.localeCompare left.ref right.ref) (sortBy compare) phaseNodes
  let cyclic := sortBy compare
    ((phaseNodes.filter fun node => decide (node.ref ∉ result.map (·.ref))).map (·.ref))
  let cyclicText := ", ".intercalate cyclic
  rejectIf (result.length ≠ phaseNodes.length)
    s!"Pipeline hook dependency cycle in {phase.text}: {cyclicText}"
  return result

def portOf (availablePorts : String → Option π) (node : HookNode φ) (permission : String) :
    Except String (String × π) :=
  match availablePorts permission with
  | none => .error s!"Missing permission port {permission} for {node.ref}"
  | some port => .ok (permission, port)

def readableContextKeyIds (node : HookNode φ) : List String :=
  (node.hook.requiresContext.map (·.id) ++ node.hook.providesContext.map (·.id) ++
    (node.plugin.contextKeys.filter fun key => key.ownerPluginId = node.plugin.manifest.id &&
      key.visibility = .private).map (·.id)).dedup

def compiledHook (availablePorts : String → Option π) (phase : PipelinePhase) (node : HookNode φ) :
    Except String (PlannedHook π) := do
  let ports ← node.plugin.manifest.permissions.mapM (portOf availablePorts node)
  return {
    ref := node.ref
    pluginId := node.plugin.manifest.id
    behaviorVersion := node.plugin.manifest.behaviorVersion.toNat
    phase
    kind := node.hook.kind
    bestEffort := node.hook.bestEffort
    timeoutMs := node.hook.timeoutMs.map Int.toNat
    instanceRevision := match node.setting with
      | some setting => setting.instanceRevision
      | none => s!"builtin-{node.plugin.manifest.configVersion}"
    config := node.config
    ports
    readableArtifactNames := node.hook.readsArtifacts
    writableArtifactNames := node.hook.writesArtifacts
    readableContextKeyIds := readableContextKeyIds node
    requiredContextKeyIds := (node.hook.requiresContext.map (·.id)).dedup
    writableContextKeyIds := (node.hook.providesContext.map (·.id)).dedup
    hasIsApplicable := node.hook.hasIsApplicable }

def compilePhase (availablePorts : String → Option π) (nodes : List (HookNode φ)) (edges : Edges)
    (phase : PipelinePhase) : Except String (PipelinePhase × List (PlannedHook π)) := do
  let sorted ← topologicalSort host edges phase
    (nodes.filter fun node => decide (node.hook.phase = phase))
  let hooks ← sorted.mapM (compiledHook availablePorts phase)
  return (phase, hooks)

/-- `hooksByPhase[phase]`. -/
def hooksOf (entries : List (PipelinePhase × List (PlannedHook π))) (phase : PipelinePhase) :
    List (PlannedHook π) :=
  ((entries.find? fun entry => decide (entry.1 = phase)).map (·.2)).getD []

def fingerprint (manifest : PluginManifest) : String :=
  s!"{manifest.id}:{manifest.apiVersion}:{manifest.behaviorVersion}:{manifest.configVersion}"

def registryFingerprint (plugins : List (PipelinePlugin φ)) : String :=
  "|".intercalate (sortBy compare (plugins.map fun plugin => fingerprint plugin.manifest))

def planRevision (input : CompilerInput φ π) : String :=
  let registryFingerprint := registryFingerprint input.plugins
  let revisionInput :=
    s!"{input.kernelApiVersion}\x00{registryFingerprint}\x00{input.settingsRevision}\x00{input.cacheKey}"
  "ppr_" ++ String.ofList ((host.sha256 revisionInput).toList.take 24)

/-- The checks up to the settings. -/
def assertInput (input : CompilerInput φ π) : Except String Unit := do
  assertIntegerVersion input.kernelApiVersion "kernelApiVersion"
  rejectIf (isRevision input.settingsRevision = false) "Invalid pipeline settings revision"
  rejectIf (isRevision input.cacheKey = false) "Invalid pipeline applicability cache key"
  createPipelineRegistry input.plugins input.kernelApiVersion
  assertSettings (input.plugins.map (·.manifest.id)) input.settings

/-- The edges between the hooks of the active plugins. -/
def compileEdges (input : CompilerInput φ π) (nodes : List (HookNode φ)) : Except String Edges := do
  let providers ← capabilityProviders input.singletonCapabilities nodes
  let ordered ← collect (orderEdges input.availableCapabilities providers nodes) nodes
  let producers ← contextProducers (contextKeyOf input.plugins) nodes
  let context ← collect (contextEdges (contextKeyOf input.plugins) producers) nodes
  return ordered ++ context

def compileExecutionPlan (input : CompilerInput φ π) : Except String (CompiledPlan π) := do
  assertInput input
  let active ← collect (activate input.settings input.facts) input.plugins
  let nodes := active.flatMap nodesOf
  let edges ← compileEdges input nodes
  let entries ← pipelinePhases.mapM (compilePhase host input.availablePorts nodes edges)
  return {
    kernelApiVersion := input.kernelApiVersion
    planRevision := planRevision host input
    settingsRevision := input.settingsRevision
    applicabilityCacheKey := input.cacheKey
    hooksByPhase := hooksOf entries
    requestHooks := requestPhases.flatMap (hooksOf entries)
    responseHooks := responsePhases.flatMap (hooksOf entries)
    streamHooks := hooksOf entries .streamTransform
    contextKeys := contextKeyOf input.plugins }

end Plans

end Frely.Pipeline
