import Frely.Lib.Stateful
import Frely.ModelAccess.AccessPointSelectors
import Frely.Postgres.Schema

/-!
# The routing kernel

`compileRoutingPlan` follows the AccessPoints from the entry to the one whose selector chooses among
candidates, and from there every enabled target to a provider model.  All work is charged to a
`GraphCompilationBudget`, the state of the programs here.  `evaluateRouting` adds what is available
at the moment, and `selectNextRoutingCandidate` lets the selector decide on the next attempt.

Both loops of the compiler follow one target after another.  `hops` counts down to what
`assertAccessPointHopAvailable` checks before a hop: it starts at the limit and is 0 once the chain
has as many hops as are allowed, so the loops recurse on it.

`JSON.parse` and `localeCompare` are parameters (`Host`): every result holds whatever they do.
-/

namespace Frely.ModelAccess

open Frely.Postgres Checked StableSort Stateful

def maxAccessPointToAccessPointHops : Nat := 200

/-- What the compiler uses of the host language. -/
structure Host where
  parseJson : String → Option Json
  localeCompare : String → String → Ordering

/-! ### The graph -/

structure RoutingGraphTarget where
  id : String
  type : AccessPointTargetType
  targetAccessPointId : Option String
  targetProviderModelId : Option String
  targetProviderId : Option String
  targetProviderModelName : Option String
  position : Int
  status : String
  removedAt : Option String
deriving DecidableEq

/-- An AccessPoint with its targets, whose ids are keys of a table. -/
structure RoutingGraphAccessPoint where
  id : String
  exposedModel : String
  targetModel : String
  routingRuleId : String
  routingRuleBehaviorVersion : Int
  routingRuleConfigJson : String
  routingRevision : Int
  removedAt : Option String
  targets : List RoutingGraphTarget
  targetIds : (targets.map RoutingGraphTarget.id).Nodup

instance : Keyed RoutingGraphAccessPoint String := ⟨RoutingGraphAccessPoint.id⟩

structure RoutingGraphProviderModel where
  id : String
  providerId : String
  providerModelName : String

instance : Keyed RoutingGraphProviderModel String := ⟨RoutingGraphProviderModel.id⟩

structure RoutingGraphSnapshot where
  accessPoints : Table RoutingGraphAccessPoint
  providerModels : Table RoutingGraphProviderModel

/-! ### Plans -/

structure CompiledRoutingRevisionExpectation where
  accessPointId : String
  routingRevision : Int
deriving DecidableEq

structure CompiledRoutingCandidate where
  candidateId : String
  selectorTargetEdgeId : String
  selectorPosition : Int
  pathTargetEdgeIds : List String
  accessPointChainIds : List String
  routingRevisions : List CompiledRoutingRevisionExpectation
  providerId : String
  providerModelId : String
  providerModelName : String
deriving DecidableEq

structure CompiledRoutingPlan where
  entryAccessPointId : String
  requestedModel : String
  selectorAccessPointId : String
  selectorId : String
  selectorBehaviorVersion : Int
  selectorConfig : AccessPointSelectorConfig
  routingRevision : Int
  candidates : List CompiledRoutingCandidate

structure CompileRoutingPlanInput where
  entryAccessPointId : String
  requestedModel : String
  graph : RoutingGraphSnapshot

/-! ### The budget -/

/-- The limits of a compilation.  The signal and the clock are read at every checkpoint: what the
n-th one finds is `aborted n` and `now n`. -/
structure GraphCompilationBudgetOptions where
  maxVisitedNodes : Int
  maxVisitedEdges : Int
  maxDecodedConfigBytes : Int
  maxEvaluationCandidates : Int
  deadlineAtMs : Option Int
  aborted : Nat → Bool
  now : Nat → Int

structure GraphCompilationBudget where
  options : GraphCompilationBudgetOptions
  visitedNodeIds : List String
  visitedEdgeIds : List String
  decodedConfigBytes : Nat
  evaluatedCandidates : Nat
  checkpoints : Nat

abbrev Budgeted := Stateful.Program GraphCompilationBudget RelayError

def capacityExceeded : RelayError :=
  ⟨"graph_compilation_capacity_exceeded", "Routing graph work exceeded platform capacity", 503⟩

def assertOption (name : String) (value : Int) : Except RelayError Unit :=
  rejectIf (¬IsSafeInteger value ∨ value < 0)
    ⟨"graph_compilation_budget_invalid", s!"{name} must be a non-negative safe integer", 500⟩

/-- The constructor: a budget of which nothing is consumed. -/
def GraphCompilationBudget.create (options : GraphCompilationBudgetOptions) :
    Except RelayError GraphCompilationBudget := do
  assertOption "maxVisitedNodes" options.maxVisitedNodes
  assertOption "maxVisitedEdges" options.maxVisitedEdges
  assertOption "maxDecodedConfigBytes" options.maxDecodedConfigBytes
  assertOption "maxEvaluationCandidates" options.maxEvaluationCandidates
  return ⟨options, [], [], 0, 0, 0⟩

def assertWithin (consumed : Nat) (limit : Int) : Except RelayError Unit :=
  rejectIf (limit < (consumed : Int)) capacityExceeded

namespace GraphCompilationBudget

def checked (budget : GraphCompilationBudget) : Except RelayError GraphCompilationBudget := do
  rejectIf (budget.options.aborted budget.checkpoints)
    ⟨"request_aborted", "The request was aborted", 499⟩
  rejectIf (∃ deadline ∈ budget.options.deadlineAtMs,
    deadline ≤ budget.options.now budget.checkpoints) capacityExceeded
  return { budget with checkpoints := budget.checkpoints + 1 }

def withNode (accessPointId : String) (decodedConfigBytes : Nat)
    (budget : GraphCompilationBudget) : Except RelayError GraphCompilationBudget :=
  if accessPointId ∈ budget.visitedNodeIds then .ok budget
  else do
    rejectIf (¬IsSafeInteger decodedConfigBytes)
      ⟨"routing_graph_snapshot_invalid", "Routing config byte size is invalid", 500⟩
    let visited := accessPointId :: budget.visitedNodeIds
    let bytes := budget.decodedConfigBytes + decodedConfigBytes
    assertWithin visited.length budget.options.maxVisitedNodes
    assertWithin bytes budget.options.maxDecodedConfigBytes
    return { budget with visitedNodeIds := visited, decodedConfigBytes := bytes }

def withEdge (edgeId : String) (budget : GraphCompilationBudget) :
    Except RelayError GraphCompilationBudget :=
  if edgeId ∈ budget.visitedEdgeIds then .ok budget
  else do
    let visited := edgeId :: budget.visitedEdgeIds
    assertWithin visited.length budget.options.maxVisitedEdges
    return { budget with visitedEdgeIds := visited }

def withCandidate (budget : GraphCompilationBudget) : Except RelayError GraphCompilationBudget := do
  assertWithin (budget.evaluatedCandidates + 1) budget.options.maxEvaluationCandidates
  return { budget with evaluatedCandidates := budget.evaluatedCandidates + 1 }

end GraphCompilationBudget

def checkpoint : Budgeted Unit := change GraphCompilationBudget.checked

def visitNode (accessPointId : String) (decodedConfigBytes : Nat) : Budgeted Unit := do
  checkpoint
  change (GraphCompilationBudget.withNode accessPointId decodedConfigBytes)

def visitEdge (edgeId : String) : Budgeted Unit := do
  checkpoint
  change (GraphCompilationBudget.withEdge edgeId)

def evaluateCandidate : Budgeted Unit := do
  checkpoint
  change GraphCompilationBudget.withCandidate

/-! ### Rules -/

structure CompiledRule where
  config : AccessPointSelectorConfig
  targets : List RoutingGraphTarget

structure SelectorPath where
  selector : RoutingGraphAccessPoint
  accessPointChain : List RoutingGraphAccessPoint
  targetEdgeIds : List String
  rule : CompiledRule

def routingCycle (accessPointId : String) : RelayError :=
  ⟨"access_point_cycle", s!"AccessPoint cycle detected at {accessPointId}", 400⟩

def accessPointDepthExceeded : RelayError :=
  ⟨"access_point_depth_exceeded",
    s!"AccessPoint routing exceeds the {maxAccessPointToAccessPointHops}-hop limit", 400⟩

/-- Reading a field of the first target of a rule that has none: no compiled rule is one. -/
def noFirstTarget : RelayError :=
  ⟨"internal_error", "Cannot read properties of undefined (reading 'type')", 500⟩

def requireAccessPoint (graph : RoutingGraphSnapshot) (id : String) :
    Except RelayError RoutingGraphAccessPoint :=
  match graph.accessPoints.find? id with
  | none => .error ⟨"access_point_target_not_found", s!"AccessPoint {id} not found", 404⟩
  | some accessPoint => do
    rejectIf (truthy accessPoint.removedAt ≠ none)
      ⟨"access_point_target_not_found", s!"AccessPoint {id} not found", 404⟩
    return accessPoint

def requireTargetAccessPoint (graph : RoutingGraphSnapshot) (source : RoutingGraphAccessPoint)
    (target : RoutingGraphTarget) : Except RelayError RoutingGraphAccessPoint :=
  match truthy target.targetAccessPointId with
  | none => .error ⟨"access_point_target_not_found",
      s!"AccessPoint target {target.id} is missing its stable reference", 404⟩
  | some targetAccessPointId => do
    let downstream ← requireAccessPoint graph targetAccessPointId
    rejectIf (downstream.exposedModel ≠ source.targetModel)
      ⟨"access_point_target_model_not_allowed",
      s!"Target AccessPoint {downstream.id} does not expose targetModel {source.targetModel}", 400⟩
    return downstream

def requireProviderModel (graph : RoutingGraphSnapshot) (source : RoutingGraphAccessPoint)
    (target : RoutingGraphTarget) : Except RelayError RoutingGraphProviderModel :=
  match truthy target.targetProviderModelId with
  | none => .error ⟨"provider_model_stable_reference_missing",
      s!"Provider-model target {target.id} is missing ProviderModelId", 500⟩
  | some targetProviderModelId =>
    match graph.providerModels.find? targetProviderModelId with
    | none => .error ⟨"provider_model_not_found",
        s!"ProviderModel {targetProviderModelId} not found", 404⟩
    | some providerModel => do
      rejectIf (providerModel.providerModelName ≠ source.targetModel ∨
          (∃ id ∈ target.targetProviderId, id ≠ providerModel.providerId) ∨
          ∃ name ∈ target.targetProviderModelName, name ≠ providerModel.providerModelName)
        ⟨"provider_model_reference_mismatch",
          s!"Provider-model target {target.id} does not match its stable ProviderModel reference",
            500⟩
      return providerModel

def validateTargetShape (target : RoutingGraphTarget) : Except RelayError Unit :=
  match target.type with
  | .accessPoint =>
    rejectIf (truthy target.targetAccessPointId = none ∨ target.targetProviderModelId ≠ none)
      ⟨"invalid_access_point_routing",
        s!"AccessPoint target {target.id} has an invalid reference shape", 500⟩
  | .providerModel =>
    rejectIf (target.targetAccessPointId ≠ none ∨ truthy target.targetProviderModelId = none)
      ⟨"invalid_access_point_routing",
        s!"Provider-model target {target.id} has an invalid reference shape", 500⟩

/-- The loop over the enabled targets of an AccessPoint; `positions` are those already taken. -/
def checkTargets (accessPoint : RoutingGraphAccessPoint) :
    List Int → List RoutingGraphTarget → Budgeted Unit
  | _, [] => pure ()
  | positions, target :: rest => do
    visitEdge target.id
    check (rejectIf
      (¬IsSafeInteger target.position ∨ target.position < 0 ∨ target.position ∈ positions)
      ⟨"invalid_access_point_routing",
        s!"AccessPoint {accessPoint.id} has invalid enabled target positions", 500⟩)
    check (validateTargetShape target)
    checkTargets accessPoint (target.position :: positions) rest

def enabledTargets (host : Host) (accessPoint : RoutingGraphAccessPoint) :
    List RoutingGraphTarget :=
  sortBy (fun left right =>
      (compare left.position right.position).then (host.localeCompare left.id right.id))
    (accessPoint.targets.filter fun target =>
      target.status = "enabled" ∧ truthy target.removedAt = none)

def parseConfig (host : Host) (accessPoint : RoutingGraphAccessPoint) : Except RelayError Json :=
  match host.parseJson accessPoint.routingRuleConfigJson with
  | some config => .ok config
  | none => .error ⟨"invalid_access_point_routing_rule",
      s!"AccessPoint {accessPoint.id} has invalid routing config JSON", 500⟩

def compileConfig (accessPoint : RoutingGraphAccessPoint) (configInput : Json)
    (enabledTargetCount : Nat) : Except RelayError AccessPointSelectorConfig :=
  Except.mapError (fun message => ⟨"invalid_access_point_routing_rule", message, 500⟩) do
    let selector ← getAccessPointSelector accessPoint.routingRuleId
      accessPoint.routingRuleBehaviorVersion
    selector.normalizeConfig configInput enabledTargetCount

def compileRule (host : Host) (accessPoint : RoutingGraphAccessPoint) : Budgeted CompiledRule := do
  check (rejectIf (truthy accessPoint.removedAt ≠ none)
    ⟨"access_point_target_not_found", s!"AccessPoint {accessPoint.id} is removed", 404⟩)
  visitNode accessPoint.id accessPoint.routingRuleConfigJson.utf8ByteSize
  let targets := enabledTargets host accessPoint
  checkTargets accessPoint [] targets
  let configInput ← check (parseConfig host accessPoint)
  let config ← check (compileConfig accessPoint configInput targets.length)
  return ⟨config, targets⟩

/-! ### Compilation -/

def findSelectorFrom (host : Host) (graph : RoutingGraphSnapshot) (hops : Nat)
    (visited : List RoutingGraphAccessPoint) (targetEdgeIds : List String)
    (current : RoutingGraphAccessPoint) : Budgeted SelectorPath := do
  checkpoint
  check (rejectIf (current.id ∈ visited.map RoutingGraphAccessPoint.id) (routingCycle current.id))
  let accessPointChain := visited ++ [current]
  let rule ← compileRule host current
  if current.routingRuleId = "ordered-fallback" then
    return ⟨current, accessPointChain, targetEdgeIds, rule⟩
  else match rule.targets with
    | [] => check (.error noFirstTarget)
    | target :: _ => match target.type with
      | .providerModel => return ⟨current, accessPointChain, targetEdgeIds, rule⟩
      | .accessPoint => match hops with
        | 0 => check (.error accessPointDepthExceeded)
        | hops + 1 => do
          let downstream ← check (requireTargetAccessPoint graph current target)
          findSelectorFrom host graph hops accessPointChain (targetEdgeIds ++ [target.id])
            downstream

def findSelector (host : Host) (graph : RoutingGraphSnapshot) (entry : RoutingGraphAccessPoint) :
    Budgeted SelectorPath :=
  findSelectorFrom host graph maxAccessPointToAccessPointHops [] [] entry

def compiledCandidate (selector : RoutingGraphAccessPoint) (selectorTarget : RoutingGraphTarget)
    (accessPointChain : List RoutingGraphAccessPoint) (pathTargetEdgeIds : List String)
    (providerModel : RoutingGraphProviderModel) : CompiledRoutingCandidate where
  candidateId := s!"{selector.id}:{selectorTarget.id}"
  selectorTargetEdgeId := selectorTarget.id
  selectorPosition := selectorTarget.position
  pathTargetEdgeIds := pathTargetEdgeIds
  accessPointChainIds := accessPointChain.map RoutingGraphAccessPoint.id
  routingRevisions := accessPointChain.map fun accessPoint =>
    ⟨accessPoint.id, accessPoint.routingRevision⟩
  providerId := providerModel.providerId
  providerModelId := providerModel.id
  providerModelName := providerModel.providerModelName

def orderedSelectorNested : RelayError :=
  ⟨"access_point_ordered_selector_nested",
    "Each AccessPoint path may contain at most one ordered-fallback@1 rule", 400⟩

def compileCandidateFrom (host : Host) (graph : RoutingGraphSnapshot)
    (selector : RoutingGraphAccessPoint) (selectorTarget : RoutingGraphTarget) (hops : Nat)
    (accessPointChain : List RoutingGraphAccessPoint) (pathTargetEdgeIds : List String)
    (current : RoutingGraphAccessPoint) (target : RoutingGraphTarget) :
    Budgeted CompiledRoutingCandidate := do
  checkpoint
  let pathTargetEdgeIds := pathTargetEdgeIds ++ [target.id]
  match target.type with
  | .providerModel => do
    let providerModel ← check (requireProviderModel graph current target)
    return compiledCandidate selector selectorTarget accessPointChain pathTargetEdgeIds
      providerModel
  | .accessPoint => match hops with
    | 0 => check (.error accessPointDepthExceeded)
    | hops + 1 => do
      let downstream ← check (requireTargetAccessPoint graph current target)
      check (rejectIf (downstream.id ∈ accessPointChain.map RoutingGraphAccessPoint.id)
        (routingCycle downstream.id))
      let downstreamRule ← compileRule host downstream
      check (rejectIf (downstream.routingRuleId = "ordered-fallback") orderedSelectorNested)
      match downstreamRule.targets with
      | [] => check (.error noFirstTarget)
      | next :: _ =>
        compileCandidateFrom host graph selector selectorTarget hops
          (accessPointChain ++ [downstream]) pathTargetEdgeIds downstream next

def compileCandidate (host : Host) (graph : RoutingGraphSnapshot) (selectorPath : SelectorPath)
    (selectorTarget : RoutingGraphTarget) : Budgeted CompiledRoutingCandidate :=
  compileCandidateFrom host graph selectorPath.selector selectorTarget
    (maxAccessPointToAccessPointHops - (selectorPath.accessPointChain.length - 1))
    selectorPath.accessPointChain selectorPath.targetEdgeIds selectorPath.selector selectorTarget

def compileRoutingPlan (host : Host) (input : CompileRoutingPlanInput) :
    Budgeted CompiledRoutingPlan := do
  checkpoint
  let entry ← check (requireAccessPoint input.graph input.entryAccessPointId)
  check (rejectIf (entry.exposedModel ≠ input.requestedModel)
    ⟨"access_point_requested_model_mismatch",
    s!"AccessPoint {entry.id} does not expose requested model {input.requestedModel}", 400⟩)
  let selectorPath ← findSelector host input.graph entry
  let candidates ← Stateful.traverse (compileCandidate host input.graph selectorPath)
    selectorPath.rule.targets
  return {
    entryAccessPointId := entry.id
    requestedModel := input.requestedModel
    selectorAccessPointId := selectorPath.selector.id
    selectorId := selectorPath.selector.routingRuleId
    selectorBehaviorVersion := selectorPath.selector.routingRuleBehaviorVersion
    selectorConfig := selectorPath.rule.config
    routingRevision := selectorPath.selector.routingRevision
    candidates }

/-! ### Evaluation -/

/-- The statuses of everything a plan may use. -/
structure RoutingAvailabilitySnapshot where
  accessPointStatuses : String → Option String
  providerStatuses : String → Option String
  providerModelStatuses : String → Option String
  providerBindingStatuses : String → Option String

inductive RoutingUnavailableReason where
  | accessPointDisabled (accessPointId : String)
  | providerDisabled (providerId : String)
  | providerModelDisabled (providerModelId : String)
  | providerBindingNotReady (providerId : String)
deriving DecidableEq

structure EvaluatedRoutingCandidate extends CompiledRoutingCandidate where
  available : Bool
  unavailableReason : Option RoutingUnavailableReason

structure RoutingCandidateSelection where
  selectedCandidateId : Option String
  selectedCandidate : Option EvaluatedRoutingCandidate

structure EvaluatedRoutingPlan extends RoutingCandidateSelection where
  plan : CompiledRoutingPlan
  candidates : List EvaluatedRoutingCandidate

def requiredAvailability (statuses : String → Option String) (id type : String) :
    Except RelayError String :=
  match statuses id with
  | some status => .ok status
  | none => .error ⟨"routing_availability_snapshot_incomplete",
      s!"{type} {id} is missing from the routing availability snapshot", 500⟩

/-- The first AccessPoint of a chain that is not enabled. -/
def disabledAccessPoint (availability : RoutingAvailabilitySnapshot) :
    List String → Except RelayError (Option String)
  | [] => .ok none
  | accessPointId :: rest => do
    let status ← requiredAvailability availability.accessPointStatuses accessPointId "AccessPoint"
    if status ≠ "enabled" then return some accessPointId
    else disabledAccessPoint availability rest

def providerUnavailableReason (candidate : CompiledRoutingCandidate)
    (availability : RoutingAvailabilitySnapshot) :
    Except RelayError (Option RoutingUnavailableReason) := do
  let providerStatus ← requiredAvailability availability.providerStatuses candidate.providerId
    "Provider"
  if providerStatus ≠ "enabled" then return some (.providerDisabled candidate.providerId)
  else
    let modelStatus ← requiredAvailability availability.providerModelStatuses
      candidate.providerModelId "ProviderModel"
    if modelStatus ≠ "enabled" then return some (.providerModelDisabled candidate.providerModelId)
    else if availability.providerBindingStatuses candidate.providerId ≠ some "ready" then
      return some (.providerBindingNotReady candidate.providerId)
    else return none

def candidateUnavailableReason (candidate : CompiledRoutingCandidate)
    (availability : RoutingAvailabilitySnapshot) :
    Except RelayError (Option RoutingUnavailableReason) := do
  let disabled ← disabledAccessPoint availability candidate.accessPointChainIds
  match disabled with
  | some accessPointId => return some (.accessPointDisabled accessPointId)
  | none => providerUnavailableReason candidate availability

def validateEvaluatedCandidates (plan : CompiledRoutingPlan)
    (candidates : List EvaluatedRoutingCandidate) : Except RelayError Unit :=
  rejectIf (candidates.map EvaluatedRoutingCandidate.toCompiledRoutingCandidate ≠ plan.candidates)
    ⟨"routing_evaluated_candidates_invalid",
      "Evaluated routing candidates do not match the compiled plan", 500⟩

/-- An attempt is of a candidate of the plan, over its edge, and carries its number.  Of candidates
with one id the last one counts. -/
def validateAttemptFacts (candidates : List EvaluatedRoutingCandidate)
    (attempts : List SelectorAttemptResult) : Except RelayError Unit :=
  forAll attempts.zipIdx fun (attempt, index) =>
    rejectIf ((candidates.reverse.find? (·.candidateId = attempt.candidateId)).map
        (·.selectorTargetEdgeId) ≠ some attempt.targetEdgeId ∨ attempt.attemptIndex ≠ index)
      ⟨"routing_attempt_facts_invalid", "Routing attempt facts do not match the compiled plan", 500⟩

def EvaluatedRoutingCandidate.toSelectorCandidate (candidate : EvaluatedRoutingCandidate) :
    SelectorCandidate where
  candidateId := candidate.candidateId
  targetEdgeId := candidate.selectorTargetEdgeId
  position := candidate.selectorPosition
  available := candidate.available

def selectorDecision (host : Host) (plan : CompiledRoutingPlan)
    (candidates : List EvaluatedRoutingCandidate) (attempts : List SelectorAttemptResult) :
    Except RelayError (Option String) :=
  Except.mapError (fun message => ⟨"invalid_access_point_selector_decision", message, 500⟩) do
    let selector ← getAccessPointSelector plan.selectorId plan.selectorBehaviorVersion
    selector.decide host.localeCompare
      (candidates.map EvaluatedRoutingCandidate.toSelectorCandidate) attempts plan.selectorConfig

def selectNextRoutingCandidate (host : Host) (plan : CompiledRoutingPlan)
    (candidates : List EvaluatedRoutingCandidate) (attempts : List SelectorAttemptResult) :
    Except RelayError RoutingCandidateSelection := do
  validateEvaluatedCandidates plan candidates
  validateAttemptFacts candidates attempts
  let selectedCandidateId ← selectorDecision host plan candidates attempts
  rejectIf (∃ id ∈ selectedCandidateId, ∀ candidate ∈ candidates, candidate.candidateId ≠ id)
    ⟨"invalid_access_point_selector_decision", "RoutingRule selected an unknown candidate", 500⟩
  return ⟨selectedCandidateId,
    candidates.find? fun candidate => some candidate.candidateId = selectedCandidateId⟩

def evaluatedCandidate (availability : RoutingAvailabilitySnapshot)
    (candidate : CompiledRoutingCandidate) : Budgeted EvaluatedRoutingCandidate := do
  evaluateCandidate
  let unavailableReason ← check (candidateUnavailableReason candidate availability)
  return { candidate with available := unavailableReason = none, unavailableReason }

def evaluateRouting (host : Host) (plan : CompiledRoutingPlan)
    (availability : RoutingAvailabilitySnapshot) (attempts : List SelectorAttemptResult) :
    Budgeted EvaluatedRoutingPlan := do
  checkpoint
  let candidates ← Stateful.traverse (evaluatedCandidate availability) plan.candidates
  let selection ← check (selectNextRoutingCandidate host plan candidates attempts)
  return { selection with plan, candidates }

end Frely.ModelAccess
