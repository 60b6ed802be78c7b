import Frely.Lib.StableSort
import Frely.RequestExecution.Contracts

/-!
# Selectors of AccessPoints

The two selectors: `direct` always takes the single target, `ordered-fallback` tries the targets in
the order of their positions.  A selector normalizes the configuration it is given, a parsed JSON
value, and decides which candidate is attempted next.  An error of a selector is its message.
-/

namespace Frely.ModelAccess

open Frely.RequestExecution Checked StableSort

/-- A JSON value.  Of a number only the integer it denotes counts, if it denotes one. -/
inductive Json where
  | null
  | boolean (value : Bool)
  | number (value : Option Int)
  | string (value : String)
  | array (items : List Json)
  | object (entries : List (String × Json))

structure SelectorCandidate where
  candidateId : String
  targetEdgeId : String
  position : Int
  available : Bool

structure SelectorAttemptResult where
  candidateId : String
  targetEdgeId : String
  attemptIndex : Nat
  outcome : ProviderAttemptOutcome
  failureClass : Option ProviderFailureClass
  outputCommitted : Bool

inductive AccessPointSelectorId where
  | direct
  | orderedFallback
deriving DecidableEq

def AccessPointSelectorId.text : AccessPointSelectorId → String
  | direct => "direct"
  | orderedFallback => "ordered-fallback"

inductive AccessPointSelectorConfig where
  | direct
  | orderedFallback (maxAttempts : Int) (retryOn : List ProviderFailureClass)

/-- `config.maxAttempts`, which only one kind of configuration has. -/
def AccessPointSelectorConfig.maxAttempts : AccessPointSelectorConfig → Option Int
  | direct => none
  | orderedFallback maxAttempts _ => some maxAttempts

def AccessPointSelectorConfig.retryOn :
    AccessPointSelectorConfig → Option (List ProviderFailureClass)
  | direct => none
  | orderedFallback _ retryOn => some retryOn

/-! ### Configurations -/

def assertStrictRecord (input : Json) (allowedKeys : List String) :
    Except String (List (String × Json)) :=
  match input with
  | .object entries => do
    rejectIf (∃ entry ∈ entries, entry.1 ∉ allowedKeys) "access_point_selector_config_unknown_field"
    return entries
  | _ => .error "access_point_selector_config_invalid"

/-- A field of a record. -/
def field (entries : List (String × Json)) (key : String) : Option Json :=
  (entries.find? (·.1 = key)).map (·.2)

def retryableProviderFailureClasses : List ProviderFailureClass :=
  [.connectError, .timeout, .rateLimited, .upstream5xx]

/-- The retryable failure class that a value names. -/
def retryableFailureClass : Json → Option ProviderFailureClass
  | .string "connect_error" => some .connectError
  | .string "timeout" => some .timeout
  | .string "rate_limited" => some .rateLimited
  | .string "upstream_5xx" => some .upstream5xx
  | _ => none

def normalizedMaxAttempts (value : Option Json) (enabledTargetCount : Nat) : Except String Int :=
  match value with
  | none => .ok (min 2 enabledTargetCount)
  | some (.number (some maxAttempts)) => do
    rejectIf (¬IsSafeInteger maxAttempts ∨ maxAttempts < 2 ∨
      (enabledTargetCount : Int) < maxAttempts)
      "ordered_fallback_max_attempts_invalid"
    return maxAttempts
  | some _ => .error "ordered_fallback_max_attempts_invalid"

/-- The classes to retry on: each a retryable one, and none twice. -/
def normalizedRetryOn (value : Option Json) : Except String (List ProviderFailureClass) :=
  match value with
  | none => .ok retryableProviderFailureClasses
  | some (.array items) =>
    match items.mapM retryableFailureClass with
    | none => .error "ordered_fallback_retry_on_invalid"
    | some classes => do
      rejectIf (classes = [] ∨ ¬classes.Nodup) "ordered_fallback_retry_on_invalid"
      return classes
  | some _ => .error "ordered_fallback_retry_on_invalid"

def AccessPointSelectorId.normalizeConfig (selector : AccessPointSelectorId) (input : Json)
    (enabledTargetCount : Nat) : Except String AccessPointSelectorConfig :=
  match selector with
  | .direct => do
    let _ ← assertStrictRecord input []
    rejectIf (enabledTargetCount ≠ 1) "direct_selector_requires_one_enabled_target"
    return .direct
  | .orderedFallback => do
    rejectIf (enabledTargetCount < 2 ∨ 4 < enabledTargetCount)
      "ordered_fallback_requires_two_to_four_enabled_targets"
    let record ← assertStrictRecord input ["maxAttempts", "retryOn"]
    let maxAttempts ← normalizedMaxAttempts (field record "maxAttempts") enabledTargetCount
    let retryOn ← normalizedRetryOn (field record "retryOn")
    return .orderedFallback maxAttempts retryOn

/-! ### Decisions -/

/-- The single available candidate, once. -/
def decideDirect (candidates : List SelectorCandidate) (attempts : List SelectorAttemptResult) :
    Option String :=
  match candidates.filter (·.available) with
  | [candidate] =>
    if attempts.any (·.candidateId = candidate.candidateId) then none else some
      candidate.candidateId
  | _ => none

/-- Another candidate may be attempted after a failure that the configuration retries on; reading
the classes of a configuration without any is an error. -/
def permitsFallback (config : AccessPointSelectorConfig) (previous : SelectorAttemptResult) :
    Except String Bool :=
  if previous.outcome ≠ .failed ∨ previous.outputCommitted then .ok false
  else match previous.failureClass with
    | none => .ok false
    | some failureClass =>
      match config.retryOn with
      | none => .error "Cannot read properties of undefined (reading 'includes')"
      | some retryOn => .ok (failureClass ∈ retryOn)

def permitsNext (config : AccessPointSelectorConfig) (attempts : List SelectorAttemptResult) :
    Except String Bool :=
  match attempts.getLast? with
  | none => .ok true
  | some previous => permitsFallback config previous

def decideOrderedFallback (localeCompare : String → String → Ordering)
    (candidates : List SelectorCandidate) (attempts : List SelectorAttemptResult)
    (config : AccessPointSelectorConfig) : Except String (Option String) := do
  if config.maxAttempts.any (fun maxAttempts => maxAttempts ≤ (attempts.length : Int)) then
    return none
  else
    let permitted ← permitsNext config attempts
    if permitted then
      let open_ := candidates.filter fun candidate =>
        candidate.available && !attempts.any (·.candidateId = candidate.candidateId)
      return (sortBy (fun left right => (compare left.position right.position).then
        (localeCompare left.targetEdgeId right.targetEdgeId)) open_).head?.map (·.candidateId)
    else return none

def AccessPointSelectorId.decide (localeCompare : String → String → Ordering)
    (selector : AccessPointSelectorId) (candidates : List SelectorCandidate)
    (attempts : List SelectorAttemptResult) (config : AccessPointSelectorConfig) :
    Except String (Option String) :=
  match selector with
  | .direct => .ok (decideDirect candidates attempts)
  | .orderedFallback => decideOrderedFallback localeCompare candidates attempts config

def getAccessPointSelector (id : String) (behaviorVersion : Int) :
    Except String AccessPointSelectorId := do
  rejectIf (behaviorVersion ≠ 1 ∨ (id ≠ "direct" ∧ id ≠ "ordered-fallback"))
    "access_point_selector_unknown"
  return if id = "direct" then .direct else .orderedFallback

end Frely.ModelAccess
