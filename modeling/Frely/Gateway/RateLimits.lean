import Frely.Core.RelayError
import Frely.Lib.Machine
import Mathlib.Algebra.Order.Field.Rat

/-!
# Rate limits

`AsyncRateLimitService`: every policy that is assigned to a scope has a bucket of tokens, and a
request takes one token from each bucket of its scopes, in the order of the assignments.  Amounts
are exact.
-/

namespace Frely.Gateway

/-- A policy that is a token bucket.  Policies are never changed. -/
structure RateLimitPolicy where
  id : String
  metric : String
  mode : String
  status : String
  limitValue : ℚ
  windowSeconds : Int
  burstValue : ℚ
  limitValue_nonneg : 0 ≤ limitValue
  windowSeconds_pos : 0 < windowSeconds
  burstValue_nonneg : 0 ≤ burstValue
deriving DecidableEq

structure ScopeRateLimitPolicyAssignment where
  scopeRef : String
  status : String
  rateLimitPolicy : RateLimitPolicy
deriving DecidableEq

structure RateLimitBucket where
  tokens : ℚ
  updatedAtMs : Int
deriving DecidableEq

/-- The buckets, by their keys. -/
abbrev Buckets := String → Option RateLimitBucket

def Buckets.set (buckets : Buckets) (key : String) (bucket : RateLimitBucket) : Buckets :=
  fun other => if other = key then some bucket else buckets other

def isEnabledStatus (status : String) : Bool := status = "enabled"

def bucketKey (assignment : ScopeRateLimitPolicyAssignment) : String :=
  assignment.rateLimitPolicy.id ++ ":" ++ assignment.scopeRef

def RateLimitPolicy.refillPerMs (policy : RateLimitPolicy) : ℚ :=
  policy.limitValue / (policy.windowSeconds * 1000)

/-- The tokens of a bucket at a moment; a bucket that is not there is full. -/
def refilled (buckets : Buckets) (key : String) (policy : RateLimitPolicy) (nowMs : Int) : ℚ :=
  let current := (buckets key).getD ⟨policy.burstValue, nowMs⟩
  let elapsedMs := max 0 (nowMs - current.updatedAtMs)
  min policy.burstValue (current.tokens + elapsedMs * policy.refillPerMs)

def consume (buckets : Buckets) (key : String) (policy : RateLimitPolicy) (nowMs : Int) :
    Bool × Buckets :=
  let tokens := refilled buckets key policy nowMs
  if tokens < 1 then (false, buckets.set key ⟨tokens, nowMs⟩)
  else (true, buckets.set key ⟨tokens - 1, nowMs⟩)

def rateLimitExceeded (scopeRef : String) : RelayError :=
  ⟨"rate_limit_exceeded", "Rate limit exceeded for " ++ scopeRef, 429⟩

def isGovernance (assignment : ScopeRateLimitPolicyAssignment) : Bool :=
  isEnabledStatus assignment.status && isEnabledStatus assignment.rateLimitPolicy.status &&
    assignment.rateLimitPolicy.mode = "governance"

/-- The loop over the assignments; it is over with the first that has no token left. -/
def consumeAll (nowMs : Int) :
    List ScopeRateLimitPolicyAssignment → Buckets → Except RelayError Unit × Buckets
  | [], buckets => (.ok (), buckets)
  | assignment :: rest, buckets =>
    if assignment.rateLimitPolicy.metric ≠ "requests" then consumeAll nowMs rest buckets
    else
      let consumed := consume buckets (bucketKey assignment) assignment.rateLimitPolicy nowMs
      if consumed.1 then consumeAll nowMs rest consumed.2
      else (.error (rateLimitExceeded assignment.scopeRef), consumed.2)

/-- A request at a moment, with the assignments that the repository lists for its scopes. -/
structure RateLimitCall where
  nowMs : Int
  assignments : List ScopeRateLimitPolicyAssignment

def checkGovernance (call : RateLimitCall) (buckets : Buckets) : Except RelayError Unit × Buckets :=
  consumeAll call.nowMs (call.assignments.filter isGovernance) buckets

/-- A gateway starts without buckets. -/
def noBuckets : Buckets := fun _ => none

end Frely.Gateway
