import Frely.Core.Dates
import Frely.Core.ScopeRef
import Frely.Lib.Table
import Frely.Lib.Transaction

/-!
# Plan subscriptions

The commands on the subscriptions of a Plan.  Their periods are kept as the texts they were given
in: the database orders the columns by their bytes and the host language compares code units, while
a bound is accepted when the host language reads a date in it.
-/

namespace Frely.Entitlement

open Checked Transaction

/-! ### Rows -/

inductive SubscriptionLifecycle where
  | active
  | canceled
deriving DecidableEq

structure Period where
  effectiveStart : String
  effectiveEnd : Option String
deriving DecidableEq

structure PlanSubscription extends Period where
  id : String
  planId : String
  source : String
  scopeRef : String
  purchasedByUserId : Option String
  fundingAccountId : Option String
  originCardId : Option String
  priority : Int
  subscriptionLifecycle : SubscriptionLifecycle
  createdAt : String
  updatedAt : String
deriving DecidableEq

instance : Keyed PlanSubscription String := ⟨PlanSubscription.id⟩

structure Plan where
  id : String
  planStatus : String
  durationSeconds : Int

/-! ### Errors and texts -/

/-- An error of the relay, or any other error with its text. -/
inductive EntitlementError where
  | relay (error : RelayError)
  | error (message : String)
deriving DecidableEq

theorem relay_ne {error other : RelayError} (h : error.code ≠ other.code) :
    EntitlementError.relay error ≠ .relay other := by
  rintro ⟨⟩
  exact h rfl

theorem rejectIf_relay_ne {condition : Prop} [Decidable condition] {error other : RelayError}
    (h : error.code ≠ other.code) :
    rejectIf condition (EntitlementError.relay error) ≠ .error (.relay other) :=
  rejectIf_ne_error fun _ => relay_ne h

def reject {α : Type} (code message : String) (status : Nat) : Except EntitlementError α :=
  .error (.relay ⟨code, message, status⟩)

/-- `trim`, then a length from 1 to `max`. -/
def requiredText (value name : String) (max : Nat) : Except EntitlementError String :=
  let result := String.ofList (trimmed value.toList)
  if result = "" ∨ max < utf16Length result then
    reject "entitlement_text_invalid" (name ++ " is required") 400
  else .ok result

def boundedInteger (value : Int) (name : String) : Except EntitlementError Int := do
  rejectIf (¬IsSafeInteger value)
    (.relay ⟨"entitlement_integer_invalid", name ++ " is invalid", 400⟩)
  pure value

/-- `left < right` in the database. -/
def bytesBefore (left right : String) : Bool :=
  decide (left.toByteArray.data.toList < right.toByteArray.data.toList)

/-- The UTF-16 code units of a text. -/
def codeUnits (text : String) : List Nat :=
  text.toList.flatMap fun c =>
    if 0xffff < c.toNat then
      [0xd800 + (c.toNat - 0x10000) / 0x400, 0xdc00 + (c.toNat - 0x10000) % 0x400]
    else [c.toNat]

/-- `left < right` in the host language. -/
def codeUnitsBefore (left right : String) : Bool := decide (codeUnits left < codeUnits right)

/-! ### The surroundings of a command -/

/-- What a command reads besides the subscriptions: the Plans, the clock, and how the engine reads
texts that are no dates of the language. -/
structure Environment where
  plans : List Plan
  now : Timestamp
  parseOther : String → Option Timestamp

variable (env : Environment)

def Environment.parse (text : String) : Option Timestamp := Date.parse env.parseOther text

def toISOString (time : Timestamp) : Except EntitlementError String :=
  match Date.toISOString time with
  | some text => .ok text
  | none => .error (.error "Invalid time value")

def nowIso : Except EntitlementError String := toISOString env.now

def addSeconds (value : String) (seconds : Int) : Except EntitlementError String :=
  match env.parse value with
  | some time => toISOString (time + seconds * 1000)
  | none => .error (.error "Invalid time value")

def Environment.findPlan (planId : String) : Option Plan := env.plans.find? (·.id = planId)

/-! ### Checks -/

def subscriptionPeriodInvalid : EntitlementError :=
  .relay ⟨"invalid_plan_subscription_period", "Plan Subscription period is invalid", 400⟩

def requireInterval (period : Period) : Except EntitlementError Unit :=
  rejectIf (env.parse period.effectiveStart = none ∨
      ∃ last ∈ period.effectiveEnd, env.parse last = none ∨
        ¬codeUnitsBefore period.effectiveStart last)
    subscriptionPeriodInvalid

def requireSubscriptionScope (scopeRef : String) : Except EntitlementError Unit :=
  let unsupported : EntitlementError := .relay ⟨"plan_subscription_scope_not_supported",
    "Plan subscriptions only support global, team, and user scopes", 400⟩
  if ¬isRuntimeScopeRef scopeRef then .error unsupported
  else match parseScopeType scopeRef with
    | .error error => .error (.relay error)
    | .ok scopeType => rejectIf (scopeType = .key) unsupported

/-- What the database looks for: an active row of the Plan and the scope whose columns overlap the
period. -/
def overlaps (planId scopeRef : String) (period : Period) (excludingId : Option String)
    (row : PlanSubscription) : Bool :=
  row.planId = planId && row.scopeRef = scopeRef && row.subscriptionLifecycle = .active &&
    some row.id ≠ truthy excludingId &&
    period.effectiveEnd.all (bytesBefore row.effectiveStart) &&
    row.effectiveEnd.all (bytesBefore period.effectiveStart)

def assertNoSubscriptionOverlap (subscriptions : Table PlanSubscription)
    (planId scopeRef : String) (period : Period) (excludingId : Option String) :
    Except EntitlementError Unit :=
  rejectIf (∃ row ∈ subscriptions.rows, overlaps planId scopeRef period excludingId row)
    (.relay ⟨"plan_subscription_overlap", "Plan subscription overlaps an active subscription",
      409⟩)

/-! ### Commands -/

abbrev EntitlementTxn := Txn (Table PlanSubscription) EntitlementError

/-- `effectiveEnd` is missing, `null` or a text. -/
structure CreatePlanSubscriptionCommand where
  id : Option String := none
  planId : String
  scopeRef : String
  source : String
  purchasedByUserId : Option String := none
  fundingAccountId : Option String := none
  originCardId : Option String := none
  priority : Option Int := none
  effectiveStart : Option String := none
  effectiveEnd : Option (Option String) := none
  allowClosedPlan : Bool := false

/-- The period of a new subscription: without an end it lasts as long as the Plan says. -/
def createPeriod (plan : Plan) (command : CreatePlanSubscriptionCommand) :
    Except EntitlementError Period := do
  let effectiveStart ← match command.effectiveStart with
    | some text => pure text
    | none => nowIso env
  let effectiveEnd ← match command.effectiveEnd with
    | some given => pure given
    | none => some <$> addSeconds env effectiveStart plan.durationSeconds
  return ⟨effectiveStart, effectiveEnd⟩

def planNotFound (planId : String) : EntitlementError :=
  .relay ⟨"plan_not_found", "Plan " ++ planId ++ " not found", 404⟩

/-- The period of a new subscription and the checks before any row is read. -/
def prepareSubscription (command : CreatePlanSubscriptionCommand) :
    Except EntitlementError Period :=
  match env.findPlan command.planId with
  | none => .error (planNotFound command.planId)
  | some plan => do
    rejectIf (plan.planStatus ≠ "enabled" ∧
        ¬(command.allowClosedPlan ∧ plan.planStatus = "closed"))
      (.relay ⟨"plan_not_open_for_new_entitlements", "Plan does not accept new entitlements", 409⟩)
    requireSubscriptionScope command.scopeRef
    let period ← createPeriod env plan command
    requireInterval env period
    return period

def newSubscription (command : CreatePlanSubscriptionCommand) (period : Period)
    (id source : String) (priority : Int) (at' : String) : PlanSubscription where
  toPeriod := period
  id := id
  planId := command.planId
  source := source
  scopeRef := command.scopeRef
  purchasedByUserId := command.purchasedByUserId
  fundingAccountId := command.fundingAccountId
  originCardId := command.originCardId
  priority := priority
  subscriptionLifecycle := .active
  createdAt := at'
  updatedAt := at'

/-- A card is the origin of one subscription at most. -/
def acceptsOriginCard (subscriptions : Table PlanSubscription) (row : PlanSubscription) : Bool :=
  row.originCardId.all fun card => subscriptions.rows.all fun other =>
    other.originCardId ≠ some card

def insertSubscription (row : PlanSubscription) : EntitlementTxn Unit :=
  write fun subscriptions =>
    if acceptsOriginCard subscriptions row then subscriptions.insert? row else none

def givenOrCreatedId : Option String → EntitlementTxn String
  | some id => pure id
  | none => createId "plan_sub"

def createSubscriptionInTransaction (command : CreatePlanSubscriptionCommand) :
    EntitlementTxn PlanSubscription := do
  let period ← check (prepareSubscription env command)
  read fun subscriptions =>
    assertNoSubscriptionOverlap subscriptions command.planId command.scopeRef period none
  let at' ← check (nowIso env)
  let id ← givenOrCreatedId command.id
  let source ← check (requiredText command.source "source" 100)
  let priority ← check (boundedInteger (command.priority.getD 100) "priority")
  let row := newSubscription command period id source priority at'
  insertSubscription row
  return row

/-- One subscription after another, each from where the one before it ends. -/
def createUnitsFrom (plan : Plan) (command : CreatePlanSubscriptionCommand) :
    Nat → String → EntitlementTxn (List PlanSubscription)
  | 0, _ => pure []
  | units + 1, start => do
    let last ← check (addSeconds env start plan.durationSeconds)
    let row ← createSubscriptionInTransaction env
      { command with effectiveStart := some start, effectiveEnd := some (some last) }
    let rows ← createUnitsFrom plan command units last
    return row :: rows

/-- The Plan and the first bound of a series of subscriptions. -/
def prepareUnits (command : CreatePlanSubscriptionCommand) (units : Int) :
    Except EntitlementError (Plan × String) := do
  rejectIf (¬IsSafeInteger units ∨ units < 1 ∨ 1000 < units)
    (.relay ⟨"invalid_plan_units", "Plan subscription units must be a positive integer", 400⟩)
  match (env.findPlan command.planId).filter (0 < ·.durationSeconds) with
  | none => reject "invalid_plan_duration" "Plan duration must be greater than 0" 409
  | some plan =>
    match command.effectiveStart with
    | some start => return (plan, start)
    | none => return (plan, ← nowIso env)

def createSubscriptionUnits (command : CreatePlanSubscriptionCommand) (units : Int) :
    EntitlementTxn (List PlanSubscription) := do
  let (plan, start) ← check (prepareUnits env command units)
  createUnitsFrom env plan command units.toNat start

def subscriptionNotFound (subscriptionId : String) : EntitlementError :=
  .relay ⟨"plan_subscription_not_found", "Plan subscription " ++ subscriptionId ++
    " not found", 404⟩

def findSubscription (subscriptionId : String) : EntitlementTxn PlanSubscription :=
  read fun subscriptions =>
    match subscriptions.find? subscriptionId with
    | some row => .ok row
    | none => .error (subscriptionNotFound subscriptionId)

def putSubscription (row : PlanSubscription) : EntitlementTxn Unit :=
  write fun subscriptions => some (subscriptions.put row)

/-- The row of a subscription that is canceled at `effectiveEnd`. -/
def canceledSubscription (row : PlanSubscription) (effectiveEnd at' : String) :
    Except EntitlementError PlanSubscription := do
  rejectIf (row.subscriptionLifecycle ≠ .active ∨
      ∃ last ∈ row.effectiveEnd, ¬codeUnitsBefore effectiveEnd last)
    (.relay ⟨"plan_subscription_not_cancelable",
      "Only current or future active Plan subscriptions can be canceled", 409⟩)
  let nextEnd := match truthy row.effectiveEnd with
    | some last => if codeUnitsBefore last effectiveEnd then last else effectiveEnd
    | none => effectiveEnd
  return { row with subscriptionLifecycle := .canceled, effectiveEnd := some nextEnd,
                    updatedAt := at' }

def cancelSubscription (subscriptionId : String) (effectiveEnd : Option String) :
    EntitlementTxn PlanSubscription := do
  let row ← findSubscription subscriptionId
  if row.subscriptionLifecycle = .canceled then return row
  else
    let at' ← check (nowIso env)
    let canceled ← check (canceledSubscription row (effectiveEnd.getD at') at')
    putSubscription canceled
    return canceled

/-- Fields that are missing keep their value. -/
structure ReviseSubscriptionCompatibilityCommand where
  planId : Option String := none
  source : Option String := none
  scopeRef : Option String := none
  purchasedByUserId : Option (Option String) := none
  fundingAccountId : Option (Option String) := none
  priority : Option Int := none
  effectiveStart : Option String := none
  effectiveEnd : Option (Option String) := none
  subscriptionLifecycle : Option SubscriptionLifecycle := none

/-- Whether a given field differs from the stored one. -/
def changes {α : Type} [DecidableEq α] (given : Option α) (stored : α) : Bool :=
  given.any (· ≠ stored)

def changesEntitlement (command : ReviseSubscriptionCompatibilityCommand)
    (existing : PlanSubscription) : Bool :=
  changes command.planId existing.planId || changes command.scopeRef existing.scopeRef ||
    changes command.effectiveStart existing.effectiveStart ||
    changes command.effectiveEnd existing.effectiveEnd ||
    changes command.subscriptionLifecycle existing.subscriptionLifecycle

/-- The row as it will be written. -/
def revisedSubscription (command : ReviseSubscriptionCompatibilityCommand)
    (existing : PlanSubscription) (at' : String) : PlanSubscription where
  effectiveStart := command.effectiveStart.getD existing.effectiveStart
  effectiveEnd := command.effectiveEnd.getD existing.effectiveEnd
  id := existing.id
  planId := command.planId.getD existing.planId
  source := command.source.getD existing.source
  scopeRef := command.scopeRef.getD existing.scopeRef
  purchasedByUserId := command.purchasedByUserId.getD existing.purchasedByUserId
  fundingAccountId := command.fundingAccountId.getD existing.fundingAccountId
  originCardId := existing.originCardId
  priority := command.priority.getD existing.priority
  subscriptionLifecycle := command.subscriptionLifecycle.getD existing.subscriptionLifecycle
  createdAt := existing.createdAt
  updatedAt := at'

def assertRevision (command : ReviseSubscriptionCompatibilityCommand)
    (existing revised : PlanSubscription) : Except EntitlementError Unit := do
  rejectIf (truthy existing.originCardId ≠ none ∧ changes command.planId existing.planId)
    (.relay ⟨"origin_card_subscription_immutable",
      "Card-origin Subscription Plan cannot be changed",
      409⟩)
  requireSubscriptionScope revised.scopeRef
  match env.findPlan revised.planId with
  | none => .error (planNotFound revised.planId)
  | some plan =>
    rejectIf (changesEntitlement command existing ∧ plan.planStatus ≠ "enabled")
      (.relay ⟨"plan_not_open_for_entitlement_changes",
        "Closed or disabled Plan entitlements cannot be extended or reassigned", 409⟩)
    requireInterval env revised.toPeriod

def reviseSubscriptionCompatibility (subscriptionId : String)
    (command : ReviseSubscriptionCompatibilityCommand) : EntitlementTxn PlanSubscription := do
  let existing ← findSubscription subscriptionId
  let at' ← check (nowIso env)
  let revised := revisedSubscription command existing at'
  check (assertRevision env command existing revised)
  read fun subscriptions =>
    if revised.subscriptionLifecycle = .active then
      assertNoSubscriptionOverlap subscriptions revised.planId revised.scopeRef revised.toPeriod
        (some subscriptionId)
    else .ok ()
  putSubscription revised
  return revised

/-- A row that is not there is not deleted. -/
def deleteSubscriptionCompatibility (subscriptionId : String) : EntitlementTxn Bool := do
  let existing ← read fun subscriptions => .ok (subscriptions.find? subscriptionId)
  match existing with
  | none => return false
  | some row => do
    check (rejectIf (truthy row.originCardId ≠ none)
      (.relay ⟨"origin_card_subscription_immutable", "Card-origin Subscription cannot be deleted",
        409⟩))
    write fun subscriptions => some (subscriptions.erase subscriptionId)
    return true

/-! ### The system -/

inductive Command where
  | createSubscription (command : CreatePlanSubscriptionCommand)
  | createSubscriptionUnits (command : CreatePlanSubscriptionCommand) (units : Int)
  | cancelSubscription (subscriptionId : String) (effectiveEnd : Option String)
  | reviseSubscriptionCompatibility (subscriptionId : String)
      (command : ReviseSubscriptionCompatibilityCommand)
  | deleteSubscriptionCompatibility (subscriptionId : String)

/-- The subscriptions a command answers with, or whether it deleted one. -/
inductive Answer where
  | subscriptions (rows : List PlanSubscription)
  | deleted (deleted : Bool)
deriving DecidableEq

def runCommand : Command → EntitlementTxn Answer
  | .createSubscription command => do
    let row ← createSubscriptionInTransaction env command
    return .subscriptions [row]
  | .createSubscriptionUnits command units => do
    let rows ← createSubscriptionUnits env command units
    return .subscriptions rows
  | .cancelSubscription subscriptionId effectiveEnd => do
    let row ← cancelSubscription env subscriptionId effectiveEnd
    return .subscriptions [row]
  | .reviseSubscriptionCompatibility subscriptionId command => do
    let row ← reviseSubscriptionCompatibility env subscriptionId command
    return .subscriptions [row]
  | .deleteSubscriptionCompatibility subscriptionId => do
    let deleted ← deleteSubscriptionCompatibility subscriptionId
    return .deleted deleted

/-- A command, what it runs in, and after how many writes the connection is lost, if it is.  The
rows that refer to a deleted subscription can only stop the commit, as a lost connection does. -/
structure Input where
  plans : List Plan
  now : Timestamp
  freshId : Nat → String
  writesLeft : Option Nat
  command : Command

def Input.environment (input : Input) (parseOther : String → Option Timestamp) : Environment :=
  ⟨input.plans, input.now, parseOther⟩

def step (parseOther : String → Option Timestamp) (input : Input)
    (subscriptions : Table PlanSubscription) :
    Except (Failure EntitlementError) Answer × Table PlanSubscription :=
  commit (runCommand (input.environment parseOther) input.command)
    ⟨subscriptions, input.freshId, 0, input.writesLeft⟩

end Frely.Entitlement
