import Frely.Entitlement.Subscriptions
import Frely.Lib.Json
import Frely.Lib.StableSort

/-!
# Definitions of Plans

The revision of a Plan and the checks on its definition.  Budget limits reach it as objects of the
host language, which may have more members than the five that are checked: a limit that was read
from the database has its row's too.  Numbers are a parameter, with their texts and their signs.
-/

namespace Frely.Entitlement

open Checked StableSort

/-- The numbers of budget limits and prices. -/
structure LimitNumbers (ν : Type) where
  format : Json.NumberFormat ν
  sign : ν → Ordering
  isSafeInteger : ν → Bool

/-- The members of an object. -/
abbrev Members (ν : Type) := List (String × Json ν)

/-! ### Budget limits -/

def isText {ν : Type} (value : Option (Json ν)) (text : String) : Bool :=
  match value with
  | some (.string other) => other = text
  | _ => false

def isNumber {ν : Type} (value : Option (Json ν)) (test : ν → Bool) : Bool :=
  match value with
  | some (.number number) => test number
  | _ => false

def isNull {ν : Type} (value : Option (Json ν)) : Bool :=
  match value with
  | some .null => true
  | _ => false

def invalidPlanBudgetLimit (message : String) : EntitlementError :=
  .relay ⟨"invalid_plan_budget_limit", message, 400⟩

section Limits

variable {ν : Type} (numbers : LimitNumbers ν)

def LimitNumbers.isPositive (number : ν) : Bool := numbers.sign number = .gt

/-- The checks of `normalizeBudgetLimits` on one limit. -/
def checkBudgetLimit (value : Members ν) : Except EntitlementError Unit := do
  let limitScope := Json.member? value "limitScope"
  let metric := Json.member? value "metric"
  let limitValue := Json.member? value "limitValue"
  let windowType := Json.member? value "windowType"
  let windowSeconds := Json.member? value "windowSeconds"
  rejectIf (¬(isText limitScope "subscription" ∨ isText limitScope "user"))
    (invalidPlanBudgetLimit "Plan budget limit scope is invalid")
  rejectIf (¬(isText metric "tokens" ∨ isText metric "amount"))
    (invalidPlanBudgetLimit "Plan budget metric is invalid")
  rejectIf (¬isNumber limitValue numbers.isPositive ∨
      isText metric "tokens" ∧ ¬isNumber limitValue numbers.isSafeInteger)
    (invalidPlanBudgetLimit "Plan budget value is invalid")
  rejectIf (¬(isText windowType "fixed" ∨ isText windowType "cumulative"))
    (invalidPlanBudgetLimit "Plan budget window is invalid")
  rejectIf (isText windowType "fixed" ∧ ¬(isNumber windowSeconds numbers.isSafeInteger ∧
      isNumber windowSeconds numbers.isPositive))
    (invalidPlanBudgetLimit "Fixed Plan budget requires positive windowSeconds")
  rejectIf (isText windowType "cumulative" ∧ ¬isNull windowSeconds)
    (invalidPlanBudgetLimit "Cumulative Plan budget cannot define windowSeconds")

/-- `{ ...value, windowSeconds }`. -/
def normalizedLimit (value : Members ν) : Members ν :=
  Json.setMember value "windowSeconds"
    (if isText (Json.member? value "windowType") "cumulative" then .null
    else (Json.member? value "windowSeconds").getD .null)

/-- What says whether two limits are the same. -/
def limitFields (value : Members ν) : List (Json ν) :=
  ["limitScope", "metric", "limitValue", "windowType", "windowSeconds"].map fun key =>
    (Json.member? value key).getD .null

def limitKey (value : Members ν) : List Char :=
  Json.stringify numbers.format (.array (limitFields value))

/-- `Map.prototype.set`: the entry keeps its place. -/
def mapSet {κ α : Type} [DecidableEq κ] : List (κ × α) → κ → α → List (κ × α)
  | [], key, value => [(key, value)]
  | entry :: rest, key, value =>
    if entry.1 = key then (key, value) :: rest else entry :: mapSet rest key value

/-- The loop of `normalizeBudgetLimits` after the limits in `unique`. -/
def uniqueLimits (unique : List (List Char × Members ν)) :
    List (Members ν) → Except EntitlementError (List (List Char × Members ν))
  | [] => pure unique
  | value :: rest => do
    checkBudgetLimit numbers value
    uniqueLimits (mapSet unique (limitKey numbers (normalizedLimit value)) (normalizedLimit value))
      rest

variable (localeCompare : String → String → Ordering)

def limitText (value : Members ν) : String :=
  String.ofList (Json.stringify numbers.format (.object value))

def normalizeBudgetLimits (input : List (Members ν)) :
    Except EntitlementError (List (Members ν)) := do
  let unique ← uniqueLimits numbers [] input
  pure (sortBy (fun left right => localeCompare (limitText numbers left) (limitText numbers right))
    (unique.map (·.2)))

def limitsText (limits : List (Members ν)) : List Char :=
  Json.stringify numbers.format (.array (limits.map .object))

def sameBudgetLimits (left right : List (Members ν)) : Except EntitlementError Bool := do
  let left ← normalizeBudgetLimits numbers localeCompare left
  let right ← normalizeBudgetLimits numbers localeCompare right
  pure (limitsText numbers left = limitsText numbers right)

end Limits

/-- An object of the host language. -/
structure LimitObject (ν : Type) where
  members : Members ν
  distinct : (Json.object members).Distinct

/-! ### Rows -/

structure PlanBudgetLimitRow (ν : Type) where
  id : String
  planId : String
  limitScope : String
  metric : String
  limitValue : ν
  windowType : String
  windowSeconds : Option ν
  createdAt : String

/-- The check constraints of the table. -/
structure PlanBudgetLimitRow.MeetsConstraints {ν : Type} (numbers : LimitNumbers ν)
    (row : PlanBudgetLimitRow ν) : Prop where
  limitScope : row.limitScope = "subscription" ∨ row.limitScope = "user"
  metric : row.metric = "tokens" ∨ row.metric = "amount"
  positive : numbers.isPositive row.limitValue
  tokens : row.metric = "tokens" → numbers.isSafeInteger row.limitValue
  window : row.windowType = "fixed" ∧ (∃ seconds ∈ row.windowSeconds,
      numbers.isSafeInteger seconds ∧ numbers.isPositive seconds) ∨
    row.windowType = "cumulative" ∧ row.windowSeconds = none

def limitSnapshot {ν : Type} (row : PlanBudgetLimitRow ν) : Members ν :=
  [("id", .string row.id), ("planId", .string row.planId), ("limitScope", .string row.limitScope),
    ("metric", .string row.metric), ("limitValue", .number row.limitValue),
    ("windowType", .string row.windowType),
    ("windowSeconds", match row.windowSeconds with
      | none => .null
      | some seconds => .number seconds),
    ("createdAt", .string row.createdAt)]

structure FinancialTerms (ν : Type) where
  billingMode : String
  purchaseAmount : ν
  purchaseAmountUnits : Int

structure PlanRow (ν : Type) extends FinancialTerms ν where
  id : String
  ownerId : String
  scopeRef : String
  name : String
  version : Int
  description : Option String
  adminNote : Option String
  durationSeconds : Int
  planStatus : String
  catalogStatus : String
  createdAt : String
  updatedAt : String

structure PlanAccessPointRow where
  id : String
  planId : String
  accessPointId : String

structure AccessPointRow where
  id : String
  status : String
  exposedModel : String
  removedAt : Option String

/-- What a revision reads.  Rows are in the order of the queries that list them. -/
structure PlanTables (ν : Type) where
  plans : List (PlanRow ν)
  planAccessPoints : List PlanAccessPointRow
  planBudgetLimits : List (PlanBudgetLimitRow ν)
  userControls : List String
  accessPoints : List AccessPointRow

/-! ### The checks on a definition -/

/-- The definition of a Plan as `validatePlanDefinition` reads it. -/
structure PlanDefinition (ν : Type) where
  ownerId : String
  scopeRef : String
  name : String
  durationSeconds : Int
  status : String
  catalogStatus : String
  accessPointIds : List String
  budgetLimits : List (Members ν)
  financialTerms : FinancialTerms ν

structure NormalizedPlan where
  name : String
  durationSeconds : Int
  status : String
  catalogStatus : String
deriving DecidableEq

/-- `boundedInteger` with bounds of its own. -/
def boundedIntegerIn (value : Int) (name : String) (min max : Int) :
    Except EntitlementError Int := do
  rejectIf (¬IsSafeInteger value ∨ value < min ∨ max < value)
    (.relay ⟨"entitlement_integer_invalid", name ++ " is invalid", 400⟩)
  pure value

/-- The first model that a second enabled row exposes. -/
def repeatedModel (models : List String) : List AccessPointRow → Option String
  | [] => none
  | row :: rest =>
    if row.status ≠ "enabled" then repeatedModel models rest
    else if row.exposedModel ∈ models then some row.exposedModel
    else repeatedModel (row.exposedModel :: models) rest

def requireOnePerModel (rows : List AccessPointRow) : Except EntitlementError Unit :=
  match repeatedModel [] rows with
  | some model => reject "plan_model_access_point_not_unique"
      ("A Plan can include only one enabled AccessPoint for model " ++ model) 409
  | none => pure ()

section Definition

variable {ν : Type} (tables : PlanTables ν)

def validatePlanAccessPoints (accessPointIds : List String) : Except EntitlementError Unit := do
  let ids := accessPointIds.eraseDups
  let rows := tables.accessPoints.filter fun row => row.id ∈ ids ∧ row.removedAt = none
  rejectIf (rows.length ≠ ids.length)
    (.relay ⟨"access_point_not_found", "AccessPoint not found", 404⟩)
  requireOnePerModel rows

variable (numbers : LimitNumbers ν) (localeCompare : String → String → Ordering)

def validatePlanDefinition (command : PlanDefinition ν) :
    Except EntitlementError NormalizedPlan := do
  let terms := command.financialTerms
  rejectIf (¬isRuntimeScopeRef command.scopeRef)
    (.relay ⟨"invalid_scope_ref", "Invalid Plan scope_ref: " ++ command.scopeRef, 400⟩)
  let name ← requiredText command.name "name" 120
  let durationSeconds ← boundedIntegerIn command.durationSeconds "durationSeconds" 1 315360000
  rejectIf (command.status ∉ ["enabled", "closed", "disabled"])
    (.relay ⟨"invalid_plan_status", "Plan status is invalid", 400⟩)
  rejectIf (command.catalogStatus ∉ ["listed", "unlisted"])
    (.relay ⟨"invalid_plan_catalog_status", "Plan catalog status is invalid", 400⟩)
  rejectIf (terms.billingMode ≠ "prepaid" ∧ terms.billingMode ≠ "paygo")
    (.relay ⟨"invalid_plan_billing_mode", "Plan billing mode is invalid", 400⟩)
  rejectIf (numbers.sign terms.purchaseAmount = .lt ∨ terms.purchaseAmountUnits < 0)
    (.relay ⟨"invalid_plan_purchase_amount", "Plan purchase amount is invalid", 400⟩)
  rejectIf (command.catalogStatus = "listed" ∧ (command.status ≠ "enabled" ∨
      terms.billingMode ≠ "prepaid" ∨ terms.purchaseAmountUnits ≤ 0))
    (.relay ⟨"invalid_listed_plan",
      "Listed Plan must be enabled prepaid with a positive duration and purchase amount", 409⟩)
  rejectIf (command.ownerId ∉ tables.userControls)
    (.relay ⟨"plan_owner_not_found", "Plan owner not found", 404⟩)
  validatePlanAccessPoints tables command.accessPointIds
  let _ ← normalizeBudgetLimits numbers localeCompare command.budgetLimits
  pure ⟨name, durationSeconds, command.status, command.catalogStatus⟩

/-! ### Revision -/

/-- A revision command; an absent field keeps what is stored. -/
structure RevisePlanDefinitionCommand (ν : Type) where
  name : Option String
  ownerId : Option String
  scopeRef : Option String
  description : Option (Option String)
  adminNote : Option (Option String)
  durationSeconds : Option Int
  status : Option String
  catalogStatus : Option String
  accessPointIds : Option (List String)
  budgetLimits : Option (List (LimitObject ν))
  financialTerms : Option (FinancialTerms ν)
  hasHistoricalReferences : Bool
  hasOutstandingEntitlements : Bool

/-- `[...new Set(ids)].sort()`. -/
def sortedIds (ids : List String) : List String := sortBy compare ids.eraseDups

def sameAccessPoints (left right : List String) : Bool := sortedIds left = sortedIds right

/-- What a revision writes: the Plan, and the access points and limits that replace the stored
ones, if they are replaced. -/
structure PlanRevision (ν : Type) where
  plan : PlanRow ν
  accessPointIds : Option (List String)
  budgetLimits : Option (List (Members ν))

def planTemplateNotFound (planId : String) : EntitlementError :=
  .relay ⟨"plan_template_not_found", "Plan template " ++ planId ++ " not found", 404⟩

def soldPlanTermsImmutable : EntitlementError :=
  .relay ⟨"sold_plan_terms_immutable", "Sold Plan commercial terms require a new Plan version", 409⟩

def PlanTables.currentAccess (planId : String) : List String :=
  (tables.planAccessPoints.filter (·.planId = planId)).map (·.accessPointId)

def PlanTables.currentLimits (planId : String) : List (Members ν) :=
  (tables.planBudgetLimits.filter (·.planId = planId)).map limitSnapshot

/-- The definition that a command asks for. -/
def nextDefinition (existing : PlanRow ν) (command : RevisePlanDefinitionCommand ν) :
    PlanDefinition ν where
  ownerId := command.ownerId.getD existing.ownerId
  scopeRef := command.scopeRef.getD existing.scopeRef
  name := command.name.getD existing.name
  durationSeconds := command.durationSeconds.getD existing.durationSeconds
  status := command.status.getD existing.planStatus
  catalogStatus := command.catalogStatus.getD existing.catalogStatus
  accessPointIds := command.accessPointIds.getD (tables.currentAccess existing.id)
  budgetLimits := (command.budgetLimits.map (·.map (·.members))).getD
    (tables.currentLimits existing.id)
  financialTerms := command.financialTerms.getD existing.toFinancialTerms

/-- The commercial terms change; `||` stops before the limits are compared. -/
def commercialChanged (existing : PlanRow ν) (normalized : NormalizedPlan)
    (next : PlanDefinition ν) : Except EntitlementError Bool :=
  if normalized.durationSeconds ≠ existing.durationSeconds ∨
      next.financialTerms.billingMode ≠ existing.billingMode ∨
      next.financialTerms.purchaseAmountUnits ≠ existing.purchaseAmountUnits ∨
      ¬sameAccessPoints (tables.currentAccess existing.id) next.accessPointIds then pure true
  else do
    let same ← sameBudgetLimits numbers localeCompare (tables.currentLimits existing.id)
      next.budgetLimits
    pure !same

def revisedRow (existing : PlanRow ν) (command : RevisePlanDefinitionCommand ν)
    (normalized : NormalizedPlan) (next : PlanDefinition ν) (now : String) : PlanRow ν where
  toFinancialTerms := next.financialTerms
  id := existing.id
  ownerId := next.ownerId
  scopeRef := next.scopeRef
  name := normalized.name
  version := existing.version
  description := command.description.getD existing.description
  adminNote := command.adminNote.getD existing.adminNote
  durationSeconds := normalized.durationSeconds
  planStatus := normalized.status
  catalogStatus := if normalized.status = "enabled" then normalized.catalogStatus else "unlisted"
  createdAt := existing.createdAt
  updatedAt := now

/-- The checks on the status that follow those on the terms. -/
def checkPlanStatus (existing : PlanRow ν) (command : RevisePlanDefinitionCommand ν)
    (normalized : NormalizedPlan) : Except EntitlementError Unit := do
  rejectIf (existing.planStatus = "enabled" ∧ normalized.status = "disabled")
    (.relay ⟨"plan_must_be_closed_first", "Enabled Plan must be closed before it can be disabled",
      409⟩)
  rejectIf (existing.planStatus = "disabled" ∧ normalized.status = "closed")
    (.relay ⟨"invalid_plan_status_transition",
      "Disabled Plan must be enabled before it can be closed", 409⟩)
  rejectIf (existing.planStatus = "closed" ∧ normalized.status = "disabled" ∧
      command.hasOutstandingEntitlements)
    (.relay ⟨"sold_plan_in_use",
      "Plan with available Cards or active/future Subscriptions cannot be disabled", 409⟩)

def revisePlanDefinition (planId : String) (command : RevisePlanDefinitionCommand ν)
    (now : String) : Except EntitlementError (PlanRevision ν) :=
  match tables.plans.find? (·.id = planId) with
  | none => .error (planTemplateNotFound planId)
  | some existing => do
    let next := nextDefinition tables existing command
    let normalized ← validatePlanDefinition tables numbers localeCompare next
    let changed ← commercialChanged tables numbers localeCompare existing normalized next
    rejectIf (command.hasHistoricalReferences ∧ changed) soldPlanTermsImmutable
    checkPlanStatus existing command normalized
    pure ⟨revisedRow existing command normalized next now, command.accessPointIds.map (·.eraseDups),
      if command.budgetLimits.isSome then
        (normalizeBudgetLimits numbers localeCompare next.budgetLimits).toOption
      else none⟩

end Definition

end Frely.Entitlement
