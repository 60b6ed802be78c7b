import Frely.Billing.Admission
import Frely.Core.Dates
import Frely.Core.IsoTime

/-!
# Windows of Plan budgets as they are shown

`plan-budget-limits.ts`: the window that the usage of a Plan limit is shown for.  A time without a
date has no text: the source throws a `RangeError` there, `none` here.
-/

namespace Frely.Application

open Frely.Postgres

/-- A window as `plan_budget_limits_window_check` and an integer column let it be stored. -/
structure StoredWindow where
  windowType : BudgetWindowType
  windowSeconds : Option Int
  checked : match windowType with
    | .fixed => ∃ seconds ∈ windowSeconds, 0 < seconds ∧ seconds ≤ 2147483647
    | .cumulative => windowSeconds = none
    | .rolling => False

structure PlanBudgetWindow where
  startAt : Timestamp
  endAt : Timestamp
  periodEnd : Timestamp
  nextResetAt : Option Timestamp
deriving DecidableEq

def IsDate (time : Timestamp) : Prop := -Date.maximumTime ≤ time ∧ time ≤ Date.maximumTime

instance (time : Timestamp) : Decidable (IsDate time) := inferInstanceAs (Decidable (_ ∧ _))

/-- `new Date(time).toISOString()`. -/
def dated (time : Timestamp) : Option Timestamp := if IsDate time then some time else none

def planBudgetWindow (windowType : BudgetWindowType) (windowSeconds : Option Int)
    (effectiveStart : Timestamp) (effectiveEnd : Option Timestamp) (at' : Timestamp) :
    Option PlanBudgetWindow :=
  let endMs := min at' (effectiveEnd.getD at')
  if windowType = .fixed then
    let windowMs := windowSeconds.getD 0 * 1000
    let isCurrent := effectiveEnd.all (at' < ·)
    let bucketReference := if isCurrent then endMs else max effectiveStart (endMs - 1)
    -- a division by zero is not a date
    if windowMs = 0 then none
    else do
      let periodIndex := max 0 ((bucketReference - effectiveStart).fdiv windowMs)
      let start ← dated (effectiveStart + periodIndex * windowMs)
      let last ← dated endMs
      let reset ← dated (effectiveStart + periodIndex * windowMs + windowMs)
      return ⟨start, last, reset, if isCurrent then some reset else none⟩
  else do
    let last ← dated endMs
    return ⟨effectiveStart, last, last, none⟩

end Frely.Application
