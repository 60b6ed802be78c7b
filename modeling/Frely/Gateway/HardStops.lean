import Frely.Billing.BudgetPolicies
import Frely.Lib.Double

/-!
# Governance hard stops

Before the gateway dispatches a request it compares the usage of every scope of the principal with
the governance budgets assigned to that scope.  The usage of all windows is read with one query
over the billing history, to which the windows go as one `jsonb` document.
-/

namespace Frely.Gateway

open Frely.Billing Frely.Postgres Checked

/-! ### Queries -/

structure GovernanceBudgetPolicy where
  id : String
  metric : BudgetMetric
  limitValue : ℚ
  windowType : BudgetWindowType
  windowSeconds : Option Int
  status : String

/-- The part of a policy that says what counts, and since when. -/
def GovernanceBudgetPolicy.terms (policy : GovernanceBudgetPolicy) : BudgetTerms where
  metric := policy.metric
  limitValue := policy.limitValue
  windowType := policy.windowType
  windowSeconds := policy.windowSeconds

/-- From when to when a direct budget counts. -/
def directBudgetWindow (windowType : BudgetWindowType) (windowSeconds : Option Int)
    (createdAt now : Timestamp) : Timestamp × Timestamp :=
  if windowType = .rolling then (now - windowSeconds.getD 0 * 1000, now)
  else (createdAt, now)

end Frely.Gateway
