import Frely.Billing.Admission

/-!
# Budget policies

What a budget policy must look like before it is written, for API keys and for governance scopes
alike.
-/

namespace Frely.Billing

open Frely.Postgres Checked

/-- A number of the host language; `none` is one that is not finite. -/
abbrev Number := Option ℚ

/-- `Number.isInteger`. -/
def Number.isInteger (value : Number) : Bool := value.any (·.den = 1)

/-- `Number.isSafeInteger`. -/
def Number.isSafeInteger (value : Number) : Bool :=
  value.any fun number => number.den = 1 && decide (IsSafeInteger number.num)

/-- A policy as it is asked for. -/
structure BudgetPolicyRow where
  metric : String
  limitValue : Number
  windowType : String
  windowSeconds : Option Number

/-- What the columns of a row say, as the checks of the budgets read them. -/
structure BudgetTerms where
  metric : BudgetMetric
  limitValue : ℚ
  windowType : BudgetWindowType
  windowSeconds : Option Int

def budgetMetric (metric : String) : BudgetMetric :=
  if metric = "tokens" then .tokens else .amount

def budgetWindowType (windowType : String) : BudgetWindowType :=
  if windowType = "rolling" then .rolling else if windowType = "fixed" then .fixed
  else .cumulative

/-- The columns a row is stored in; the length of a window is an integer column. -/
def BudgetPolicyRow.terms (row : BudgetPolicyRow) : BudgetTerms where
  metric := budgetMetric row.metric
  limitValue := row.limitValue.getD 0
  windowType := budgetWindowType row.windowType
  windowSeconds := row.windowSeconds.map fun seconds => (seconds.getD 0).num

end Frely.Billing
