import Frely.Billing.Settlement

/-!
# Tranches of prepaid revenue

The amount of a prepaid subscription is split over the settlement windows that its period touches,
in proportion to the time in each; the last one gets what is left.  Points in time are the
milliseconds that `Date.parse` reads.
-/

namespace Frely.Billing

/-- The period of a subscription. -/
structure SubscriptionPeriod where
  effectiveStart : Timestamp
  effectiveEnd : Option Timestamp
deriving DecidableEq

structure SettlementTranche where
  windowStart : Timestamp
  windowEnd : Timestamp
  amountUnits : Int
deriving DecidableEq

/-- How the split can fail: with an error of the relay, with the `RangeError` of a date that has no
text, or on its own check. -/
inductive TrancheError where
  | relay (error : RelayError)
  | invalidDate
  | allocationInvalid
deriving DecidableEq

/-- `new Date(ms).toISOString()`: a date is at most a hundred million days from 1970. -/
def toISOString (ms : Timestamp) : Except TrancheError Timestamp :=
  if -8640000000000000 ≤ ms ∧ ms ≤ 8640000000000000 then .ok ms else .error .invalidDate

/-- Thirty days. -/
def settlementWindowMs : Int := 2592000000

def invalidSettlementWindow : RelayError :=
  ⟨"invalid_seller_settlement_window",
    "Prepaid Seller settlement requires a finite positive Subscription period", 500⟩

/-- The loop of `prepaidTranches` from a window on: the tranches, and what is allocated then. -/
def tranchesFrom (endMs durationMs amountUnits windowStartMs allocated : Int) :
    Except TrancheError (List SettlementTranche × Int) :=
  if windowStartMs < endMs then do
    let windowEndMs := windowStartMs + settlementWindowMs
    let overlapMs := min endMs windowEndMs - windowStartMs
    let tranche := if endMs ≤ windowEndMs then amountUnits - allocated
      else (amountUnits * overlapMs).tdiv durationMs
    let windowStart ← toISOString windowStartMs
    let windowEnd ← toISOString windowEndMs
    let (rest, total) ←
      tranchesFrom endMs durationMs amountUnits windowEndMs (allocated + tranche)
    return (⟨windowStart, windowEnd, tranche⟩ :: rest, total)
  else return ([], allocated)
termination_by (endMs - windowStartMs).toNat
decreasing_by
  simp only [settlementWindowMs]
  omega

def prepaidTranches (subscription : SubscriptionPeriod) (amountUnits : Int) :
    Except TrancheError (List SettlementTranche) :=
  match subscription.effectiveEnd with
  | none => .error (.relay invalidSettlementWindow)
  | some endMs =>
    let startMs := subscription.effectiveStart
    if endMs ≤ startMs ∨ amountUnits ≤ 0 then .error (.relay invalidSettlementWindow)
    else do
      let (result, allocated) ← tranchesFrom endMs (endMs - startMs) amountUnits startMs 0
      if allocated ≠ amountUnits then throw .allocationInvalid
      return result

end Frely.Billing
