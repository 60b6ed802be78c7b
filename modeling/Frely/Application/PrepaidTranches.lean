import Frely.Billing.PrepaidTranches
import Mathlib.Data.Nat.Log

/-!
# Tranches of prepaid revenue in numbers

The split of the application package works on numbers: amounts that are no safe integers are
refused, the quotient is taken of big integers and converted back, and the other results are
rounded as numbers are (`roundedNumber`).  Sums of milliseconds stay below `2 ^ 53` and are exact.
-/

namespace Frely.Application

open Billing

/-- The number next to an integer; of two that are equally near, the one with an even significand.
Integers of up to 53 bits are numbers. -/
def roundedNumber (value : Int) : Int :=
  let magnitude := value.natAbs
  if magnitude ≤ 2 ^ 53 then value
  else
    let unit := 2 ^ (Nat.log 2 magnitude - 52)
    let significand := magnitude / unit
    let rest := magnitude % unit
    let rounded :=
      if unit < 2 * rest ∨ unit = 2 * rest ∧ significand % 2 = 1 then significand + 1
      else significand
    value.sign * (rounded * unit : Nat)

theorem roundedNumber_of_safe {value : Int} (h : IsSafeInteger value) :
    roundedNumber value = value := by
  have hmagnitude : value.natAbs ≤ 2 ^ 53 := by
    obtain ⟨hlow, hhigh⟩ := h
    omega
  exact if_pos hmagnitude

theorem roundedNumber_nonpos {value : Int} (h : value ≤ 0) : roundedNumber value ≤ 0 := by
  unfold roundedNumber
  dsimp only
  split
  · exact h
  · exact Int.mul_nonpos_of_nonpos_of_nonneg (Int.sign_nonpos_iff.mpr h) (Int.natCast_nonneg _)

def invalidSettlementAmount : RelayError :=
  ⟨"invalid_seller_settlement_amount",
    "Prepaid Seller settlement amount must be a positive integer", 500⟩

/-- The loop of `prepaidSellerSettlementTranches` from a window on. -/
def sellerTranchesFrom (endMs durationMs amountUnits windowStartMs allocatedUnits : Int) :
    Except TrancheError (List SettlementTranche × Int) :=
  if windowStartMs < endMs then do
    let windowEndMs := windowStartMs + settlementWindowMs
    let overlapMs := min endMs windowEndMs - windowStartMs
    let trancheUnits := if endMs ≤ windowEndMs then roundedNumber (amountUnits - allocatedUnits)
      else roundedNumber ((amountUnits * overlapMs).tdiv durationMs)
    let windowStart ← toISOString windowStartMs
    let windowEnd ← toISOString windowEndMs
    let (rest, total) ← sellerTranchesFrom endMs durationMs amountUnits windowEndMs
      (roundedNumber (allocatedUnits + trancheUnits))
    return (⟨windowStart, windowEnd, trancheUnits⟩ :: rest, total)
  else return ([], allocatedUnits)
termination_by (endMs - windowStartMs).toNat
decreasing_by
  simp only [settlementWindowMs]
  omega

def prepaidSellerSettlementTranches (subscription : SubscriptionPeriod) (amountUnits : Int) :
    Except TrancheError (List SettlementTranche) :=
  match subscription.effectiveEnd with
  | none => .error (.relay invalidSettlementWindow)
  | some endMs =>
    let startMs := subscription.effectiveStart
    if endMs ≤ startMs then .error (.relay invalidSettlementWindow)
    else if ¬IsSafeInteger amountUnits ∨ amountUnits ≤ 0 then
      .error (.relay invalidSettlementAmount)
    else do
      let (tranches, allocatedUnits) ←
        sellerTranchesFrom endMs (endMs - startMs) amountUnits startMs 0
      if allocatedUnits ≠ amountUnits then throw .allocationInvalid
      return tranches

end Frely.Application
