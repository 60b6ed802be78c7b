import Frely.Application.Equiv.Budgets

/-!
# Balances and holds

`balance_covers_holds`: whatever runs, the open reservations of an account hold at most its balance
and what charges were above their holds.  Two charges have no hold to be within: the one of a
claimless attempt, and the one of a protected attempt whose reservation was emptied when it came to
wait for its final usage with a stopped exposure.
-/

namespace Frely.Application

open Frely.Billing Frely.Postgres Frely.RequestExecution

variable {db db' : Database} {settings : Settings} {input : Input} {accountId : String}
  {initial creditAccounts : Table CreditAccount} {configuration : Configuration}
  {requestLogs : Table RequestLog} {inputs : List Input}

/-- What a reservation holds on an account. -/
def holdPart (accountId : String) (reservation : UsageReservation) : Int :=
  if reservation.creditAccountId = accountId ∧ reservation.status.isOpen then
    reservation.heldUnits
  else 0

/-- What the reservation of an attempt holds. -/
def heldFor (db : Database) (providerAttemptId : String) : Int :=
  ((db.usageReservations.find? providerAttemptId).map (·.heldUnits)).getD 0

/-- By how much what a step charges an account is above what was held for it. -/
def shortfall (accountId : String) (db db' : Database) : Int :=
  Table.excess db.creditLedgerEvents db'.creditLedgerEvents fun event =>
    if event.accountId = accountId then -event.amountUnits - heldFor db event.providerAttemptId
    else 0

/-- What is held on an account without what its ledger adds to the balance. -/
def uncovered (accountId : String) (db : Database) : Int :=
  heldUnits db.usageReservations accountId - ledgerSum db.creditLedgerEvents accountId

/-- Marking a reservation for reconciliation frees what it holds, or keeps it. -/
theorem heldUnits_reconciling (hdb : Coherent initial db) {id : String}
    {reservation : UsageReservation} (hfind : db.usageReservations.find? id = some reservation)
    (hopen : reservation.status.isOpen) (costExposure : ReconciledCostExposure) (now : Timestamp) :
    heldUnits (reconcilingReservations id costExposure now db.usageReservations) accountId ≤
      heldUnits db.usageReservations accountId := by
  have hheld : 0 ≤ reservation.heldUnits :=
    (hdb.occupations.held reservation (Table.mem_of_find? hfind)).1
  have hsum : heldUnits (reconcilingReservations id costExposure now db.usageReservations)
      accountId = heldUnits db.usageReservations accountId - holdPart accountId reservation +
        holdPart accountId (reconcilingReservation costExposure now reservation) :=
    Table.sumOf_modify hfind (holdPart accountId)
  have hle : holdPart accountId (reconcilingReservation costExposure now reservation) ≤
      holdPart accountId reservation := by
    unfold holdPart
    by_cases haccount : reservation.creditAccountId = accountId
    · rw [if_pos ⟨haccount, rfl⟩, if_pos ⟨haccount, hopen⟩]
      cases costExposure with
      | stopped => exact hheld
      | accruing => exact le_refl _
    · rw [if_neg fun h => haccount h.1, if_neg fun h => haccount h.1]
  omega

/-- The reservation of a settled attempt holds nothing any more. -/
theorem heldUnits_ended {settlement : SettleInvocationBillingInput}
    {fact : ProviderInvocationUsageFact} (h : Settled db settlement fact db') :
    heldUnits db'.usageReservations accountId = heldUnits db.usageReservations accountId -
      ((db.usageReservations.find? fact.providerAttemptId).map (holdPart accountId)).getD 0 := by
  rw [h.reservations, h.attempt]
  refine Table.sumOf_modify_zero fun reservation => ?_
  split_ifs <;> rfl

/-- A settlement leaves an account short by what it charges above the hold. -/
theorem uncovered_settled {db₁ : Database} (hdb : Coherent initial db)
    {settlement : SettleInvocationBillingInput} {fact : ProviderInvocationUsageFact}
    (h : Settled db settlement fact db₁)
    (hreservations : db'.usageReservations = db₁.usageReservations)
    (hledger : db'.creditLedgerEvents = db₁.creditLedgerEvents) :
    uncovered accountId db' ≤ uncovered accountId db + shortfall accountId db db' := by
  have hended := @heldUnits_ended db db₁ accountId settlement fact h
  have hnonneg : 0 ≤ shortfall accountId db db' := Table.excess_nonneg ..
  unfold uncovered
  rw [hreservations, hledger, hended]
  have hpart : 0 ≤ ((db.usageReservations.find? fact.providerAttemptId).map
      (holdPart accountId)).getD 0 := by
    cases hfind : db.usageReservations.find? fact.providerAttemptId with
    | none => exact le_refl _
    | some reservation =>
      have hheld := (hdb.occupations.held reservation (Table.mem_of_find? hfind)).1
      show 0 ≤ holdPart accountId reservation
      unfold holdPart
      split_ifs <;> omega
  have hcharge := h.charge
  generalize db₁.creditLedgerEvents = ledger at hcharge hledger ⊢
  generalize db₁.creditAccounts = accounts at hcharge
  cases hcharge with
  | nothing hposting hfree => omega
  | posted event hposting hpositive hamount hattempt hevent hreserved _ hinsert hunique account
      account' hfind hkey hbalance _ hset =>
    have hsum : ledgerSum ledger accountId =
        (if event.accountId = accountId then event.amountUnits else 0) +
          ledgerSum db.creditLedgerEvents accountId := Table.sumOf_insert hinsert _
    rw [← hledger] at hinsert
    have hterm : _ ≤ shortfall accountId db db' := Table.le_excess hinsert _
    rw [hsum]
    by_cases haccount : event.accountId = accountId
    · rw [if_pos haccount, heldFor, hattempt] at hterm
      have hheld : (db.usageReservations.find? fact.providerAttemptId).map
          (holdPart accountId) = (db.usageReservations.find? fact.providerAttemptId).map
            (·.heldUnits) := by
        refine Option.map_congr fun reservation hreservation => ?_
        have hsame := hreserved reservation hreservation
        exact if_pos ⟨hsame ▸ haccount, h.wasOpen reservation hreservation⟩
      rw [if_pos haccount, hheld]
      omega
    · rw [if_neg haccount]
      omega

/-- Every step leaves what is held within the balance of the start, or adds what it charges above
the hold. -/
theorem uncovered_step {account : CreditAccount} (hdb : Coherent initial db)
    (h : Transition input db db') (hstart : initial.find? accountId = some account) :
    uncovered accountId db' ≤
      max account.balanceSnapUnits (uncovered accountId db) + shortfall accountId db db' := by
  have hnonneg : 0 ≤ shortfall accountId db db' := Table.excess_nonneg ..
  cases h.spendingChange with
  | suspended hclaims hfacts hreservations hledger =>
    unfold uncovered
    rw [hledger]
    rcases hreservations with hsame | ⟨id, costExposure, now, reservation, hfind, hopen, hmarked⟩
    · rw [hsame]
      omega
    · have hfreed := @heldUnits_reconciling db accountId initial hdb id reservation hfind hopen
        costExposure now
      rw [hmarked]
      omega
  | admitted command admission claim hadmits hclaim hbegin hfacts hreservations hledger =>
    unfold uncovered
    rw [hledger]
    rcases hreservations with hsame | ⟨reservation, htruthy, hunits, hinsert⟩
    · rw [hsame]
      omega
    · have hsum : heldUnits db'.usageReservations accountId =
          holdPart accountId reservation + heldUnits db.usageReservations accountId :=
        Table.sumOf_insert hinsert _
      rw [hsum, holdPart]
      split_ifs with hheld
      · rw [hheld.1] at htruthy
        obtain ⟨found, hfound, hroom⟩ := hadmits.admissible.capacity accountId htruthy
        have hbalance := hdb.balanced accountId
        rw [hfound, hstart] at hbalance
        have hbalance : found.balanceSnapUnits = account.balanceSnapUnits +
          ledgerSum db.creditLedgerEvents accountId := Option.some.inj hbalance
        omega
      · omega
  | settled settlement fact db₁ hsettled hclaims hfact hreservations hledger =>
    have hcharged := @uncovered_settled db db' accountId initial db₁ hdb settlement fact hsettled
      hreservations hledger
    omega

/-- **Balances cover holds.** Of an account that starts with a balance, the open reservations hold
at most the balance and what charges were above their holds. -/
theorem balance_covers_holds {account : CreditAccount}
    (hstart : creditAccounts.find? accountId = some account)
    (hnonneg : 0 ≤ account.balanceSnapUnits) :
    let last := reached settings configuration creditAccounts requestLogs inputs
    ∃ current, last.creditAccounts.find? accountId = some current ∧
      0 ≤ heldUnits last.usageReservations accountId ∧
      heldUnits last.usageReservations accountId ≤ current.balanceSnapUnits +
        totalCost settings configuration creditAccounts requestLogs inputs
          (shortfall accountId) := by
  intro last
  have hlast : Coherent creditAccounts last := reached_coherent _ _ _ _ _
  have hbounded := @Machine.bounded_final Input (Result Answer) Database (step settings)
    (Coherent creditAccounts) (fun _ => True) (uncovered accountId)
    (fun taken => shortfall accountId taken.before taken.after) account.balanceSnapUnits
    (fun _ => Table.excess_nonneg ..) (fun _ _ hdb _ => step_coherent hdb)
    (fun input db hdb _ => uncovered_step hdb (hdb.transition settings input) hstart)
    (initialDatabase configuration creditAccounts requestLogs) (initialDatabase_coherent _ _ _)
    inputs fun _ _ => trivial
  have hnone : uncovered accountId (initialDatabase configuration creditAccounts requestLogs) = 0 :=
    rfl
  have hbalance := hlast.balanced accountId
  rw [hstart] at hbalance
  obtain ⟨current, hcurrent, hunits⟩ := Option.map_eq_some_iff.mp hbalance
  refine ⟨current, hcurrent, ?_, ?_⟩
  · refine Table.sumOf_nonneg fun reservation hmem => ?_
    have hheld := (hlast.occupations.held reservation hmem).1
    split_ifs <;> omega
  · rw [hnone, max_eq_left hnonneg] at hbounded
    have hheld : heldUnits last.usageReservations accountId -
      ledgerSum last.creditLedgerEvents accountId ≤ account.balanceSnapUnits +
        totalCost settings configuration creditAccounts requestLogs inputs
          (shortfall accountId) := hbounded
    have hunits : current.balanceSnapUnits =
      account.balanceSnapUnits + ledgerSum last.creditLedgerEvents accountId := hunits
    omega

/-- The whole balance is held. -/
theorem balance_covers_holds_admitted :
    let accounts := Table.empty.put (plainAccount 100)
    let logs := Table.empty.put (plainLog "request")
    let last := reached plainSettings (plainConfiguration "paygo") accounts logs admittedInputs
    heldUnits last.usageReservations "account" = 100 ∧
      ∃ current, last.creditAccounts.find? "account" = some current ∧
        0 ≤ heldUnits last.usageReservations "account" ∧
        heldUnits last.usageReservations "account" ≤ current.balanceSnapUnits +
          totalCost plainSettings (plainConfiguration "paygo") accounts logs admittedInputs
            (shortfall "account") :=
  ⟨by decide, @balance_covers_holds plainSettings _ _ _ _ _ (plainAccount 100) rfl (by decide)⟩

end Frely.Application
