import Frely.Application.SellerSettlement
import Frely.Billing.Admission

/-!
# Credit accounts and their ledger

`createCreditLedgerEvent` and `transferCredit` of the application's operations.  Each runs as one
transaction that locks its accounts, so that it runs as a whole here; a transfer runs the two posts
within its own.  What other constraints of the database accept is a parameter.
-/

namespace Frely.CreditLedger

open Checked Frely.Postgres Frely.SellerSettlement Transaction

structure CreditLedgerEntry where
  accountId : String
  eventType : String
  amountUnits : Int
  transferId : Option String := none
  relatedEventId : Option String := none
  planSubscriptionId : Option String := none
  billingEventId : Option String := none
  relatedTopupId : Option String := none
  cardId : Option String := none
  authorityPurchaseId : Option String := none
  fromAccountId : Option String := none
  toAccountId : Option String := none
  reason : Option String := none
  actorUserId : Option String := none

structure CreditLedgerEvent extends CreditLedgerEntry where
  id : String
  createdAt : Timestamp

structure CreditLedgerEventInput extends CreditLedgerEntry where
  id : Option String := none
  createdAt : Option Timestamp := none
  allowNegativeBalance : Bool := false

instance : Keyed CreditLedgerEvent String := ⟨CreditLedgerEvent.id⟩

structure LedgerDatabase where
  creditAccounts : Table CreditAccount
  usageReservations : Table UsageReservation
  creditLedgerEvents : Table CreditLedgerEvent
  /-- `transfer_out_enabled` of the policy of a scope, if it has one. -/
  transferOutEnabled : String → Option Bool

abbrev LedgerTxn := Txn LedgerDatabase SettlementError

def givenOrCreated (kind : String) : Option String → LedgerTxn String
  | some id => pure id
  | none => createId kind

def getCreditAccount (accountId message : String) : LedgerTxn CreditAccount :=
  read fun db => match db.creditAccounts.find? accountId with
    | some account => .ok account
    | none => reject "credit_account_not_found" message 404

/-- The units that are held on an account, read for a debit that must not reach them. -/
def readHeldUnits (input : CreditLedgerEventInput) : LedgerTxn Int :=
  read fun db =>
    if input.amountUnits < 0 ∧ ¬input.allowNegativeBalance then
      safePostgresInteger (Billing.heldUnits db.usageReservations input.accountId)
        "credit_held_units_invalid"
    else .ok 0

variable (accepts : LedgerDatabase → CreditLedgerEvent → Bool) (now : Timestamp)

def insertLedgerEvent (event : CreditLedgerEvent) : LedgerTxn Unit :=
  write fun db =>
    if accepts db event then
      (db.creditLedgerEvents.insert? event).map ({ db with creditLedgerEvents := · })
    else none

def createCreditLedgerEvent (input : CreditLedgerEventInput) : LedgerTxn CreditLedgerEvent := do
  let id ← givenOrCreated "ledger" input.id
  let row : CreditLedgerEvent :=
    { input.toCreditLedgerEntry with id, createdAt := input.createdAt.getD now }
  check (rejectIf (¬IsSafeInteger input.amountUnits ∨ input.amountUnits = 0) (.relay
    ⟨"invalid_credit_amount", "Credit ledger amount must be a non-zero safe integer", 400⟩))
  let account ← getCreditAccount input.accountId
    ("Credit account " ++ input.accountId ++ " not found")
  check (rejectIf (account.status ≠ "active")
    (.relay ⟨"credit_account_inactive", "Credit account must be active", 409⟩))
  let heldUnits ← readHeldUnits input
  check (rejectIf (¬input.allowNegativeBalance ∧ input.amountUnits < 0 ∧
      account.balanceSnapUnits - heldUnits + input.amountUnits < 0)
    (.relay ⟨"insufficient_credit_balance", "Credit balance is insufficient", 402⟩))
  insertLedgerEvent accepts row
  write fun db =>
    let creditAccounts := db.creditAccounts.modify input.accountId
      (addToBalance input.amountUnits id row.createdAt) fun _ => rfl
    some { db with creditAccounts }
  pure row

structure TransferCreditInput where
  fromAccountId : String
  toAccountId : String
  amountUnits : Int
  actorUserId : String
  reason : Option String
  transferId : Option String

/-- One of the two events of a transfer. -/
def TransferCreditInput.entry (input : TransferCreditInput)
    (transferId accountId eventType : String)
    (amountUnits : Int) (relatedEventId : Option String) : CreditLedgerEventInput where
  accountId
  eventType
  amountUnits
  transferId := some transferId
  relatedEventId
  fromAccountId := some input.fromAccountId
  toAccountId := some input.toAccountId
  reason := input.reason
  actorUserId := some input.actorUserId

def transferCredit (input : TransferCreditInput) :
    LedgerTxn (CreditLedgerEvent × CreditLedgerEvent) := do
  check (rejectIf (¬IsSafeInteger input.amountUnits ∨ input.amountUnits ≤ 0) (.relay
    ⟨"invalid_credit_amount", "Transfer amount units must be a positive safe integer", 400⟩))
  check (rejectIf (input.fromAccountId = input.toAccountId) (.relay
    ⟨"credit_transfer_same_account", "Credit transfer accounts must be different", 400⟩))
  let source ← getCreditAccount input.fromAccountId "Credit account not found"
  let target ← getCreditAccount input.toAccountId "Credit account not found"
  check (rejectIf (source.status ≠ "active" ∨ target.status ≠ "active")
    (.relay ⟨"credit_account_inactive", "Credit accounts must be active", 409⟩))
  read fun db => rejectIf (db.transferOutEnabled source.scopeRef = some false) (.relay
    ⟨"credit_transfer_out_disabled", "Credit transfer out is disabled for this scope", 403⟩)
  check (rejectIf (source.balanceSnapUnits < input.amountUnits)
    (.relay ⟨"insufficient_credit_balance", "Credit balance is insufficient", 402⟩))
  let transferId ← givenOrCreated "transfer" input.transferId
  let outEvent ← createCreditLedgerEvent accepts now
    (input.entry transferId input.fromAccountId "transfer_out" (-input.amountUnits) none)
  let inEvent ← createCreditLedgerEvent accepts now
    (input.entry transferId input.toAccountId "transfer_in" input.amountUnits (some outEvent.id))
  pure (outEvent, inEvent)

inductive LedgerCommand where
  | createCreditLedgerEvent (input : CreditLedgerEventInput)
  | transferCredit (input : TransferCreditInput)

structure LedgerInput where
  command : LedgerCommand
  now : Timestamp
  freshId : Nat → String
  writesLeft : Option Nat

def runLedgerCommand : LedgerCommand → LedgerTxn (List CreditLedgerEvent)
  | .createCreditLedgerEvent input => do
    let event ← createCreditLedgerEvent accepts now input
    pure [event]
  | .transferCredit input => do
    let events ← transferCredit accepts now input
    pure [events.1, events.2]

def ledgerStep (input : LedgerInput) (db : LedgerDatabase) :
    Except (Failure SettlementError) (List CreditLedgerEvent) × LedgerDatabase :=
  commit (runLedgerCommand accepts input.now input.command) ⟨db, input.freshId, 0, input.writesLeft⟩

end Frely.CreditLedger
