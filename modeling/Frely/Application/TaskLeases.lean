import Frely.Application.SellerSettlement

/-!
# Task leases

The leases of tasks that one worker at a time may run, and the statements that a lease guards.  Each
call is one statement with the time of the database; a call that fails after its statement leaves
what the statement wrote.

`bigint` columns are integers here, and the time of the database is not before 1970.
-/

namespace Frely.TaskLeases

open Checked Frely.SellerSettlement Transaction

/-- A row of `friday_relay_task_leases`. -/
structure TaskLeaseRow where
  taskKey : String
  ownerId : String
  fencingToken : Int
  leaseUntilMs : Int
  updatedAtMs : Int
deriving DecidableEq

instance : Keyed TaskLeaseRow String := ⟨TaskLeaseRow.taskKey⟩

structure PostgresTaskLease where
  taskKey : String
  ownerId : String
  fencingToken : Int
  leaseUntilMs : Int
deriving DecidableEq

structure AcquirePostgresTaskLeaseInput where
  taskKey : String
  ownerId : String
  leaseDurationMs : Int

/-! ### Checks -/

def assertLeaseInput (input : AcquirePostgresTaskLeaseInput) : Except String Unit := do
  rejectIf (input.taskKey = "" ∨ input.ownerId = "") "postgres_task_lease_identity_required"
  rejectIf (¬IsSafeInteger input.leaseDurationMs ∨ input.leaseDurationMs < 1 ∨
    86400000 < input.leaseDurationMs) "postgres_task_lease_duration_invalid"

def safeInteger (value : Int) (errorCode : String) : Except String Int := do
  rejectIf (¬IsSafeInteger value) errorCode
  pure value

def mapLease (row : TaskLeaseRow) : Except String PostgresTaskLease := do
  let fencingToken ← safeInteger row.fencingToken "postgres_task_lease_fencing_token_invalid"
  let leaseUntilMs ← safeInteger row.leaseUntilMs "postgres_task_lease_until_invalid"
  pure { taskKey := row.taskKey, ownerId := row.ownerId, fencingToken, leaseUntilMs }

/-! ### Statements -/

/-- The row that `acquire` inserts or takes over. -/
def acquireRow (leases : Table TaskLeaseRow) (input : AcquirePostgresTaskLeaseInput)
    (nowMs : Int) : Option TaskLeaseRow :=
  match leases.find? input.taskKey with
  | none => some {
      taskKey := input.taskKey
      ownerId := input.ownerId
      fencingToken := 1
      leaseUntilMs := nowMs + input.leaseDurationMs
      updatedAtMs := nowMs }
  | some row =>
    if row.leaseUntilMs ≤ nowMs then
      some { row with
        ownerId := input.ownerId
        fencingToken := row.fencingToken + 1
        leaseUntilMs := nowMs + input.leaseDurationMs
        updatedAtMs := nowMs }
    else none

/-- The row of a lease, whether or not it has run out. -/
def findOwned (leases : Table TaskLeaseRow) (lease : PostgresTaskLease) : Option TaskLeaseRow :=
  (leases.find? lease.taskKey).filter fun row =>
    row.ownerId = lease.ownerId ∧ row.fencingToken = lease.fencingToken

/-- The row of a lease that has not run out. -/
def findHeld (leases : Table TaskLeaseRow) (lease : PostgresTaskLease) (nowMs : Int) :
    Option TaskLeaseRow :=
  (findOwned leases lease).filter fun row => nowMs < row.leaseUntilMs

def renewRow (leases : Table TaskLeaseRow) (lease : PostgresTaskLease) (leaseDurationMs : Int)
    (nowMs : Int) : Option TaskLeaseRow :=
  (findHeld leases lease nowMs).map fun row =>
    { row with leaseUntilMs := nowMs + leaseDurationMs, updatedAtMs := nowMs }

def releaseRow (leases : Table TaskLeaseRow) (lease : PostgresTaskLease) (nowMs : Int) :
    Option TaskLeaseRow :=
  (findOwned leases lease).map fun row =>
    { row with ownerId := "", leaseUntilMs := 0, updatedAtMs := nowMs }

/-! ### Calls -/

/-- What comes of a call: the row that `acquire` or `renew` wrote and what was made of it, a call
without a value, a guarded write, or an error before anything was written. -/
inductive LeaseOutput where
  | granted (row : TaskLeaseRow) (answer : Except String PostgresTaskLease)
  | done
  | wrote (answer : Except (Failure SettlementError) Unit)
  | failed (error : String)

def acquire (input : AcquirePostgresTaskLeaseInput) (nowMs : Int) (leases : Table TaskLeaseRow) :
    LeaseOutput × Table TaskLeaseRow :=
  match assertLeaseInput input with
  | .error error => (.failed error, leases)
  | .ok () =>
    match acquireRow leases input nowMs with
    | none => (.failed "postgres_task_lease_busy", leases)
    | some row => (.granted row (mapLease row), leases.put row)

def renew (lease : PostgresTaskLease) (leaseDurationMs nowMs : Int)
    (leases : Table TaskLeaseRow) : LeaseOutput × Table TaskLeaseRow :=
  match assertLeaseInput ⟨lease.taskKey, lease.ownerId, leaseDurationMs⟩ with
  | .error error => (.failed error, leases)
  | .ok () =>
    match renewRow leases lease leaseDurationMs nowMs with
    | none => (.failed "postgres_task_lease_lost", leases)
    | some row => (.granted row (mapLease row), leases.put row)

def assertHeld (lease : PostgresTaskLease) (nowMs : Int) (leases : Table TaskLeaseRow) :
    LeaseOutput :=
  match findHeld leases lease nowMs with
  | none => .failed "postgres_task_lease_lost"
  | some _ => .done

def release (lease : PostgresTaskLease) (nowMs : Int) (leases : Table TaskLeaseRow) :
    LeaseOutput × Table TaskLeaseRow :=
  match releaseRow leases lease nowMs with
  | none => (.failed "postgres_task_lease_lost", leases)
  | some row => (.done, leases.put row)

/-! ### Guarded writes -/

/-- The inserts and updates of the seller settlements that a lease guards. -/
inductive GuardedWrite where
  | insertEvent (input : SellerSettlementEventInput)
  | updateWindow (row : SellerSettlementWindow)
  | creditAccount (accountId : String) (amountUnits : Int) (ledgerEventId : String)
      (updatedAt : Timestamp)
  | insertLedgerEvent (event : CreditLedgerEvent)

def GuardedWrite.run (view : LeaseView) : GuardedWrite → SettlementTxn Unit
  | insertEvent input => do
    let _ ← insertSellerSettlementEvent input (some view)
    pure ()
  | updateWindow row => SellerSettlement.updateWindow row (some view)
  | creditAccount accountId amountUnits ledgerEventId updatedAt =>
    SellerSettlement.creditAccount accountId amountUnits ledgerEventId updatedAt (some view)
  | insertLedgerEvent event => insertSellerSettlementLedgerEvent event (some view)

/-! ### The machine -/

structure LeaseDatabase where
  leases : Table TaskLeaseRow
  settlements : SettlementDatabase

/-- The calls, and a guarded write with what the check after it sees of the lease. -/
inductive LeaseCommand where
  | acquire (input : AcquirePostgresTaskLeaseInput)
  | renew (lease : PostgresTaskLease) (leaseDurationMs : Int)
  | assertHeld (lease : PostgresTaskLease)
  | release (lease : PostgresTaskLease)
  | write (statement : GuardedWrite) (lease : PostgresTaskLease) (stillHeld : Bool)

structure LeaseInput where
  command : LeaseCommand
  nowMs : Nat
  freshId : Nat → String
  writesLeft : Option Nat

def leaseStep (input : LeaseInput) (db : LeaseDatabase) : LeaseOutput × LeaseDatabase :=
  let nowMs : Int := input.nowMs
  match input.command with
  | .acquire acquireInput =>
    let (output, leases) := acquire acquireInput nowMs db.leases
    (output, { db with leases })
  | .renew lease leaseDurationMs =>
    let (output, leases) := renew lease leaseDurationMs nowMs db.leases
    (output, { db with leases })
  | .assertHeld lease => (assertHeld lease nowMs db.leases, db)
  | .release lease =>
    let (output, leases) := release lease nowMs db.leases
    (output, { db with leases })
  | .write statement lease stillHeld =>
    let view : LeaseView := ⟨(findHeld db.leases lease nowMs).isSome, stillHeld⟩
    let (answer, settlements) :=
      commit (statement.run view) ⟨db.settlements, input.freshId, 0, input.writesLeft⟩
    (.wrote answer, { db with settlements })

/-- Before the first lease. -/
def LeaseDatabase.initial (settlements : SettlementDatabase) : LeaseDatabase :=
  ⟨Table.empty, settlements⟩

end Frely.TaskLeases
