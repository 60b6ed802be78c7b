import Frely.Application.PrepaidTranches
import Frely.Postgres.SellerSettlement

/-!
# Seller settlements

The insert of a settlement event, the balance of a seller and the batch that releases due windows.
A batch is one transaction that locks the row of a window before it reads its events, so that it
runs as a whole here.  Its statements can be guarded by a lease, which may be lost or taken over
between any two of them: `LeaseView` is what a statement sees of it.
-/

namespace Frely.SellerSettlement

open Checked Frely.Application Frely.Postgres Transaction

/-- An error of the relay, or any other error with its text. -/
inductive SettlementError where
  | relay (error : RelayError)
  | error (message : String)
deriving DecidableEq

abbrev SettlementTxn := Txn SettlementDatabase SettlementError

def reject {α : Type} (code message : String) (status : Nat) : Except SettlementError α :=
  .error (.relay ⟨code, message, status⟩)

/-- A column that must not be null. -/
def notNull {α : Type} : Option α → SettlementTxn α
  | some value => pure value
  | none => fun _ => .error .violated

def safePostgresInteger (value : Int) (errorCode : String) : Except SettlementError Int := do
  rejectIf (¬IsSafeInteger value) (.error errorCode)
  pure value

/-! ### The lease -/

/-- Whether a statement sees the lease held and, when it does nothing, the check after it. -/
structure LeaseView where
  held : Bool
  stillHeld : Bool

/-- The condition of a guarded statement. -/
def guarded (lease : Option LeaseView) : Bool := lease.all (·.held)

def assertHeld : Option LeaseView → SettlementTxn Unit
  | none => pure ()
  | some view => check (rejectIf (view.stillHeld = false) (.error "postgres_task_lease_lost"))

/-! ### Inserting an event -/

structure SellerSettlementEventInput where
  planSubscriptionId : Option String
  authorityPurchaseId : Option String
  sellerScopeRef : String
  windowStart : Timestamp
  windowEnd : Timestamp
  releaseAt : Timestamp
  eventType : SellerSettlementEventType
  amountUnits : Int
  origin : EventOrigin
  createdAt : Timestamp

def typedSource (planSubscriptionId authorityPurchaseId : Option String) :
    Except SettlementError SettlementSource :=
  match planSubscriptionId, authorityPurchaseId with
  | some id, none => .ok (.planSubscription id)
  | none, some id => .ok (.authorityPurchase id)
  | _, _ => reject "seller_settlement_source_missing"
      "Seller settlement event requires exactly one typed source" 500

/-- The event, unless a unique index has it. -/
def insertReturning (event : SellerSettlementEvent) :
    SettlementTxn (Option SellerSettlementEvent) := do
  let taken ← read fun db => .ok (conflicts db.events event)
  write (insertOrIgnore event)
  pure (if taken then none else some event)

def insertGuarded (event : SellerSettlementEvent) (lease : Option LeaseView) :
    SettlementTxn (Option SellerSettlementEvent) :=
  if guarded lease then insertReturning event else pure none

/-- A statement without a row is followed by the check of the lease. -/
def withLeaseCheck (lease : Option LeaseView) :
    Option SellerSettlementEvent → SettlementTxn (Option SellerSettlementEvent)
  | some event => pure (some event)
  | none => do
    assertHeld lease
    pure none

def insertSellerSettlementEvent (input : SellerSettlementEventInput) (lease : Option LeaseView) :
    SettlementTxn (Option SellerSettlementEvent) := do
  check (if ¬IsSafeInteger input.amountUnits ∨ input.amountUnits ≤ 0 then
    reject "invalid_seller_settlement_amount"
      "Seller settlement amount must be a positive integer" 500 else .ok ())
  let source ← check (typedSource input.planSubscriptionId input.authorityPurchaseId)
  let event : SellerSettlementEvent := {
    window := ⟨source, input.sellerScopeRef, input.windowStart⟩
    windowEnd := input.windowEnd
    releaseAt := input.releaseAt
    eventType := input.eventType
    amountUnits := input.amountUnits
    origin := input.origin
    createdAt := input.createdAt }
  let row ← insertGuarded event lease
  withLeaseCheck lease row

/-! ### The balance of a seller -/

structure SellerSettlementBalance where
  frozenUnits : Int
  releasableUnits : Int
  releasedUnits : Int
deriving DecidableEq

/-- The rows of the query: one for each window and release time of the seller's events. -/
def balanceRows (events : List SellerSettlementEvent) : List (Timestamp × Int × Int) :=
  (events.map fun event => (event.window, event.releaseAt)).dedup.map fun group =>
    let grouped := events.filter fun event => (event.window, event.releaseAt) = group
    (group.2, netUnits grouped, releasedUnits grouped)

/-- The sums are of numbers, and rounded as these are. -/
def addBalanceRow (evaluatedAt : Timestamp) (balance : SellerSettlementBalance)
    (row : Timestamp × Int × Int) : Except SettlementError SellerSettlementBalance := do
  let netUnits ← safePostgresInteger row.2.1 "seller_settlement_net_units_invalid"
  let windowReleasedUnits ←
    safePostgresInteger row.2.2 "seller_settlement_released_units_invalid"
  let remaining := max 0 (roundedNumber (netUnits - windowReleasedUnits))
  pure {
    frozenUnits := if row.1 ≤ evaluatedAt then balance.frozenUnits
      else roundedNumber (balance.frozenUnits + remaining)
    releasableUnits := if row.1 ≤ evaluatedAt then
        roundedNumber (balance.releasableUnits + remaining)
      else balance.releasableUnits
    releasedUnits := roundedNumber (balance.releasedUnits + windowReleasedUnits) }

def sellerSettlementBalance (db : SettlementDatabase) (sellerScopeRef : String)
    (evaluatedAt : Timestamp) : Except SettlementError SellerSettlementBalance :=
  (balanceRows (db.events.filter (·.window.sellerScopeRef = sellerScopeRef))).foldlM
    (addBalanceRow evaluatedAt) ⟨0, 0, 0⟩

/-! ### Releasing due windows -/

/-- The statements of a batch that the lease guards. -/
inductive GuardedStatement where
  | defer
  | close
  | insertRelease
  | credit
  | insertLedgerEvent

/-- A batch, with what its statements see besides the settlements: the time of the database, the
lease, the attempts and claims, and the order of the texts of the keys. -/
structure ReleaseInput where
  requestedAt : Option Timestamp
  databaseTime : Timestamp
  now : Timestamp
  batchSize : Int
  lease : Option (WindowKey → GuardedStatement → LeaseView)
  attempts : WindowKey → List RequestProviderAttempt
  budgetClaims : WindowKey → List BudgetClaim
  compareKeys : WindowKey → WindowKey → Ordering

def ReleaseInput.effectiveAt (input : ReleaseInput) : Timestamp :=
  input.requestedAt.getD input.databaseTime

def ReleaseInput.leaseAt (input : ReleaseInput) (window : WindowKey)
    (statement : GuardedStatement) : Option LeaseView :=
  input.lease.map fun views => views window statement

structure ReleaseResult where
  selectedWindows : Nat
  deferredWindows : Nat
  releasedWindows : Nat
  releasedUnits : Int
  ledgerEventIds : List String
deriving DecidableEq

/-- What became of one window. -/
inductive WindowOutcome where
  | skipped
  | deferred
  | released (ledgerEventId : String) (amountUnits : Int)

def compareDue (compareKeys : WindowKey → WindowKey → Ordering)
    (left right : SellerSettlementWindow) : Ordering :=
  (compare left.nextAttemptAt right.nextAttemptAt).then
    ((compare left.releaseAt right.releaseAt).then
      (compareKeys left.windowKey right.windowKey))

/-- The windows of a batch. -/
def dueWindows (input : ReleaseInput) (db : SettlementDatabase) : List SellerSettlementWindow :=
  (StableSort.sortBy (compareDue input.compareKeys) (db.windows.rows.filter fun row =>
    row.status = .open ∧ row.releaseAt ≤ input.effectiveAt ∧
      row.nextAttemptAt ≤ input.effectiveAt)).take input.batchSize.toNat

/-- An attempt of the subscription that is not settled and may have cost something. -/
def isUnresolved (budgetClaims : List BudgetClaim) (planSubscriptionId : String)
    (windowStart windowEnd : Timestamp) (attempt : RequestProviderAttempt) : Bool :=
  (match attempt.material.terms with
    | .protectedV1 _ => budgetClaims.any fun claim =>
      claim.providerAttemptId = attempt.id ∧
        claim.references.planSubscriptionId = planSubscriptionId
    | .cpaBasicV1 terms => terms.planSubscriptionId = planSubscriptionId) &&
  decide (windowStart ≤ attempt.startedAt) && decide (attempt.startedAt < windowEnd) &&
  !attempt.usageSettled &&
  !(attempt.invocationContract = .cpaBasicV1 && attempt.costExposure = .notStarted &&
    attempt.finalUsageEvidence = .absent)

/-- A guarded change of a window's row. -/
def updateWindow (row : SellerSettlementWindow) (lease : Option LeaseView) : SettlementTxn Unit :=
  if guarded lease then write fun db => some { db with windows := setWindow db.windows row }
  else assertHeld lease

/-- A window is left to the batches from a minute later on. -/
def deferWindow (input : ReleaseInput) (row : SellerSettlementWindow) :
    SettlementTxn WindowOutcome := do
  let nextAttemptAt := input.effectiveAt + 60 * 1000
  updateWindow { row with nextAttemptAt, updatedAt := input.effectiveAt }
    (input.leaseAt row.windowKey .defer)
  pure .deferred

/-- A window without anything to release. -/
def closeWindow (input : ReleaseInput) (row : SellerSettlementWindow) :
    SettlementTxn WindowOutcome := do
  updateWindow { row with status := .nonPositive, updatedAt := input.effectiveAt }
    (input.leaseAt row.windowKey .close)
  pure .skipped

def findCreditAccountForScope (scopeRef : String) (db : SettlementDatabase) :
    Option CreditAccount :=
  db.creditAccounts.rows.find? fun account =>
    account.scopeRef = scopeRef ∧ account.status = "active"

/-- The account of a scope is unique, so that one that is not active keeps another from being
created. -/
def createCreditAccount (scopeRef : String) (now : Timestamp) : SettlementTxn CreditAccount := do
  let id ← createId "credit_account"
  let taken ← read fun db => .ok (db.creditAccounts.rows.any (·.scopeRef = scopeRef))
  check (if taken then reject "credit_account_inactive"
    "Seller settlement credit account is inactive" 409 else .ok ())
  let account : CreditAccount := ⟨id, scopeRef, "active", 0, none, none, now⟩
  write fun db => (db.creditAccounts.insert? account).map fun creditAccounts =>
    { db with creditAccounts }
  pure account

def getOrCreateActiveCreditAccount (scopeRef : String) (now : Timestamp) :
    SettlementTxn CreditAccount := do
  match ← read fun db => .ok (findCreditAccountForScope scopeRef db) with
  | some account => pure account
  | none => createCreditAccount scopeRef now

def addToBalance (amountUnits : Int) (ledgerEventId : String) (updatedAt : Timestamp)
    (account : CreditAccount) : CreditAccount :=
  { account with
    balanceSnapUnits := account.balanceSnapUnits + amountUnits
    balanceSnapLedgerEventId := some ledgerEventId
    balanceSnapUpdatedAt := some updatedAt
    updatedAt := updatedAt }

def creditAccount (accountId : String) (amountUnits : Int) (ledgerEventId : String)
    (updatedAt : Timestamp) (lease : Option LeaseView) : SettlementTxn Unit := do
  let active ← read fun db =>
    .ok ((db.creditAccounts.find? accountId).any (·.status = "active"))
  if active && guarded lease then
    write fun db =>
      let creditAccounts := db.creditAccounts.modify accountId
        (addToBalance amountUnits ledgerEventId updatedAt) fun _ => rfl
      some { db with creditAccounts }
  else do
    assertHeld lease
    check (reject "credit_account_inactive" "Seller settlement credit account is inactive" 409)

def insertSellerSettlementLedgerEvent (event : CreditLedgerEvent) (lease : Option LeaseView) :
    SettlementTxn Unit := do
  if guarded lease then
    write fun db => (db.creditLedgerEvents.insert? event).map fun creditLedgerEvents =>
      { db with creditLedgerEvents }
  else do
    assertHeld lease
    check (.error (.error "postgres_seller_settlement_ledger_insert_empty"))

/-- Pays what was released to the seller. -/
def paySeller (input : ReleaseInput) (window : WindowKey) (amountUnits : Int) :
    SettlementTxn WindowOutcome := do
  let account ← getOrCreateActiveCreditAccount window.sellerScopeRef input.now
  let ledgerId ← createId "ledger"
  creditAccount account.id amountUnits ledgerId input.effectiveAt (input.leaseAt window .credit)
  insertSellerSettlementLedgerEvent {
    id := ledgerId
    accountId := account.id
    eventType := .sellerSettlementRelease
    amountUnits
    relatedEventId := none
    source := window.source
    createdAt := input.effectiveAt } (input.leaseAt window .insertLedgerEvent)
  pure (.released ledgerId amountUnits)

def planSubscriptionIdOf : SettlementSource → Option String
  | .planSubscription id => some id
  | .authorityPurchase _ => none

def authorityPurchaseIdOf : SettlementSource → Option String
  | .planSubscription _ => none
  | .authorityPurchase id => some id

/-- Releases a positive amount, with the earliest ends of the window's events. -/
def releaseAmount (input : ReleaseInput) (window : WindowKey) (amountUnits : Int)
    (windowEnd releaseAt : Option Timestamp) : SettlementTxn WindowOutcome := do
  let windowEnd ← notNull windowEnd
  let releaseAt ← notNull releaseAt
  let settlement ← insertSellerSettlementEvent {
    planSubscriptionId := planSubscriptionIdOf window.source
    authorityPurchaseId := authorityPurchaseIdOf window.source
    sellerScopeRef := window.sellerScopeRef
    windowStart := window.windowStart
    windowEnd
    releaseAt
    eventType := .release
    amountUnits
    origin := .settlementWindow window
    createdAt := input.effectiveAt } (input.leaseAt window .insertRelease)
  match settlement with
  | none => pure .skipped
  | some _ => paySeller input window amountUnits

/-- Settles a window with what its events add up to. -/
def settleWindow (input : ReleaseInput) (row : SellerSettlementWindow) :
    SettlementTxn WindowOutcome := do
  let events ← read fun db => .ok (eventsOf row.windowKey db.events)
  let net ← check (safePostgresInteger (netUnits events) "seller_settlement_net_units_invalid")
  let released ← check
    (safePostgresInteger (releasedUnits events) "seller_settlement_released_units_invalid")
  let amountUnits := max 0 (net - released)
  if amountUnits ≤ 0 then closeWindow input row
  else
    releaseAmount input row.windowKey amountUnits
      (events.map SellerSettlementEvent.windowEnd).min?
      (events.map SellerSettlementEvent.releaseAt).min?

/-- Whether attempts of the window's subscription are still to be settled. -/
def hasUnresolvedAttempts (input : ReleaseInput) (candidate : SellerSettlementWindow) : Bool :=
  match candidate.windowKey.source with
  | .planSubscription id =>
    (input.attempts candidate.windowKey).any (isUnresolved
      (input.budgetClaims candidate.windowKey) id candidate.windowKey.windowStart
      candidate.windowEnd)
  | .authorityPurchase _ => false

/-- The candidate's row, locked. -/
def releaseWindow (input : ReleaseInput) (candidate : SellerSettlementWindow) :
    SettlementTxn WindowOutcome := do
  let projection ← read fun db => .ok (db.windows.find? candidate.windowKey)
  match projection.filter (·.status = .open) with
  | none => pure .skipped
  | some row => do
    check (if row.windowKey.source.id = "" then reject "seller_settlement_source_missing"
      "Seller settlement window has no unique typed source" 500 else .ok ())
    if hasUnresolvedAttempts input candidate then deferWindow input row else settleWindow input row

def releasedOf (outcomes : List WindowOutcome) : List (String × Int) :=
  outcomes.filterMap fun
    | .released ledgerEventId amountUnits => some (ledgerEventId, amountUnits)
    | .skipped => none
    | .deferred => none

def releaseDueSellerSettlements (input : ReleaseInput) : SettlementTxn ReleaseResult := do
  check (if input.batchSize < 1 ∨ 500 < input.batchSize then
    reject "seller_settlement_batch_invalid"
      "Seller settlement batch size must be between 1 and 500" 400 else .ok ())
  let windows ← read fun db => .ok (dueWindows input db)
  let outcomes ← Stateful.traverse (releaseWindow input) windows
  pure {
    selectedWindows := windows.length
    deferredWindows := outcomes.countP fun outcome => outcome matches .deferred
    releasedWindows := (releasedOf outcomes).length
    releasedUnits := ((releasedOf outcomes).map Prod.snd).sum
    ledgerEventIds := (releasedOf outcomes).map Prod.fst }

/-! ### The machine -/

/-- The events that other commands record. -/
inductive FactType where
  | revenue
  | upstreamCost
  | reversal

def FactType.eventType : FactType → SellerSettlementEventType
  | revenue => .revenue
  | upstreamCost => .upstreamCost
  | reversal => .reversal

inductive SettlementCommand where
  | recordFact (factType : FactType) (input : SellerSettlementEventInput)
      (lease : Option LeaseView)
  | releaseDue (input : ReleaseInput)

/-- A command in a transaction of its own, with the identifiers it draws and the number of writes
after which the connection is lost, if it is. -/
structure SettlementInput where
  command : SettlementCommand
  freshId : Nat → String
  writesLeft : Option Nat

inductive SettlementAnswer where
  | recorded (event : Option SellerSettlementEvent)
  | released (result : ReleaseResult)

def runSettlementCommand : SettlementCommand → SettlementTxn SettlementAnswer
  | .recordFact factType input lease => do
    let event ← insertSellerSettlementEvent { input with eventType := factType.eventType } lease
    pure (.recorded event)
  | .releaseDue input => do
    let result ← releaseDueSellerSettlements input
    pure (.released result)

def settlementStep (input : SettlementInput) (db : SettlementDatabase) :
    Except (Failure SettlementError) SettlementAnswer × SettlementDatabase :=
  commit (runSettlementCommand input.command) ⟨db, input.freshId, 0, input.writesLeft⟩

/-- Before the first event. -/
def SettlementDatabase.initial (creditAccounts : Table CreditAccount)
    (creditLedgerEvents : Table CreditLedgerEvent) : SettlementDatabase :=
  ⟨[], Table.empty, creditAccounts, creditLedgerEvents⟩

end Frely.SellerSettlement
