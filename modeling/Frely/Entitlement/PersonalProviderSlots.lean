import Frely.Core.IsoTime
import Frely.Entitlement.Subscriptions
import Frely.Lib.StableSort

/-!
# Personal Provider slots

A slot is purchased with its first period and a Plan of its own, renewed by further periods, and
finalized once its retention is over.  Every period comes with a subscription of the Plan.

The subscriptions have times here in place of texts.  The checks of the Plan's definition, the
foreign keys and the audit rows can only stop a command, as a lost connection does.
-/

namespace Frely.PersonalProviderSlots

open Checked Frely.Entitlement Transaction

/-! ### Rows -/

inductive CleanupStatus where
  | notDue
  | pending
  | blocked
  | complete
deriving DecidableEq

structure UserProviderSlot where
  id : String
  userId : String
  managedPlanId : String
  providerId : Option String
  createdByAuthorityPurchaseId : String
  retentionExpiredAt : Option IsoTime
  cleanupStatus : CleanupStatus
  cleanupErrorCode : Option String
  cleanupUpdatedAt : Option IsoTime
  createdAt : IsoTime
deriving DecidableEq

/-- What was purchased. -/
structure PurchasedProduct where
  id : String
  code : String
  version : Int
  displayName : String
  purchaseAmountUnits : Int
deriving DecidableEq

/-- A row of `user_provider_entitlement_periods`, with the checks of its columns. -/
structure EntitlementPeriod where
  id : String
  providerSlotId : String
  userId : String
  sourceAuthorityPurchaseId : String
  product : PurchasedProduct
  durationDays : Int
  renewalAdmittedAt : IsoTime
  fulfillmentSucceededAt : IsoTime
  effectiveStart : IsoTime
  effectiveEnd : IsoTime
  planSubscriptionId : String
  createdAt : IsoTime
  ordered : effectiveStart.ms < effectiveEnd.ms
  admitted : renewalAdmittedAt.ms ≤ fulfillmentSucceededAt.ms
deriving DecidableEq

structure ManagedPlan where
  id : String
  ownerId : String
  planStatus : String
  durationSeconds : Int
deriving DecidableEq

/-- A subscription of a slot's Plan; none is canceled. -/
structure SlotSubscription where
  id : String
  planId : String
  source : String
  scopeRef : String
  purchasedByUserId : String
  priority : Int
  effectiveStart : IsoTime
  effectiveEnd : IsoTime
deriving DecidableEq

instance : Keyed UserProviderSlot String := ⟨UserProviderSlot.id⟩
instance : Keyed EntitlementPeriod String := ⟨EntitlementPeriod.id⟩
instance : Keyed ManagedPlan String := ⟨ManagedPlan.id⟩
instance : Keyed SlotSubscription String := ⟨SlotSubscription.id⟩

structure SlotDatabase where
  plans : Table ManagedPlan
  slots : Table UserProviderSlot
  subscriptions : Table SlotSubscription
  periods : Table EntitlementPeriod

abbrev SlotTxn := Txn SlotDatabase EntitlementError

/-! ### Times of a slot -/

/-- `PERSONAL_PROVIDER_RETENTION_DAYS`. -/
def retentionDays : Int := 180

/-- `SECONDS_PER_DAY`. -/
def secondsPerDay : Int := 86400

inductive PersonalProviderSlotLifecycle where
  | active
  | expiredHot
  | retentionExpired
deriving DecidableEq

def renewalCutoff (latestEffectiveEnd : IsoTime) : Int :=
  latestEffectiveEnd.ms + retentionDays * secondsPerDay * 1000

def personalProviderSlotLifecycle (at' latestEffectiveEnd : IsoTime)
    (retentionExpiredAt : Option IsoTime) : PersonalProviderSlotLifecycle :=
  if retentionExpiredAt ≠ none ∨ renewalCutoff latestEffectiveEnd ≤ at'.ms then .retentionExpired
  else if at'.ms < latestEffectiveEnd.ms then .active
  else .expiredHot

def durationDaysInvalid : EntitlementError :=
  .relay ⟨"authority_product_duration_days_invalid",
    "Personal Provider product duration must be a positive integer number of days", 400⟩

def positiveDurationDays (value : Int) : Except EntitlementError Int := do
  rejectIf (¬IsSafeInteger value ∨ value < 1 ∨ 3650 < value) durationDaysInvalid
  pure value

def durationDaysFromSeconds (seconds : Int) : Except EntitlementError Int := do
  rejectIf (¬IsSafeInteger seconds ∨ seconds < secondsPerDay ∨ seconds % secondsPerDay ≠ 0)
    durationDaysInvalid
  positiveDurationDays (seconds / secondsPerDay)

def renewalWindowExpired : EntitlementError :=
  .relay ⟨"provider_slot_renewal_window_expired", "The Provider slot renewal window has expired",
    409⟩

/-- The later of two times. -/
def laterOf (left right : IsoTime) : IsoTime := if left.ms < right.ms then right else left

structure RenewalWindow where
  effectiveStart : IsoTime
  effectiveEndMs : Int
  durationDays : Int

def personalProviderRenewalWindow (latestEffectiveEnd fulfillmentSucceededAt : IsoTime)
    (renewalAdmittedAt : IsoTime) (durationDays : Int) : Except EntitlementError RenewalWindow := do
  let durationDays ← positiveDurationDays durationDays
  rejectIf (renewalCutoff latestEffectiveEnd ≤ renewalAdmittedAt.ms) renewalWindowExpired
  let effectiveStart := laterOf latestEffectiveEnd fulfillmentSucceededAt
  let effectiveEndMs := effectiveStart.ms + durationDays * secondsPerDay * 1000
  pure { effectiveStart, effectiveEndMs, durationDays }

/-! ### Reading a slot -/

structure PersonalProviderSlotSnapshot extends UserProviderSlot where
  scopeRef : String
  latestEffectiveEnd : IsoTime
  renewalCutoff : Int
  lifecycle : PersonalProviderSlotLifecycle

/-- By the end, the latest first, then by the identifier. -/
def compareLatestPeriod (left right : EntitlementPeriod) : Ordering :=
  (compare right.effectiveEnd.ms left.effectiveEnd.ms).then (compare right.id left.id)

def periodsOf (slotId : String) (db : SlotDatabase) : List EntitlementPeriod :=
  db.periods.rows.filter (·.providerSlotId = slotId)

def personalProviderSlotSnapshot (db : SlotDatabase) (row : UserProviderSlot) (at' : IsoTime) :
    Except EntitlementError PersonalProviderSlotSnapshot :=
  match StableSort.firstBy compareLatestPeriod (periodsOf row.id db) with
  | none => reject "provider_slot_corrupt" "Provider slot entitlement period is missing" 500
  | some latest => .ok { row with
      scopeRef := "user:" ++ row.userId
      latestEffectiveEnd := latest.effectiveEnd
      renewalCutoff := renewalCutoff latest.effectiveEnd
      lifecycle := personalProviderSlotLifecycle at' latest.effectiveEnd row.retentionExpiredAt }

def getPersonalProviderSlot (db : SlotDatabase) (slotId : String) (at' : IsoTime) :
    Except EntitlementError (Option PersonalProviderSlotSnapshot) :=
  match db.slots.find? slotId with
  | none => .ok none
  | some row => some <$> personalProviderSlotSnapshot db row at'

/-- A slot that has to be there. -/
def slotOr (error : EntitlementError) (db : SlotDatabase) (slotId : String) (at' : IsoTime) :
    Except EntitlementError PersonalProviderSlotSnapshot := do
  match ← getPersonalProviderSlot db slotId at' with
  | some slot => .ok slot
  | none => .error error

def purchaseCorrupt : EntitlementError :=
  .relay ⟨"authority_purchase_corrupt", "Personal Provider slot is missing", 500⟩

def slotNotFound : EntitlementError :=
  .relay ⟨"provider_slot_not_found", "Personal Provider slot not found", 404⟩

def findPeriodForPurchase (db : SlotDatabase) (purchaseId : String) : Option EntitlementPeriod :=
  db.periods.rows.find? (·.sourceAuthorityPurchaseId = purchaseId)

/-! ### Subscriptions -/

structure SlotSubscriptionCommand where
  id : String
  planId : String
  scopeRef : String
  source : String
  purchasedByUserId : String
  effectiveStart : IsoTime
  effectiveEndMs : Int

/-- An active subscription of the Plan and the scope that overlaps a period. -/
def overlapsSlot (command : SlotSubscriptionCommand) (row : SlotSubscription) : Bool :=
  row.planId = command.planId && row.scopeRef = command.scopeRef &&
    decide (row.effectiveStart.ms < command.effectiveEndMs) &&
    decide (command.effectiveStart.ms < row.effectiveEnd.ms)

def subscriptionOverlap : EntitlementError :=
  .relay ⟨"plan_subscription_overlap", "Plan subscription overlaps an active subscription", 409⟩

def prepareSlotSubscription (db : SlotDatabase) (command : SlotSubscriptionCommand) :
    Except EntitlementError SlotSubscription :=
  match db.plans.find? command.planId with
  | none => .error (planNotFound command.planId)
  | some plan => do
    rejectIf (plan.planStatus ≠ "enabled")
      (.relay ⟨"plan_not_open_for_new_entitlements", "Plan does not accept new entitlements", 409⟩)
    requireSubscriptionScope command.scopeRef
    match IsoTime.ofMs? command.effectiveEndMs with
    | none => .error subscriptionPeriodInvalid
    | some effectiveEnd => do
      rejectIf (effectiveEnd.ms ≤ command.effectiveStart.ms) subscriptionPeriodInvalid
      rejectIf (db.subscriptions.rows.any (overlapsSlot command)) subscriptionOverlap
      pure {
        id := command.id
        planId := command.planId
        source := command.source
        scopeRef := command.scopeRef
        purchasedByUserId := command.purchasedByUserId
        priority := 10
        effectiveStart := command.effectiveStart
        effectiveEnd }

def createSlotSubscription (command : SlotSubscriptionCommand) : SlotTxn SlotSubscription := do
  let row ← read fun db => prepareSlotSubscription db command
  write fun db => (db.subscriptions.insert? row).map fun subscriptions => { db with subscriptions }
  pure row

/-! ### Commands -/

structure PeriodFacts where
  providerSlotId : String
  userId : String
  purchaseId : String
  product : PurchasedProduct
  durationDays : Int
  renewalAdmittedAt : IsoTime
  fulfilledAt : IsoTime

/-- A period that the columns accept. -/
def newPeriod (id : String) (facts : PeriodFacts) (subscription : SlotSubscription) :
    Option EntitlementPeriod :=
  if h : subscription.effectiveStart.ms < subscription.effectiveEnd.ms ∧
      facts.renewalAdmittedAt.ms ≤ facts.fulfilledAt.ms then
    some {
      id
      providerSlotId := facts.providerSlotId
      userId := facts.userId
      sourceAuthorityPurchaseId := facts.purchaseId
      product := facts.product
      durationDays := facts.durationDays
      renewalAdmittedAt := facts.renewalAdmittedAt
      fulfillmentSucceededAt := facts.fulfilledAt
      effectiveStart := subscription.effectiveStart
      effectiveEnd := subscription.effectiveEnd
      planSubscriptionId := subscription.id
      createdAt := facts.fulfilledAt
      ordered := h.1
      admitted := h.2 }
  else none

/-- One period for a purchase and one for a subscription. -/
def acceptsPeriod (db : SlotDatabase) (row : EntitlementPeriod) : Bool :=
  db.periods.rows.all fun other =>
    other.sourceAuthorityPurchaseId ≠ row.sourceAuthorityPurchaseId &&
      other.planSubscriptionId ≠ row.planSubscriptionId

def insertPeriod (row : EntitlementPeriod) : SlotTxn Unit :=
  write fun db =>
    if acceptsPeriod db row then
      (db.periods.insert? row).map fun periods => { db with periods }
    else none

def createPeriod (facts : PeriodFacts) (subscription : SlotSubscription) :
    SlotTxn EntitlementPeriod := do
  let id ← createId "provider_entitlement"
  match newPeriod id facts subscription with
  | none => fun _ => .error .violated
  | some row => do
    insertPeriod row
    pure row

def createManagedPlan (plan : ManagedPlan) : SlotTxn Unit :=
  write fun db => (db.plans.insert? plan).map fun plans => { db with plans }

/-- A slot has a Plan and a purchase of its own. -/
def insertSlot (row : UserProviderSlot) : SlotTxn Unit :=
  write fun db =>
    if db.slots.rows.all fun other => other.managedPlanId ≠ row.managedPlanId &&
        other.createdByAuthorityPurchaseId ≠ row.createdByAuthorityPurchaseId then
      (db.slots.insert? row).map fun slots => { db with slots }
    else none

structure PurchasedSlotInput where
  purchaseId : String
  product : PurchasedProduct
  buyerUserId : String
  durationSeconds : Int
  fulfilledAt : IsoTime

structure RenewSlotInput where
  slotId : String
  purchaseId : String
  product : PurchasedProduct
  buyerUserId : String
  durationSeconds : Int
  renewalAdmittedAt : IsoTime
  fulfilledAt : IsoTime

/-- The slot, its new or earlier period, and whether it is an earlier one. -/
structure SlotFulfillment where
  slot : PersonalProviderSlotSnapshot
  period : EntitlementPeriod
  replayed : Bool

def replayFulfillment (slotId : String) (period : EntitlementPeriod) (fulfilledAt : IsoTime) :
    SlotTxn SlotFulfillment := do
  let slot ← read fun db => slotOr purchaseCorrupt db slotId fulfilledAt
  pure ⟨slot, period, true⟩

def slotCorrupt (message : String) : EntitlementError :=
  .relay ⟨"provider_slot_corrupt", message, 500⟩

def fulfillSlotPurchase (input : PurchasedSlotInput) : SlotTxn SlotFulfillment := do
  let durationDays ← check (durationDaysFromSeconds input.durationSeconds)
  let slotId ← createId "provider_slot"
  let planId ← createId "plan"
  let subscriptionId ← createId "plan_sub"
  createManagedPlan {
    id := planId
    ownerId := input.buyerUserId
    planStatus := "enabled"
    durationSeconds := input.durationSeconds }
  insertSlot {
    id := slotId
    userId := input.buyerUserId
    managedPlanId := planId
    providerId := none
    createdByAuthorityPurchaseId := input.purchaseId
    retentionExpiredAt := none
    cleanupStatus := .notDue
    cleanupErrorCode := none
    cleanupUpdatedAt := none
    createdAt := input.fulfilledAt }
  let subscription ← createSlotSubscription {
    id := subscriptionId
    planId
    scopeRef := "user:" ++ input.buyerUserId
    source := "personal_provider_slot"
    purchasedByUserId := input.buyerUserId
    effectiveStart := input.fulfilledAt
    effectiveEndMs := input.fulfilledAt.ms + durationDays * secondsPerDay * 1000 }
  let period ← createPeriod {
    providerSlotId := slotId
    userId := input.buyerUserId
    purchaseId := input.purchaseId
    product := input.product
    durationDays
    renewalAdmittedAt := input.fulfilledAt
    fulfilledAt := input.fulfilledAt } subscription
  let slot ← read fun db =>
    slotOr (slotCorrupt "Personal Provider slot fulfillment failed") db slotId input.fulfilledAt
  pure ⟨slot, period, false⟩

def createPurchasedPersonalProviderSlotFulfillment (input : PurchasedSlotInput) :
    SlotTxn SlotFulfillment := do
  let existing ← read fun db => .ok (findPeriodForPurchase db input.purchaseId)
  match existing with
  | some period => replayFulfillment period.providerSlotId period input.fulfilledAt
  | none => fulfillSlotPurchase input

/-- The slot of a user whose renewal is admitted at some time. -/
def lockPersonalProviderSlotForRenewal (db : SlotDatabase) (slotId userId : String)
    (admittedAt : IsoTime) : Except EntitlementError PersonalProviderSlotSnapshot := do
  let slot ← slotOr slotNotFound db slotId admittedAt
  rejectIf (slot.userId ≠ userId) slotNotFound
  rejectIf (slot.lifecycle = .retentionExpired) renewalWindowExpired
  pure slot

def fulfillSlotRenewal (input : RenewSlotInput) : SlotTxn SlotFulfillment := do
  let slot ← read fun db =>
    lockPersonalProviderSlotForRenewal db input.slotId input.buyerUserId input.renewalAdmittedAt
  let durationDays ← check (durationDaysFromSeconds input.durationSeconds)
  let window ← check (personalProviderRenewalWindow slot.latestEffectiveEnd input.fulfilledAt
    input.renewalAdmittedAt durationDays)
  let subscriptionId ← createId "plan_sub"
  let subscription ← createSlotSubscription {
    id := subscriptionId
    planId := slot.managedPlanId
    scopeRef := slot.scopeRef
    source := "personal_provider_slot_renewal"
    purchasedByUserId := input.buyerUserId
    effectiveStart := window.effectiveStart
    effectiveEndMs := window.effectiveEndMs }
  let period ← createPeriod {
    providerSlotId := slot.id
    userId := slot.userId
    purchaseId := input.purchaseId
    product := input.product
    durationDays := window.durationDays
    renewalAdmittedAt := input.renewalAdmittedAt
    fulfilledAt := input.fulfilledAt } subscription
  let renewed ← read fun db =>
    slotOr (slotCorrupt "Personal Provider slot renewal failed") db slot.id input.fulfilledAt
  pure ⟨renewed, period, false⟩

def replayRenewal (input : RenewSlotInput) (period : EntitlementPeriod) :
    SlotTxn SlotFulfillment := do
  check (rejectIf (period.providerSlotId ≠ input.slotId)
    (.relay ⟨"authority_idempotency_conflict", "Renewal Purchase targets another Provider slot",
      409⟩))
  replayFulfillment input.slotId period input.fulfilledAt

def renewPurchasedPersonalProviderSlotFulfillment (input : RenewSlotInput) :
    SlotTxn SlotFulfillment := do
  let existing ← read fun db => .ok (findPeriodForPurchase db input.purchaseId)
  match existing with
  | some period => replayRenewal input period
  | none => fulfillSlotRenewal input

def setRetentionExpired (at' : IsoTime) (row : UserProviderSlot) : UserProviderSlot :=
  { row with
    retentionExpiredAt := some at'
    cleanupStatus := .pending
    cleanupErrorCode := none
    cleanupUpdatedAt := some at' }

def expireRetention (current : PersonalProviderSlotSnapshot) (at' : IsoTime) :
    SlotTxn (PersonalProviderSlotSnapshot × Bool) := do
  check (rejectIf (current.lifecycle ≠ .retentionExpired)
    (.relay ⟨"provider_slot_retention_not_due", "Personal Provider slot retention is not due",
      409⟩))
  write fun db => some { db with
    slots := db.slots.modify current.id (setRetentionExpired at') fun _ => rfl }
  let slot ← read fun db => slotOr slotNotFound db current.id at'
  pure (slot, false)

def finalizePersonalProviderSlotRetention (slotId : String) (at' : IsoTime) :
    SlotTxn (PersonalProviderSlotSnapshot × Bool) := do
  let current ← read fun db => slotOr slotNotFound db slotId at'
  if current.retentionExpiredAt ≠ none then pure (current, true)
  else expireRetention current at'

/-! ### The machine -/

inductive SlotCommand where
  | purchase (input : PurchasedSlotInput)
  | renew (input : RenewSlotInput)
  | finalizeRetention (slotId : String) (at' : IsoTime)

inductive SlotAnswer where
  | fulfilled (fulfillment : SlotFulfillment)
  | finalized (slot : PersonalProviderSlotSnapshot) (replayed : Bool)

def runSlotCommand : SlotCommand → SlotTxn SlotAnswer
  | .purchase input => do
    let fulfillment ← createPurchasedPersonalProviderSlotFulfillment input
    pure (.fulfilled fulfillment)
  | .renew input => do
    let fulfillment ← renewPurchasedPersonalProviderSlotFulfillment input
    pure (.fulfilled fulfillment)
  | .finalizeRetention slotId at' => do
    let (slot, replayed) ← finalizePersonalProviderSlotRetention slotId at'
    pure (.finalized slot replayed)

/-- A command in a transaction of its own, with the identifiers it draws and the number of writes
after which the connection is lost, if it is. -/
structure SlotInput where
  command : SlotCommand
  freshId : Nat → String
  writesLeft : Option Nat

def slotStep (input : SlotInput) (db : SlotDatabase) :
    Except (Failure EntitlementError) SlotAnswer × SlotDatabase :=
  commit (runSlotCommand input.command) ⟨db, input.freshId, 0, input.writesLeft⟩

/-- Before the first slot. -/
def SlotDatabase.initial : SlotDatabase := ⟨Table.empty, Table.empty, Table.empty, Table.empty⟩

end Frely.PersonalProviderSlots
