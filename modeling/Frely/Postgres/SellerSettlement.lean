import Frely.Lib.Transaction
import Frely.Postgres.Schema

/-!
# Seller settlements in the database

The events of the sellers' windows, with a row for each window that a trigger keeps: it runs before
every insert of an event, whether or not the event is then inserted, and opens, touches or closes
the row of the event's window.

A window's key is the text of its source, seller and start, and that text is also the source of its
release; identifiers have no colon and times one length, so that both are the parts themselves here.
The identifiers of the events are left out.
-/

namespace Frely.SellerSettlement

open Frely.Postgres Transaction

/-- The one of `plan_subscription_id` and `authority_purchase_id` that is set. -/
inductive SettlementSource where
  | planSubscription (id : String)
  | authorityPurchase (id : String)
deriving DecidableEq

def SettlementSource.id : SettlementSource → String
  | planSubscription id => id
  | authorityPurchase id => id

def SettlementSource.isAuthorityPurchase : SettlementSource → Bool
  | planSubscription _ => false
  | authorityPurchase _ => true

/-- `window_key`. -/
structure WindowKey where
  source : SettlementSource
  sellerScopeRef : String
  windowStart : Timestamp
deriving DecidableEq

inductive SellerSettlementEventType where
  | revenue
  | upstreamCost
  | reversal
  | release
deriving DecidableEq

/-- `source_type` and `source_id`. -/
inductive EventOrigin where
  | record (sourceType sourceId : String)
  | settlementWindow (window : WindowKey)
deriving DecidableEq

structure SellerSettlementEvent where
  window : WindowKey
  windowEnd : Timestamp
  releaseAt : Timestamp
  eventType : SellerSettlementEventType
  amountUnits : Int
  origin : EventOrigin
  createdAt : Timestamp
deriving DecidableEq

inductive WindowStatus where
  | open
  | released
  | nonPositive
deriving DecidableEq

structure SellerSettlementWindow where
  windowKey : WindowKey
  windowEnd : Timestamp
  releaseAt : Timestamp
  nextAttemptAt : Timestamp
  status : WindowStatus
  updatedAt : Timestamp
deriving DecidableEq

inductive CreditLedgerEventType where
  | authorityPurchase
  | reversal
  | sellerSettlementRelease
deriving DecidableEq

/-- A ledger event, without the texts and references that are only shown. -/
structure CreditLedgerEvent where
  id : String
  accountId : String
  eventType : CreditLedgerEventType
  amountUnits : Int
  relatedEventId : Option String
  source : SettlementSource
  createdAt : Timestamp

instance : Keyed SellerSettlementWindow WindowKey := ⟨SellerSettlementWindow.windowKey⟩
instance : Keyed CreditLedgerEvent String := ⟨CreditLedgerEvent.id⟩

structure SettlementDatabase where
  events : List SellerSettlementEvent
  windows : Table SellerSettlementWindow
  creditAccounts : Table CreditAccount
  creditLedgerEvents : Table CreditLedgerEvent

/-! ### Inserting an event -/

/-- The index on the type, the origin and the start of the window. -/
def SellerSettlementEvent.SameFact (prior new : SellerSettlementEvent) : Prop :=
  prior.eventType = new.eventType ∧ prior.origin = new.origin ∧
    prior.window.windowStart = new.window.windowStart

/-- The indexes that allow one revenue, one reversal and one release of an Authority purchase. -/
def SellerSettlementEvent.SameAuthorityFact (prior new : SellerSettlementEvent) : Prop :=
  prior.eventType = new.eventType ∧ new.eventType ≠ .upstreamCost ∧
    prior.window.source = new.window.source ∧ new.window.source.isAuthorityPurchase

instance (prior new : SellerSettlementEvent) : Decidable (prior.SameFact new) :=
  inferInstanceAs (Decidable (_ ∧ _))

instance (prior new : SellerSettlementEvent) : Decidable (prior.SameAuthorityFact new) :=
  inferInstanceAs (Decidable (_ ∧ _))

/-- A unique index has the event already. -/
def conflicts (events : List SellerSettlementEvent) (new : SellerSettlementEvent) : Bool :=
  events.any fun prior => prior.SameFact new ∨ prior.SameAuthorityFact new

/-- The row of a window is open and has the ends of the event. -/
def SellerSettlementWindow.Accepts (row : SellerSettlementWindow) (new : SellerSettlementEvent) :
    Prop :=
  row.status = .open ∧ row.windowEnd = new.windowEnd ∧ row.releaseAt = new.releaseAt

instance (row : SellerSettlementWindow) (new : SellerSettlementEvent) :
    Decidable (row.Accepts new) :=
  inferInstanceAs (Decidable (_ ∧ _))

def setWindow (windows : Table SellerSettlementWindow) (row : SellerSettlementWindow) :
    Table SellerSettlementWindow :=
  windows.modify row.windowKey (fun old =>
    { row with windowKey := old.windowKey }) fun _ => rfl

/-- The trigger `friday_relay_project_seller_settlement_window`.  An event that is there already may
pass a window that is closed. -/
def projectSellerSettlementWindow (events : List SellerSettlementEvent)
    (new : SellerSettlementEvent) (windows : Table SellerSettlementWindow) :
    Option (Table SellerSettlementWindow) :=
  let otherwise := if events.any (·.SameFact new) then some windows else none
  match windows.find? new.window with
  | none =>
    if new.eventType = .release then otherwise
    else windows.insert? {
      windowKey := new.window
      windowEnd := new.windowEnd
      releaseAt := new.releaseAt
      nextAttemptAt := new.releaseAt
      status := .open
      updatedAt := new.createdAt }
  | some row =>
    if new.eventType = .release then
      if row.status = .open then
        some (setWindow windows { row with status := .released, updatedAt := new.createdAt })
      else otherwise
    else if row.Accepts new then some (setWindow windows { row with updatedAt := new.createdAt })
    else otherwise

/-- `INSERT ... ON CONFLICT DO NOTHING`. -/
def insertOrIgnore (new : SellerSettlementEvent) (db : SettlementDatabase) :
    Option SettlementDatabase :=
  (projectSellerSettlementWindow db.events new db.windows).map fun windows =>
    { db with windows, events := if conflicts db.events new then db.events else db.events ++ [new] }

/-! ### Sums -/

def SellerSettlementEvent.netUnits (event : SellerSettlementEvent) : Int :=
  match event.eventType with
  | .revenue => event.amountUnits
  | .upstreamCost => -event.amountUnits
  | .reversal => -event.amountUnits
  | .release => 0

def SellerSettlementEvent.releasedUnits (event : SellerSettlementEvent) : Int :=
  if event.eventType = .release then event.amountUnits else 0

def netUnits (events : List SellerSettlementEvent) : Int :=
  (events.map SellerSettlementEvent.netUnits).sum

def releasedUnits (events : List SellerSettlementEvent) : Int :=
  (events.map SellerSettlementEvent.releasedUnits).sum

def eventsOf (window : WindowKey) (events : List SellerSettlementEvent) :
    List SellerSettlementEvent :=
  events.filter (·.window = window)

end Frely.SellerSettlement
