import Frely.Core.RelayError
import Frely.Core.Values
import Mathlib.Algebra.Ring.Int.Defs
import Mathlib.Algebra.Ring.Nat

/-!
# Risk reservations

What the file-backed guard and the PostgreSQL store have in common: the reservations, the operations
on them and the errors.

A lease that was closed stays closed on its holder's side, and closing it again does nothing; the
flag for it is left out.
-/

namespace Frely

inductive RiskReservationStatus where
  | active
  | settled
  | conservative
deriving DecidableEq

structure RiskReservationState where
  id : String
  status : RiskReservationStatus
  reservedCreditUnits : Int
  settledCreditUnits : Option Int
  acquiredAtMs : Int
  expiresAtMs : Int
  terminalAtMs : Option Int
  terminalEvidenceDigest : Option String
deriving DecidableEq

/-- What a reservation counts against the budget. -/
def RiskReservationState.exposure (reservation : RiskReservationState) : Int :=
  if reservation.status = .settled then reservation.settledCreditUnits.getD 0
  else reservation.reservedCreditUnits

def currentExposure (reservations : List RiskReservationState) : Int :=
  (reservations.map RiskReservationState.exposure).sum

def inFlight (reservations : List RiskReservationState) : Nat :=
  (reservations.filter (·.status = .active)).length

inductive ProductionShadowRiskReason where
  | requestStarts
  | inFlight
  | riskBudget
deriving DecidableEq

/-- A limit that is reached, an error of the relay, or any other error with its text. -/
inductive RiskError where
  | limit (error : RelayError) (reason : ProductionShadowRiskReason) (retryAfterSeconds : Int)
  | relay (error : RelayError)
  | error (message : String)
deriving DecidableEq

/-- `Math.max(1, Math.ceil((retryAtMs - nowMs) / 1_000))`. -/
def retryAfterSeconds (nowMs retryAtMs : Int) : Int := max 1 ((retryAtMs - nowMs + 999) / 1000)

inductive RiskCommand where
  | acquire (reservedCreditUnits : Int)
  | settle (reservationId : String) (actualCreditUnits : Int)
  | closeUnknown (reservationId : String)
  | recoverExpiredLease (reservationId terminalEvidenceDigest : String)

/-- A command, with the time it reads and the identifier it draws. -/
structure RiskInput where
  command : RiskCommand
  nowMs : Int
  freshId : String

inductive RiskAnswer where
  | lease (reservationId : String) (reservedCreditUnits : Int)
  | done
deriving DecidableEq

/-- The last moment of a `Date`; later ones have no ISO 8601 text. -/
def maximumDateMs : Int := 8640000000000000

def isHexDigit (c : Char) : Bool := c.isDigit || ('a' ≤ c && c ≤ 'f')

/-- A text that is a given start and so many digits `[0-9a-f]`. -/
def isTaggedHex (tag : String) (digits : Nat) (text : String) : Bool :=
  tag.toList.isPrefixOf text.toList && (text.toList.drop tag.length).length = digits &&
    (text.toList.drop tag.length).all isHexDigit

def isReservationId (id : String) : Bool := isTaggedHex "rsv_" 32 id

def isDigest (digest : String) : Bool := isTaggedHex "sha256:" 64 digest

/-- `reservations.find(...)` and the change of what was found. -/
def updateReservation (reservations : List RiskReservationState) (id : String)
    (update : RiskReservationState → RiskReservationState) : List RiskReservationState :=
  reservations.map fun reservation =>
    if reservation.id = id ∧ reservation.status = .active then update reservation else reservation

end Frely
