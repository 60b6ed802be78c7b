import Frely.Core.RiskReservation
import Frely.Lib.SlidingWindow

/-!
# The shared risk state in PostgreSQL

The row of one guard and its reservations.  Every operation is one transaction that locks the row
first; one that throws is rolled back.  The limits are those of the profile.

The start times are a JSON text in the row and a list here.
-/

namespace Frely.Application

open Checked SlidingWindow

/-- A profile that passes its check. -/
structure PostgresShadowRiskProfile where
  requestStartsLimit : Int
  requestStartsWindowMs : Int
  maxInFlight : Int
  riskBudgetWindowMs : Int
  leaseTtlMs : Int
  maxReservedCreditUnits : Int
  requestStartsLimit_pos : 0 < requestStartsLimit
  requestStartsWindowMs_pos : 0 < requestStartsWindowMs
  maxInFlight_pos : 0 < maxInFlight
  riskBudgetWindowMs_pos : 0 < riskBudgetWindowMs
  leaseTtlMs_pos : 0 < leaseTtlMs
  maxReservedCreditUnits_pos : 0 < maxReservedCreditUnits

/-- The row of the guard and its reservations. -/
structure PostgresRiskState where
  revision : Int
  windowStartedAtMs : Int
  requestStarts : List Int
  reservations : List RiskReservationState
deriving DecidableEq

namespace PostgresShadowRiskStateStore

/-! ### Checks -/

def assertCreditUnits (value : Int) (label : String) : Except RiskError Unit :=
  rejectIf (¬IsSafeInteger value ∨ value ≤ 0)
    (.error (label ++ " must be a positive safe integer"))

/-- Times after the last `Date` are refused where their text is made. -/
def normalizeNow (value : Int) : Except RiskError Int := do
  rejectIf (¬IsSafeInteger value ∨ value < 0) (.error "postgres_shadow_risk_now_invalid")
  rejectIf (maximumDateMs < value) (.error "Invalid time value")
  pure value

def windowStart (nowMs windowMs : Int) : Int := nowMs / windowMs * windowMs

def safeInteger (value : Int) (errorCode : String) : Except RiskError Int := do
  rejectIf (¬IsSafeInteger value) (.error errorCode)
  pure value

def assertReservationId (value : String) : Except RiskError Unit :=
  rejectIf (isReservationId value = false) (.error "postgres_shadow_risk_reservation_id_invalid")

def assertDigest (value : String) : Except RiskError Unit :=
  rejectIf (isDigest value = false) (.error "postgres_shadow_risk_profile_digest_invalid")

def limitError (reason : ProductionShadowRiskReason) (retryAfterSeconds : Int) : RiskError :=
  .limit ⟨"request_risk_limit", "Request admission risk limit reached", 429⟩ reason
    retryAfterSeconds

/-! ### Operations -/

/-- A new window starts without request starts. -/
def rollState (profile : PostgresShadowRiskProfile) (state : PostgresRiskState) (nowMs : Int) :
    Except RiskError PostgresRiskState :=
  let currentWindow := windowStart nowMs profile.riskBudgetWindowMs
  if currentWindow < state.windowStartedAtMs then
    .error (.error "postgres_shadow_risk_clock_moved_backwards")
  else if state.windowStartedAtMs = currentWindow then .ok state
  else .ok { state with windowStartedAtMs := currentWindow, requestStarts := [] }

/-- The reservations that are left when the window has changed: those that are active or ended in
the new window. -/
def remainingReservations (state rolled : PostgresRiskState) : List RiskReservationState :=
  if rolled.windowStartedAtMs = state.windowStartedAtMs then state.reservations
  else state.reservations.filter fun reservation => ¬(reservation.status ≠ .active ∧
    reservation.terminalAtMs.any (· < rolled.windowStartedAtMs))

def acquire (profile : PostgresShadowRiskProfile) (reservedCreditUnits nowMs : Int)
    (freshId : String) (state : PostgresRiskState) :
    Except RiskError (RiskAnswer × PostgresRiskState) := do
  assertCreditUnits reservedCreditUnits "reserved Credit units"
  let nowMs ← normalizeNow nowMs
  let rolled ← rollState profile state nowMs
  let reservations := remainingReservations state rolled
  let starts := recent profile.requestStartsWindowMs nowMs rolled.requestStarts
  rejectIf (profile.requestStartsLimit ≤ starts.length)
    (limitError .requestStarts
      (retryAfterSeconds nowMs (starts.headD 0 + profile.requestStartsWindowMs)))
  rejectIf (profile.maxInFlight ≤ inFlight reservations)
    (limitError .inFlight ((profile.requestStartsWindowMs + 999) / 1000))
  let exposure ← safeInteger (currentExposure reservations) "postgres_shadow_risk_exposure_invalid"
  rejectIf (profile.maxReservedCreditUnits < exposure + reservedCreditUnits)
    (limitError .riskBudget
      (retryAfterSeconds nowMs (rolled.windowStartedAtMs + profile.riskBudgetWindowMs)))
  rejectIf (reservations.any (·.id = freshId))
    (.error "duplicate key value violates unique constraint")
  let next : RiskReservationState := {
    id := freshId
    status := .active
    reservedCreditUnits
    settledCreditUnits := none
    acquiredAtMs := nowMs
    expiresAtMs := nowMs + profile.leaseTtlMs
    terminalAtMs := none
    terminalEvidenceDigest := none }
  pure (.lease next.id next.reservedCreditUnits, {
    revision := state.revision + 1
    windowStartedAtMs := rolled.windowStartedAtMs
    requestStarts := starts ++ [nowMs]
    reservations := reservations ++ [next] })

def finishReservation (reservationId : String) (status : RiskReservationStatus)
    (settledCreditUnits : Option Int) (nowMs : Int) (state : PostgresRiskState) :
    Except RiskError (RiskAnswer × PostgresRiskState) := do
  rejectIf (¬state.reservations.any fun reservation =>
      reservation.id = reservationId ∧ reservation.status = .active)
    (.error "postgres_shadow_risk_reservation_not_active")
  pure (.done, { state with
    revision := state.revision + 1
    reservations := updateReservation state.reservations reservationId fun reservation =>
      { reservation with status, settledCreditUnits, terminalAtMs := some nowMs } })

def settle (reservationId : String) (actualCreditUnits nowMs : Int) (state : PostgresRiskState) :
    Except RiskError (RiskAnswer × PostgresRiskState) := do
  assertCreditUnits actualCreditUnits "settled Credit units"
  let nowMs ← normalizeNow nowMs
  finishReservation reservationId .settled (some actualCreditUnits) nowMs state

def closeUnknown (reservationId : String) (nowMs : Int) (state : PostgresRiskState) :
    Except RiskError (RiskAnswer × PostgresRiskState) := do
  let nowMs ← normalizeNow nowMs
  finishReservation reservationId .conservative none nowMs state

def recoverExpiredLease (reservationId terminalEvidenceDigest : String) (nowMs : Int)
    (state : PostgresRiskState) : Except RiskError (RiskAnswer × PostgresRiskState) := do
  assertReservationId reservationId
  assertDigest terminalEvidenceDigest
  let nowMs ← normalizeNow nowMs
  match state.reservations.find? (·.id = reservationId) with
  | none => .error (.error "postgres_shadow_risk_reservation_not_active")
  | some reservation => do
    rejectIf (reservation.status ≠ .active) (.error "postgres_shadow_risk_reservation_not_active")
    rejectIf (nowMs < reservation.expiresAtMs)
      (.error "postgres_shadow_risk_reservation_not_expired")
    pure (.done, { state with
      revision := state.revision + 1
      reservations := updateReservation state.reservations reservationId fun reservation =>
        { reservation with
          status := .conservative
          terminalAtMs := some nowMs
          terminalEvidenceDigest := some terminalEvidenceDigest } })

end PostgresShadowRiskStateStore

open PostgresShadowRiskStateStore

def PostgresRiskState.initial (profile : PostgresShadowRiskProfile) (nowMs : Int) :
    PostgresRiskState where
  revision := 1
  windowStartedAtMs := windowStart nowMs profile.riskBudgetWindowMs
  requestStarts := []
  reservations := []

def runRiskOperation (profile : PostgresShadowRiskProfile) (input : RiskInput)
    (state : PostgresRiskState) : Except RiskError (RiskAnswer × PostgresRiskState) :=
  match input.command with
  | .acquire reservedCreditUnits =>
    acquire profile reservedCreditUnits input.nowMs input.freshId state
  | .settle reservationId actualCreditUnits =>
    settle reservationId actualCreditUnits input.nowMs state
  | .closeUnknown reservationId => closeUnknown reservationId input.nowMs state
  | .recoverExpiredLease reservationId terminalEvidenceDigest =>
    recoverExpiredLease reservationId terminalEvidenceDigest input.nowMs state

/-- An operation that throws is rolled back. -/
def riskStep (profile : PostgresShadowRiskProfile) (input : RiskInput)
    (state : PostgresRiskState) : Except RiskError RiskAnswer × PostgresRiskState :=
  match runRiskOperation profile input state with
  | .ok (answer, state) => (.ok answer, state)
  | .error error => (.error error, state)

end Frely.Application
