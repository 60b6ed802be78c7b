import Frely.Core.RiskReservation
import Frely.Lib.SlidingWindow

/-!
# The file-backed risk guard

The guard keeps its state in a file that it reads, checks and replaces under a lock, so that an
operation either writes a whole new state or leaves the old one.  The limits are fixed; only the
budget of a day is configured.
-/

namespace Frely.Gateway

open Checked SlidingWindow

/-- The fixed limits with the configured budget. -/
structure ProductionShadowRiskProfile where
  maxReservedCreditUnits : Int
  valid : IsSafeInteger maxReservedCreditUnits ∧ 0 < maxReservedCreditUnits

namespace ProductionShadowRiskProfile

def requestStartsLimit : Int := 6
def requestStartsWindowSeconds : Int := 60
def maxInFlight : Int := 2
def riskBudgetWindowSeconds : Int := 86400
def leaseTtlSeconds : Int := 1800

def requestStartsWindowMs : Int := requestStartsWindowSeconds * 1000

end ProductionShadowRiskProfile

open ProductionShadowRiskProfile

structure ProductionShadowRiskState where
  revision : Int
  windowStartedAtMs : Int
  requestStartsMs : List Int
  reservations : List RiskReservationState
deriving DecidableEq

def maximumDailyReservationRecords : Nat := 8650

/-! ### Checks -/

def assertCreditUnits (value : Int) (name : String) : Except RiskError Unit :=
  rejectIf (¬IsSafeInteger value ∨ value < 0) (.error (name ++ " are invalid"))

/-- Times after the last `Date` are refused where their text is made. -/
def normalizeNow (value : Int) : Except RiskError Int := do
  rejectIf (¬IsSafeInteger value ∨ value < 0) (.error "Risk guard time is invalid")
  rejectIf (maximumDateMs < value) (.error "Invalid time value")
  pure value

/-- The start of the UTC day. -/
def utcWindowStart (nowMs : Int) : Int := nowMs / 86400000 * 86400000

def validateSettledUnits (reservation : RiskReservationState) : Except RiskError Unit :=
  if reservation.status = .settled then
    match reservation.settledCreditUnits with
    | some settled => assertCreditUnits settled "settled Credit units"
    | none => .error (.error "settled Credit units are invalid")
  else rejectIf reservation.settledCreditUnits.isSome
    (RiskError.error "Unsettled risk reservation cannot store settled Credit units")

def validateReservation (reservation : RiskReservationState) : Except RiskError Unit := do
  rejectIf (isReservationId reservation.id = false)
    (.error "Production shadow risk reservation id is invalid")
  assertCreditUnits reservation.reservedCreditUnits "reserved Credit units"
  validateSettledUnits reservation
  rejectIf (¬IsSafeInteger reservation.acquiredAtMs ∨ reservation.acquiredAtMs < 0)
    (.error "Production shadow risk acquiredAtMs is invalid")
  rejectIf (¬IsSafeInteger reservation.expiresAtMs ∨ reservation.expiresAtMs < 0)
    (.error "Production shadow risk expiresAtMs is invalid")
  rejectIf (reservation.expiresAtMs ≤ reservation.acquiredAtMs)
    (.error "Production shadow risk lease expiry is invalid")
  rejectIf (reservation.status = .active ∧
      (reservation.terminalAtMs.isSome ∨ reservation.terminalEvidenceDigest.isSome))
    (.error "Active risk reservation cannot contain terminal evidence")
  rejectIf (reservation.status ≠ .active ∧ ¬reservation.terminalAtMs.any fun terminalAtMs =>
      IsSafeInteger terminalAtMs ∧ reservation.acquiredAtMs ≤ terminalAtMs)
    (.error "Terminal risk reservation time is invalid")
  rejectIf (reservation.terminalEvidenceDigest.any (!isDigest ·))
    (.error "Terminal risk evidence digest is invalid")

def validateState (state : ProductionShadowRiskState) : Except RiskError Unit := do
  rejectIf (¬IsSafeInteger state.revision ∨ state.revision < 1)
    (.error "Production shadow risk state revision is invalid")
  rejectIf (¬IsSafeInteger state.windowStartedAtMs ∨ state.windowStartedAtMs < 0)
    (.error "Production shadow risk window is invalid")
  rejectIf (6 < state.requestStartsMs.length)
    (.error "Production shadow request starts are invalid")
  state.requestStartsMs.forM fun startedAt =>
    rejectIf (¬IsSafeInteger startedAt ∨ startedAt < 0)
      (.error "Production shadow request start is invalid")
  rejectIf (maximumDailyReservationRecords < state.reservations.length)
    (.error "Production shadow risk reservations are invalid")
  state.reservations.forM validateReservation
  rejectIf (¬(state.reservations.map RiskReservationState.id).Nodup)
    (.error "Production shadow risk reservation ids must be unique")

/-! ### Errors -/

def requestRiskGuardUnavailable : RelayError :=
  ⟨"request_risk_guard_unavailable", "Request admission is temporarily unavailable", 503⟩

/-- Errors other than a limit that is reached are not told apart outside the guard. -/
def failClosed {α : Type} (operation : Except RiskError α) : Except RiskError α :=
  match operation with
  | .error (.limit error reason retryAfterSeconds) => .error (.limit error reason retryAfterSeconds)
  | .error _ => .error (.relay requestRiskGuardUnavailable)
  | .ok value => .ok value

def riskLimitError (reason : ProductionShadowRiskReason) (retryAfter : Int) : RiskError :=
  .limit ⟨"request_risk_limit_exceeded", "Request cannot be admitted at this time", 429⟩ reason
    (max 1 retryAfter)

/-! ### Operations -/

def readState (state : ProductionShadowRiskState) :
    Except RiskError ProductionShadowRiskState := do
  validateState state
  pure state

/-- The state that is written. -/
def writeState (state : ProductionShadowRiskState) :
    Except RiskError ProductionShadowRiskState := do
  validateState state
  pure state

/-- A new day drops the starts that are not recent and the reservations that have ended. -/
def rollWindow (state : ProductionShadowRiskState) (nowMs : Int) :
    Except RiskError ProductionShadowRiskState :=
  let currentWindowStart := utcWindowStart nowMs
  if state.windowStartedAtMs = currentWindowStart then .ok state
  else if currentWindowStart < state.windowStartedAtMs then
    .error (.error "Production shadow risk state clock moved backwards")
  else .ok { state with
    windowStartedAtMs := currentWindowStart
    requestStartsMs := recent requestStartsWindowMs nowMs state.requestStartsMs
    reservations := state.reservations.filter (·.status = .active) }

def acquire (profile : ProductionShadowRiskProfile) (reservedCreditUnits : Int) (nowMs : Int)
    (freshId : String) (state : ProductionShadowRiskState) :
    Except RiskError (RiskAnswer × ProductionShadowRiskState) := do
  assertCreditUnits reservedCreditUnits "reserved Credit units"
  let nowMs ← normalizeNow nowMs
  failClosed do
    let state ← readState state
    let state ← rollWindow state nowMs
    let requestStartsMs := recent requestStartsWindowMs nowMs state.requestStartsMs
    rejectIf (requestStartsLimit ≤ requestStartsMs.length)
      (riskLimitError .requestStarts
        (retryAfterSeconds nowMs (requestStartsMs.headD 0 + requestStartsWindowMs)))
    rejectIf (maxInFlight ≤ inFlight state.reservations)
      (riskLimitError .inFlight requestStartsWindowSeconds)
    rejectIf (profile.maxReservedCreditUnits <
        currentExposure state.reservations + reservedCreditUnits)
      (riskLimitError .riskBudget
        (retryAfterSeconds nowMs (state.windowStartedAtMs + riskBudgetWindowSeconds * 1000)))
    let next : RiskReservationState := {
      id := freshId
      status := .active
      reservedCreditUnits
      settledCreditUnits := none
      acquiredAtMs := nowMs
      expiresAtMs := nowMs + leaseTtlSeconds * 1000
      terminalAtMs := none
      terminalEvidenceDigest := none }
    let state ← writeState {
      revision := state.revision + 1
      windowStartedAtMs := state.windowStartedAtMs
      requestStartsMs := requestStartsMs ++ [nowMs]
      reservations := state.reservations ++ [next] }
    pure (.lease next.id next.reservedCreditUnits, state)

def finishReservation (reservationId : String) (status : RiskReservationStatus)
    (settledCreditUnits : Option Int) (nowMs : Int) (state : ProductionShadowRiskState) :
    Except RiskError (RiskAnswer × ProductionShadowRiskState) :=
  failClosed do
    let stored ← readState state
    let state ← rollWindow stored nowMs
    match state.reservations.find? (·.id = reservationId) with
    | none => .error (.error "Risk reservation was not found")
    | some reservation =>
      if reservation.status ≠ .active then pure (.done, stored)
      else do
        let state ← writeState { state with
          revision := state.revision + 1
          reservations := updateReservation state.reservations reservationId fun reservation =>
            { reservation with status, settledCreditUnits, terminalAtMs := some nowMs } }
        pure (.done, state)

def settle (reservationId : String) (actualCreditUnits : Int) (nowMs : Int)
    (state : ProductionShadowRiskState) :
    Except RiskError (RiskAnswer × ProductionShadowRiskState) := do
  assertCreditUnits actualCreditUnits "settled Credit units"
  let nowMs ← normalizeNow nowMs
  finishReservation reservationId .settled (some actualCreditUnits) nowMs state

def closeUnknown (reservationId : String) (nowMs : Int) (state : ProductionShadowRiskState) :
    Except RiskError (RiskAnswer × ProductionShadowRiskState) := do
  let nowMs ← normalizeNow nowMs
  finishReservation reservationId .conservative none nowMs state

def recoverExpiredLease (reservationId terminalEvidenceDigest : String) (nowMs : Int)
    (state : ProductionShadowRiskState) :
    Except RiskError (RiskAnswer × ProductionShadowRiskState) := do
  rejectIf (isReservationId reservationId = false) (.error "Risk reservation id is invalid")
  rejectIf (isDigest terminalEvidenceDigest = false) (.error "Terminal evidence digest is invalid")
  let nowMs ← normalizeNow nowMs
  failClosed do
    let state ← readState state
    let state ← rollWindow state nowMs
    match state.reservations.find? (·.id = reservationId) with
    | none => .error (.error "Active risk reservation was not found")
    | some reservation => do
      rejectIf (reservation.status ≠ .active) (.error "Active risk reservation was not found")
      rejectIf (nowMs < reservation.expiresAtMs)
        (.error "Risk reservation lease has not expired")
      let state ← writeState { state with
        revision := state.revision + 1
        reservations := updateReservation state.reservations reservationId fun reservation =>
          { reservation with
            status := .conservative
            terminalAtMs := some nowMs
            terminalEvidenceDigest := some terminalEvidenceDigest } }
      pure (.done, state)

/-- The state that the guard is initialized with. -/
def initialState (nowMs : Int) : ProductionShadowRiskState where
  revision := 1
  windowStartedAtMs := utcWindowStart nowMs
  requestStartsMs := []
  reservations := []

def runOperation (profile : ProductionShadowRiskProfile) (input : RiskInput)
    (state : ProductionShadowRiskState) :
    Except RiskError (RiskAnswer × ProductionShadowRiskState) :=
  match input.command with
  | .acquire reservedCreditUnits =>
    acquire profile reservedCreditUnits input.nowMs input.freshId state
  | .settle reservationId actualCreditUnits =>
    settle reservationId actualCreditUnits input.nowMs state
  | .closeUnknown reservationId => closeUnknown reservationId input.nowMs state
  | .recoverExpiredLease reservationId terminalEvidenceDigest =>
    recoverExpiredLease reservationId terminalEvidenceDigest input.nowMs state

/-- An operation that throws leaves the file as it was. -/
def guardStep (profile : ProductionShadowRiskProfile) (input : RiskInput)
    (state : ProductionShadowRiskState) :
    Except RiskError RiskAnswer × ProductionShadowRiskState :=
  match runOperation profile input state with
  | .ok (answer, state) => (.ok answer, state)
  | .error error => (.error error, state)

end Frely.Gateway
