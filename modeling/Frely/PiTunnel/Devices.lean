import Frely.Lib.ReadCommitted
import Frely.PiTunnel.Server

/-!
# Device slots

The rows of `pi_tunnel_devices` with the constraints, the unique indexes and the trigger of their
table, the transactions of the repository as programs of statements at READ COMMITTED, and the
service over them.  Slots are created before the runs that are looked at here.
-/

namespace Frely.PiTunnel

open Checked ReadCommitted

inductive Lifecycle where
  | pending
  | active
  | revoked
deriving DecidableEq

/-- A row of `pi_tunnel_devices`. -/
structure DeviceRow where
  id : String
  lifecycle : Lifecycle
  activationCodeHash : String
  activationExpiresAt : Timestamp
  activationAttemptsRemaining : Nat
  nodeId : Option String
  nodePublicKeySpki : Option String
  nodeKeyThumbprint : Option String
  activatedAt : Option Timestamp
  revokedAt : Option Timestamp
  revocationReason : Option String
  createdAt : Timestamp
deriving DecidableEq

instance : Keyed DeviceRow String := ⟨DeviceRow.id⟩

/-- The entries of the two unique indexes, and the advisory lock on a hash. -/
inductive DeviceEntry where
  | nodeId (nodeId : String)
  | nodeKeyThumbprint (keyThumbprint : String)
  | advisory (hash : Int)
deriving DecidableEq

def DeviceRow.entries (row : DeviceRow) : List DeviceEntry :=
  (row.nodeId.map .nodeId).toList ++ (row.nodeKeyThumbprint.map .nodeKeyThumbprint).toList

instance : Indexed DeviceRow DeviceEntry := ⟨DeviceRow.entries⟩

abbrev Devices := Table DeviceRow

abbrev DeviceLock := Lock String DeviceEntry

inductive DeviceError where
  /-- `PiTunnelDomainError` -/
  | domain (code : String)
  | checkViolation
  | uniqueViolation
  | recordNotFound
  | raised (message : String)
deriving DecidableEq

abbrev DeviceProgram := Program DeviceRow String DeviceEntry DeviceError

abbrev DeviceQuery := Query DeviceRow String DeviceEntry DeviceError

abbrev DeviceSession := Session DeviceRow String DeviceEntry DeviceError

/-! ### The table -/

def revocationReasons : List String :=
  ["operator_revoked", "security_response", "key_compromise", "device_replaced"]

/-- `pi_tunnel_devices_shape_check`. -/
def DeviceRow.hasShape (row : DeviceRow) : Bool :=
  match row.lifecycle with
  | .pending => row.nodeId.isNone && row.nodePublicKeySpki.isNone && row.nodeKeyThumbprint.isNone &&
      row.activatedAt.isNone && row.revokedAt.isNone && row.revocationReason.isNone
  | .active => row.nodeId.isSome && row.nodePublicKeySpki.isSome && row.nodeKeyThumbprint.isSome &&
      row.activatedAt.isSome && row.revokedAt.isNone && row.revocationReason.isNone
  | .revoked => row.revokedAt.isSome && row.revocationReason.isSome &&
      (row.nodeId.isNone && row.nodePublicKeySpki.isNone && row.nodeKeyThumbprint.isNone &&
          row.activatedAt.isNone ||
        row.nodeId.isSome && row.nodePublicKeySpki.isSome && row.nodeKeyThumbprint.isSome &&
          row.activatedAt.isSome)

/-- The check constraints, less those on the form of single texts. -/
def DeviceRow.meetsConstraints (row : DeviceRow) : Bool :=
  row.activationAttemptsRemaining ≤ 10 &&
    (row.nodeId.isNone || row.nodeKeyThumbprint.isNone || row.nodeId = row.nodeKeyThumbprint) &&
    row.revocationReason.all (· ∈ revocationReasons) && row.hasShape

/-- `friday_relay_guard_pi_tunnel_device_transition`. -/
def guardTransition (old new : DeviceRow) : Except DeviceError Unit := do
  rejectIf (new.id ≠ old.id ∨ new.activationCodeHash ≠ old.activationCodeHash ∨
      new.activationExpiresAt ≠ old.activationExpiresAt ∨ new.createdAt ≠ old.createdAt)
    (.raised "pi_tunnel_device identity and activation facts are immutable")
  rejectIf (old.lifecycle = .revoked) (.raised "revoked pi_tunnel_device is terminal")
  rejectIf (old.lifecycle = .active ∧ new.lifecycle ≠ .revoked)
    (.raised "active pi_tunnel_device can only become revoked")
  rejectIf (old.activationAttemptsRemaining < new.activationAttemptsRemaining ∨
      old.lifecycle ≠ .pending ∧
        new.activationAttemptsRemaining ≠ old.activationAttemptsRemaining)
    (.raised "pi_tunnel_device activation attempts are monotonic while pending")
  rejectIf (¬(old.lifecycle = .pending ∧ new.lifecycle = .active) ∧
      (new.nodeId ≠ old.nodeId ∨ new.nodePublicKeySpki ≠ old.nodePublicKeySpki ∨
        new.nodeKeyThumbprint ≠ old.nodeKeyThumbprint ∨ new.activatedAt ≠ old.activatedAt))
    (.raised "pi_tunnel_device node identity is immutable outside activation")

/-- The trigger and the constraints on an updated row. -/
def checkedRow (set : DeviceRow → DeviceRow) (_ : Devices) (old : DeviceRow) :
    Except DeviceError (Option DeviceRow) := do
  guardTransition old (set old)
  rejectIf ((set old).meetsConstraints = false) .checkViolation
  pure (some (set old))

/-- `pi_tunnel_devices.update`. -/
def updateDevice (id : String) (set : DeviceRow → DeviceRow) : DeviceQuery DeviceRow := do
  let row ← update .uniqueViolation id (checkedRow set)
  match row with
  | some row => pure row
  | none => fail .recordNotFound

/-! ### Activation -/

structure ConsumeActivationInput extends VerifiedNodeIdentity where
  activationId : String
  activationCode : String
  activatedAt : Timestamp

/-- The hashes: `none` is a code that `hashActivationCode` does not take. -/
structure DeviceHost where
  hashActivationCode : String → Option String
  hashtextextended : String → Int

/-- `sha256:` and 43 letters `A`. -/
def emptyCodeHash : String := "sha256:" ++ String.ofList (List.replicate 43 'A')

def DeviceHost.activationCodeMatches (host : DeviceHost) (storedHash activationCode : String) :
    Bool :=
  (host.hashActivationCode activationCode).getD emptyCodeHash = storedHash

/-- A slot that may be activated now. -/
def DeviceRow.IsOpen (row : DeviceRow) (now : Timestamp) : Prop :=
  row.lifecycle = .pending ∧ 1 ≤ row.activationAttemptsRemaining ∧ now < row.activationExpiresAt

instance (row : DeviceRow) (now : Timestamp) : Decidable (row.IsOpen now) :=
  inferInstanceAs (Decidable (_ ∧ _))

variable (host : DeviceHost)

def withOneLess (row old : DeviceRow) : DeviceRow :=
  { old with activationAttemptsRemaining := row.activationAttemptsRemaining - 1 }

/-- The branch of a code that does not match. -/
def takeAttempt (row : DeviceRow) : DeviceQuery (Option DeviceRow) := do
  let _ ← updateDevice row.id (withOneLess row)
  pure none

def isBoundTo (input : ConsumeActivationInput) (row : DeviceRow) : Bool :=
  row.nodeId = some input.nodeId || row.nodeKeyThumbprint = some input.keyThumbprint

/-- The branch of a code that matches. -/
def bindIdentity (input : ConsumeActivationInput) (row : DeviceRow) :
    DeviceQuery (Option DeviceRow) := do
  lockEntry (.advisory (host.hashtextextended input.nodeId))
  let identityAlreadyBound ← select fun devices => devices.rows.any (isBoundTo input)
  if identityAlreadyBound then pure none
  else do
    let activated ← updateDevice row.id fun old =>
      { old with
        lifecycle := .active
        nodeId := some input.nodeId
        nodePublicKeySpki := some input.publicKeySpki
        nodeKeyThumbprint := some input.keyThumbprint
        activatedAt := some input.activatedAt }
    pure (some activated)

/-- The rest of `consumeActivation` after `findUnique`. -/
def compareCode (input : ConsumeActivationInput) :
    Option DeviceRow → DeviceQuery (Option DeviceRow)
  | none => pure none
  | some row =>
    if ¬row.IsOpen input.activatedAt then pure none
    else if ¬host.activationCodeMatches row.activationCodeHash input.activationCode then
      takeAttempt row
    else bindIdentity host input row

/-- The rest of `consumeActivation` after `SELECT … FOR UPDATE`. -/
def readSlot (input : ConsumeActivationInput) : DeviceQuery (Option DeviceRow) := do
  let row ← select fun devices => devices.find? input.activationId
  compareCode host input row

def consumeActivation (input : ConsumeActivationInput) : DeviceQuery (Option DeviceRow) := do
  let _ ← selectForUpdate input.activationId
  readSlot host input

/-! ### Revocation -/

/-- The rest of `revoke` after `findUnique`. -/
def revokeSlot (id reason : String) (revokedAt : Timestamp) :
    Option DeviceRow → DeviceQuery (Option DeviceRow)
  | none => fail (.domain "device_not_found")
  | some row =>
    if row.lifecycle = .revoked then pure (some row)
    else do
      let revoked ← updateDevice id fun old =>
        { old with
          lifecycle := .revoked
          revokedAt := some revokedAt
          revocationReason := some reason }
      pure (some revoked)

def revoke (id reason : String) (revokedAt : Timestamp) : DeviceQuery (Option DeviceRow) := do
  let _ ← selectForUpdate id
  let row ← select fun devices => devices.find? id
  revokeSlot id reason revokedAt row

/-! ### Queries -/

/-- `findActiveByNodeId`. -/
def findActiveByNodeId (devices : Devices) (nodeId : String) : Option DeviceRow :=
  devices.rows.find? fun row =>
    row.nodeId = some nodeId && row.lifecycle = .active && row.revokedAt.isNone

/-! ### The service -/

inductive DeviceCall where
  | activate (input : ConsumeActivationInput)
  | revoke (id reason : String) (now : Timestamp)

/-- Every transaction ends with its result, which is answered after the commit. -/
def done (_ : Option DeviceRow) : DeviceProgram := .commit fun _ => true

def DeviceCall.query : DeviceCall → DeviceQuery (Option DeviceRow)
  | .activate input => consumeActivation host input
  | .revoke id reason now => do
    check (rejectIf (reason ∉ revocationReasons) (.domain "revocation_reason_invalid"))
    PiTunnel.revoke id reason now

def DeviceCall.program (call : DeviceCall) : DeviceProgram := call.query host done

end Frely.PiTunnel
