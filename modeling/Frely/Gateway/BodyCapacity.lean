import Frely.Core.RelayError
import Frely.Core.Values
import Frely.Lib.Machine

/-!
# Capacity for request bodies

`request-body.ts` of the gateway: a request takes units of memory for its body before the body is
read and gives them back when it is over; how many units there are is computed from samples of the
free memory.  Reading a body is modelled by the lengths of its chunks.
-/

namespace Frely.Gateway

open Checked

/-- A `TypeError`, an error that is answered to the request, or what the stream of a body throws. -/
inductive BodyError where
  | type (message : String)
  | relay (error : RelayError)
  | stream
deriving DecidableEq

def bodyBytesPerUnit : Int := 1048576

def memoryBytesPerUnit : Int := bodyBytesPerUnit * 9

def minimumMemorySafetyReserveBytes : Int := 512 * 1048576

/-! ### Framing -/

structure RequestBodyFraming where
  contentLengthPresent : Bool
  contentLength : Option Int := none
deriving DecidableEq

def requestBodyTooLarge : BodyError :=
  .relay ⟨"request_body_too_large", "Gateway request body is too large", 413⟩

def invalidContentLength : BodyError :=
  .relay ⟨"invalid_content_length", "Gateway request Content-Length is invalid", 400⟩

def incompleteRequestBody : BodyError :=
  .relay ⟨"incomplete_request_body", "Gateway request body is incomplete", 400⟩

def requestAborted : BodyError := .relay ⟨"request_aborted", "Gateway request was aborted", 499⟩

def assertPositiveSafeInteger (value : Int) (name : String) : Except BodyError Unit :=
  rejectIf (¬IsSafeInteger value ∨ value ≤ 0) (.type (name ++ " must be a positive safe integer"))

def admissionBodyBytes (framing : RequestBodyFraming) (maxRequestBodyBytes : Int) :
    Except BodyError Int := do
  assertPositiveSafeInteger maxRequestBodyBytes "maxRequestBodyBytes"
  rejectIf (∃ declaredBytes ∈ framing.contentLength, maxRequestBodyBytes < declaredBytes)
    requestBodyTooLarge
  return framing.contentLength.getD maxRequestBodyBytes

def requiredBodyUnits (bodyBytes : Int) : Except BodyError Int := do
  rejectIf (¬IsSafeInteger bodyBytes ∨ bodyBytes < 0)
    (.type "bodyBytes must be a non-negative safe integer")
  return max 1 ((bodyBytes + (bodyBytesPerUnit - 1)) / bodyBytesPerUnit)

/-! ### Bodies -/

/-- A body as its reader gives it: chunks, and how they end. -/
structure BodyStream where
  chunks : List Nat
  /-- Reading fails after the chunks. -/
  fails : Bool
  /-- The request was aborted when that happens, or when the body turns out too short. -/
  aborted : Bool
deriving DecidableEq

/-- Reads chunk after chunk; gives the number of bytes. -/
def readChunks (maxBytes : Int) (declaredBytes : Option Int) (stream : BodyStream) :
    Int → List Nat → Except BodyError Int
  | totalBytes, [] => do
    rejectIf (stream.fails ∧ stream.aborted) requestAborted
    rejectIf stream.fails .stream
    return totalBytes
  | totalBytes, chunk :: rest => do
    rejectIf (∃ declared ∈ declaredBytes, declared - totalBytes < chunk) invalidContentLength
    rejectIf (maxBytes - totalBytes < chunk) requestBodyTooLarge
    readChunks maxBytes declaredBytes stream (totalBytes + chunk) rest

/-- `readBoundedJsonBody`, with the number of bytes for the JSON they hold. -/
def readBoundedJsonBody (maxBytes : Int) (framing : RequestBodyFraming) (body : Option BodyStream) :
    Except BodyError Int := do
  assertPositiveSafeInteger maxBytes "maxRequestBodyBytes"
  rejectIf (∃ declared ∈ framing.contentLength, maxBytes < declared) requestBodyTooLarge
  match body with
  | none => do
    rejectIf (∃ declared ∈ framing.contentLength, 0 < declared) incompleteRequestBody
    return 0
  | some stream => do
    let totalBytes ← readChunks maxBytes framing.contentLength stream 0 stream.chunks
    rejectIf ((∃ declared ∈ framing.contentLength, totalBytes < declared) ∧ stream.aborted)
      requestAborted
    rejectIf (∃ declared ∈ framing.contentLength, totalBytes < declared) incompleteRequestBody
    return totalBytes

/-! ### Memory samples -/

structure CgroupMemoryEvents where
  high : Int
  max : Int
  oom : Int
  oomKill : Int
deriving DecidableEq

structure CgroupMemorySample where
  currentBytes : Int
  inactiveFileBytes : Int
  activeFileBytes : Int
  workingSetBytes : Int
  workingsetRefaultFile : Int
deriving DecidableEq

structure EffectiveMemorySample where
  effectiveLimitBytes : Int
  effectiveAvailableBytes : Int
  cgroupMemory : Option CgroupMemorySample := none
  cgroupEvents : Option CgroupMemoryEvents := none
deriving DecidableEq

def assertNonNegativeBytes (value : Int) (name : String) : Except BodyError Unit :=
  rejectIf (¬IsSafeInteger value ∨ value < 0)
    (.type (name ++ " must be a non-negative safe integer"))

def assertCgroupMemory (memory : CgroupMemorySample) : Except BodyError Unit := do
  assertNonNegativeBytes memory.currentBytes "currentBytes"
  assertNonNegativeBytes memory.inactiveFileBytes "inactiveFileBytes"
  assertNonNegativeBytes memory.activeFileBytes "activeFileBytes"
  assertNonNegativeBytes memory.workingSetBytes "workingSetBytes"
  assertNonNegativeBytes memory.workingsetRefaultFile "workingsetRefaultFile"
  rejectIf (memory.currentBytes < memory.inactiveFileBytes ∨
    memory.workingSetBytes ≠ memory.currentBytes - memory.inactiveFileBytes)
    (.type "cgroupMemory working set is inconsistent")

def assertMemorySample (sample : EffectiveMemorySample) : Except BodyError Unit := do
  assertPositiveSafeInteger sample.effectiveLimitBytes "effectiveLimitBytes"
  assertNonNegativeBytes sample.effectiveAvailableBytes "effectiveAvailableBytes"
  forAll sample.cgroupMemory.toList assertCgroupMemory

/-- A fifth of the memory, which the source rounds down. -/
def memorySafetyReserveBytes (effectiveLimitBytes : Int) : Int :=
  max minimumMemorySafetyReserveBytes (effectiveLimitBytes / 5)

/-! ### The capacity -/

structure ContentLengthCounts where
  present : Nat := 0
  absent : Nat := 0
deriving DecidableEq

structure OutcomeCounts where
  capacityExceeded : Nat := 0
  requestAborted : Nat := 0
  incompleteRequestBody : Nat := 0
  invalidContentLength : Nat := 0
  requestBodyTooLarge : Nat := 0
deriving DecidableEq

def emptyCgroupEvents : CgroupMemoryEvents := ⟨0, 0, 0, 0⟩

structure WeightedBodyRequestCapacity where
  totalUnits : Int := 0
  usedUnits : Int := 0
  memorySample : Option EffectiveMemorySample := none
  previousCgroupRefault : Option Int := none
  cgroupRefaultDelta : Int := 0
  previousCgroupEvents : Option CgroupMemoryEvents := none
  cgroupEventsDelta : CgroupMemoryEvents := emptyCgroupEvents
  contentLengthCounts : ContentLengthCounts := {}
  outcomeCounts : OutcomeCounts := {}
deriving DecidableEq

structure BodyRequestLease where
  units : Int
  released : Bool
deriving DecidableEq

namespace WeightedBodyRequestCapacity

def updateCgroupRefault (capacity : WeightedBodyRequestCapacity) :
    Option CgroupMemorySample → WeightedBodyRequestCapacity
  | none => { capacity with previousCgroupRefault := none, cgroupRefaultDelta := 0 }
  | some memory =>
    { capacity with
      cgroupRefaultDelta := capacity.cgroupRefaultDelta +
        capacity.previousCgroupRefault.elim 0 fun previous =>
          max 0 (memory.workingsetRefaultFile - previous)
      previousCgroupRefault := some memory.workingsetRefaultFile }

/-- What is counted since the last sample; counters that went back add nothing. -/
def addedEvents (delta events previous : CgroupMemoryEvents) : CgroupMemoryEvents :=
  ⟨delta.high + max 0 (events.high - previous.high), delta.max + max 0 (events.max - previous.max),
    delta.oom + max 0 (events.oom - previous.oom),
    delta.oomKill + max 0 (events.oomKill - previous.oomKill)⟩

def updateCgroupEvents (capacity : WeightedBodyRequestCapacity) :
    Option CgroupMemoryEvents → WeightedBodyRequestCapacity
  | none => capacity
  | some events =>
    { capacity with
      cgroupEventsDelta := capacity.previousCgroupEvents.elim capacity.cgroupEventsDelta
        (addedEvents capacity.cgroupEventsDelta events)
      previousCgroupEvents := some events }

def updateMemory (sample : EffectiveMemorySample) (capacity : WeightedBodyRequestCapacity) :
    Except BodyError WeightedBodyRequestCapacity := do
  assertMemorySample sample
  let safetyReserveBytes := memorySafetyReserveBytes sample.effectiveLimitBytes
  let usableMemoryBytes := max 0 (sample.effectiveAvailableBytes - safetyReserveBytes)
  let capacity := { capacity with
    totalUnits := usableMemoryBytes / memoryBytesPerUnit
    memorySample := some sample }
  return (capacity.updateCgroupRefault sample.cgroupMemory).updateCgroupEvents sample.cgroupEvents

/-- Gives the lease, if there is room for it. -/
def tryAcquire (bodyBytes : Int) (capacity : WeightedBodyRequestCapacity) :
    Except BodyError (Option BodyRequestLease × WeightedBodyRequestCapacity) := do
  let units ← requiredBodyUnits bodyBytes
  if capacity.totalUnits - capacity.usedUnits < units then
    return (none, { capacity with outcomeCounts := { capacity.outcomeCounts with
      capacityExceeded := capacity.outcomeCounts.capacityExceeded + 1 } })
  else
    return (some ⟨units, false⟩, { capacity with usedUnits := capacity.usedUnits + units })

def recordContentLength (present : Bool) (capacity : WeightedBodyRequestCapacity) :
    WeightedBodyRequestCapacity :=
  { capacity with contentLengthCounts :=
      if present then
        { capacity.contentLengthCounts with present := capacity.contentLengthCounts.present + 1 }
      else { capacity.contentLengthCounts with absent := capacity.contentLengthCounts.absent + 1 } }

def recordOutcome (code : String) (capacity : WeightedBodyRequestCapacity) :
    WeightedBodyRequestCapacity :=
  let counts := capacity.outcomeCounts
  { capacity with outcomeCounts :=
      if code = "request_aborted" then { counts with requestAborted := counts.requestAborted + 1 }
      else if code = "incomplete_request_body" then
        { counts with incompleteRequestBody := counts.incompleteRequestBody + 1 }
      else if code = "invalid_content_length" then
        { counts with invalidContentLength := counts.invalidContentLength + 1 }
      else if code = "request_body_too_large" then
        { counts with requestBodyTooLarge := counts.requestBodyTooLarge + 1 }
      else counts }

/-- Taking the snapshot sets what is counted between snapshots to zero. -/
def takeRuntimeSnapshot (capacity : WeightedBodyRequestCapacity) : WeightedBodyRequestCapacity :=
  { capacity with
    contentLengthCounts := {}
    outcomeCounts := {}
    cgroupEventsDelta := emptyCgroupEvents
    cgroupRefaultDelta := 0 }

end WeightedBodyRequestCapacity

/-! ### Requests and their leases -/

/-- The capacity of a server and the leases it has given, in their order. -/
structure BodyAdmission where
  capacity : WeightedBodyRequestCapacity := {}
  leases : List BodyRequestLease := []
deriving DecidableEq

inductive BodyCall where
  | updateMemory (sample : EffectiveMemorySample)
  | tryAcquire (bodyBytes : Int)
  | readBody (maxBytes : Int) (framing : RequestBodyFraming) (body : Option BodyStream)
  /-- `release` of a lease, which may have been released before. -/
  | release (lease : Nat)
  | recordContentLength (present : Bool)
  | recordOutcome (code : String)
  | takeRuntimeSnapshot

inductive BodyAnswer where
  | done
  | failed (error : BodyError)
  | granted (lease : BodyRequestLease)
  | rejected
  | read (bytes : Int)
  | snapshot (capacity : WeightedBodyRequestCapacity)
deriving DecidableEq

/-- `release` of a lease: its units are given back once. -/
def BodyAdmission.release (index : Nat) (state : BodyAdmission) : BodyAdmission :=
  match state.leases[index]? with
  | none => state
  | some lease =>
    if lease.released then state
    else
      { capacity := { state.capacity with usedUnits := state.capacity.usedUnits - lease.units }
        leases := state.leases.set index { lease with released := true } }

def bodyStep (call : BodyCall) (state : BodyAdmission) : BodyAnswer × BodyAdmission :=
  match call with
  | .updateMemory sample =>
    match state.capacity.updateMemory sample with
    | .ok capacity => (.done, { state with capacity := capacity })
    | .error e => (.failed e, state)
  | .tryAcquire bodyBytes =>
    match state.capacity.tryAcquire bodyBytes with
    | .ok (some lease, capacity) =>
      (.granted lease, { capacity := capacity, leases := state.leases ++ [lease] })
    | .ok (none, capacity) => (.rejected, { state with capacity := capacity })
    | .error e => (.failed e, state)
  | .readBody maxBytes framing body =>
    match readBoundedJsonBody maxBytes framing body with
    | .ok bytes => (.read bytes, state)
    | .error e => (.failed e, state)
  | .release index => (.done, state.release index)
  | .recordContentLength present =>
    (.done, { state with capacity := state.capacity.recordContentLength present })
  | .recordOutcome code => (.done, { state with capacity := state.capacity.recordOutcome code })
  | .takeRuntimeSnapshot =>
    (.snapshot state.capacity, { state with capacity := state.capacity.takeRuntimeSnapshot })

end Frely.Gateway
