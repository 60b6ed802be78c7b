import Mathlib.Algebra.BigOperators.Group.List.Basic
import Mathlib.Algebra.Ring.Int.Defs
import Mathlib.Algebra.Ring.Nat

/-!
# Forwarding with backpressure

An `OpaqueForwardQueue` passes binary frames on to a socket and keeps them back while too much of
what was sent before is still buffered there.  Whether the socket is open and how many bytes it
buffers are read from the socket library; the functions take what they read as arguments.
-/

namespace Frely.PiTunnel

/-- A socket, by its number in the order in which sockets were accepted. -/
abbrev Socket := Nat

/-- The bytes of a message. -/
abbrev Frame := List UInt8

structure ForwardLimits where
  highWaterBytes : Nat
  absoluteBytes : Nat
  maxQueuedFrames : Nat

def frameAccountingBytes : Nat := 64

def accountedFrameBytes (frame : Frame) : Nat := frame.length + frameAccountingBytes

/-- A queue counts the bytes it holds. -/
structure OpaqueForwardQueue where
  target : Socket
  queue : List Frame
  queuedAccountedBytes : Nat
  drainTimer : Bool
  accounted : queuedAccountedBytes = (queue.map accountedFrameBytes).sum

namespace OpaqueForwardQueue

def new (target : Socket) : OpaqueForwardQueue := ⟨target, [], 0, false, rfl⟩

def scheduleDrain (queue : OpaqueForwardQueue) : OpaqueForwardQueue :=
  { queue with drainTimer := queue.drainTimer || !queue.queue.isEmpty }

def clear (queue : OpaqueForwardQueue) : OpaqueForwardQueue := new queue.target

def push (queue : OpaqueForwardQueue) (frame : Frame) : OpaqueForwardQueue where
  target := queue.target
  queue := queue.queue ++ [frame]
  queuedAccountedBytes := queue.queuedAccountedBytes + accountedFrameBytes frame
  drainTimer := queue.drainTimer
  accounted := by simp [queue.accounted]

/-- How `forward` ends: the frame was sent or queued, or it was refused. -/
inductive Forwarded where
  | sent
  | queued
  | overflow
  | closed
deriving DecidableEq

def forward (limits : ForwardLimits) (isOpen : Bool) (bufferedAmount : Nat)
    (queue : OpaqueForwardQueue) (frame : Frame) : Forwarded × OpaqueForwardQueue :=
  let totalBuffered := bufferedAmount + queue.queuedAccountedBytes + accountedFrameBytes frame
  if !isOpen then (.closed, queue)
  else if limits.maxQueuedFrames ≤ queue.queue.length ∨ limits.absoluteBytes < totalBuffered then
    (.overflow, queue)
  else if queue.queue ≠ [] ∨ limits.highWaterBytes ≤ bufferedAmount then
    (.queued, (queue.push frame).scheduleDrain)
  else (.sent, queue)

/-- The frames that the loop of `drain` sends, and those it leaves; the amounts are what it reads
of the buffer, one before each frame. -/
def drainFrames (highWaterBytes : Nat) : List Nat → List Frame → List Frame × List Frame
  | _, [] => ([], [])
  | bufferedAmounts, frame :: frames =>
    if bufferedAmounts.headD 0 < highWaterBytes then
      let (sent, left) := drainFrames highWaterBytes bufferedAmounts.tail frames
      (frame :: sent, left)
    else ([], frame :: frames)

/-- What is left is what was not sent. -/
theorem drainFrames_append (highWaterBytes : Nat) (bufferedAmounts : List Nat)
    (frames : List Frame) :
    (drainFrames highWaterBytes bufferedAmounts frames).1 ++
      (drainFrames highWaterBytes bufferedAmounts frames).2 = frames := by
  induction frames generalizing bufferedAmounts with
  | nil => rfl
  | cons frame frames ih =>
    rw [drainFrames]
    split
    · exact congrArg (frame :: ·) (ih bufferedAmounts.tail)
    · rfl

/-- The timer of a drain fires.  Frames are sent to an open socket, which stays open meanwhile. -/
def drain (limits : ForwardLimits) (isOpen : Bool) (bufferedAmounts : List Nat)
    (queue : OpaqueForwardQueue) : List Frame × OpaqueForwardQueue :=
  if !isOpen then ([], queue.clear)
  else
    let sent := (drainFrames limits.highWaterBytes bufferedAmounts queue.queue).1
    let left := (drainFrames limits.highWaterBytes bufferedAmounts queue.queue).2
    let bytes := queue.queuedAccountedBytes - (sent.map accountedFrameBytes).sum
    have accounted : bytes = (left.map accountedFrameBytes).sum := by
      have hsplit := drainFrames_append limits.highWaterBytes bufferedAmounts queue.queue
      have htotal : queue.queuedAccountedBytes = (sent.map accountedFrameBytes).sum +
          (left.map accountedFrameBytes).sum := by
        rw [queue.accounted, ← List.sum_append, ← List.map_append, hsplit]
      omega
    (sent, scheduleDrain ⟨queue.target, left, bytes, false, accounted⟩)

/-! ### What the operations leave queued -/

@[simp] theorem target_scheduleDrain (queue : OpaqueForwardQueue) :
    queue.scheduleDrain.target = queue.target := rfl

@[simp] theorem queue_scheduleDrain (queue : OpaqueForwardQueue) :
    queue.scheduleDrain.queue = queue.queue := rfl

theorem target_forward (limits : ForwardLimits) (isOpen : Bool) (bufferedAmount : Nat)
    (queue : OpaqueForwardQueue) (frame : Frame) :
    (queue.forward limits isOpen bufferedAmount frame).2.target = queue.target := by
  unfold forward
  dsimp only
  split_ifs <;> rfl

/-- A frame is sent to an open socket when no other one is waiting, and waits behind the others
otherwise. -/
theorem queue_forward (limits : ForwardLimits) (isOpen : Bool) (bufferedAmount : Nat)
    (queue : OpaqueForwardQueue) (frame : Frame) :
    match queue.forward limits isOpen bufferedAmount frame with
    | (.sent, after) => isOpen = true ∧ queue.queue = [] ∧ after = queue
    | (.queued, after) => after.queue = queue.queue ++ [frame]
    | (.overflow, after) => after = queue
    | (.closed, after) => after = queue := by
  unfold forward
  dsimp only
  split_ifs with hclosed hfull hwait
  · rfl
  · rfl
  · rfl
  · have hopen : isOpen = true := by simpa using hclosed
    have hempty : queue.queue = [] := not_not.mp fun h => hwait (Or.inl h)
    exact ⟨hopen, hempty, rfl⟩

theorem target_drain (limits : ForwardLimits) (isOpen : Bool) (bufferedAmounts : List Nat)
    (queue : OpaqueForwardQueue) :
    (queue.drain limits isOpen bufferedAmounts).2.target = queue.target := by
  unfold drain
  dsimp only
  split_ifs <;> rfl

theorem drain_of_not_open (limits : ForwardLimits) (bufferedAmounts : List Nat)
    (queue : OpaqueForwardQueue) :
    queue.drain limits false bufferedAmounts = ([], queue.clear) := rfl

/-- A drain sends a first part of the queue and keeps the rest. -/
theorem queue_drain (limits : ForwardLimits) (bufferedAmounts : List Nat)
    (queue : OpaqueForwardQueue) :
    (queue.drain limits true bufferedAmounts).1 ++
      (queue.drain limits true bufferedAmounts).2.queue = queue.queue :=
  drainFrames_append limits.highWaterBytes bufferedAmounts queue.queue

end OpaqueForwardQueue

end Frely.PiTunnel
