import Frely.Lib.Machine
import Frely.PiTunnel.Backpressure

/-!
# Sends of a forward queue that may throw

The queue of `Backpressure` with its target beside it.  A send can throw, can call back before it
returns, and changes what the target buffers; the target can close at any time.  `accepted` and
`sent` record the frames that `forward` answered `true` for and the frames handed to the target.
-/

namespace Frely.PiTunnel

/-- What the queue reads of its target. -/
structure ForwardTarget where
  isOpen : Bool
  bufferedAmount : Nat
deriving DecidableEq

/-- How the target answers a send. -/
structure SendAnswer where
  throws : Bool
  callsBack : Bool
  after : ForwardTarget
deriving DecidableEq

structure ForwardState where
  queue : OpaqueForwardQueue
  target : ForwardTarget
  accepted : List Frame
  sent : List Frame

namespace ForwardState

def start (socket : Socket) (target : ForwardTarget) : ForwardState where
  queue := .new socket
  target := target
  accepted := []
  sent := []

/-- `send` on an open target: the callback schedules a drain, and an exception is caught. -/
def send (answer : SendAnswer) (frame : Frame) (state : ForwardState) : Bool × ForwardState :=
  if !state.target.isOpen then (false, state)
  else if answer.throws then (false, { state with target := answer.after })
  else
    let queue := if answer.callsBack then state.queue.scheduleDrain else state.queue
    (true, { state with queue, target := answer.after, sent := state.sent ++ [frame] })

/-- What `forward` returns. -/
inductive ForwardResult where
  | accepted
  | overflow
  | refused
deriving DecidableEq

def accept (frame : Frame) (state : ForwardState) : ForwardState :=
  { state with accepted := state.accepted ++ [frame] }

def forward (limits : ForwardLimits) (answer : SendAnswer) (frame : Frame)
    (state : ForwardState) : ForwardResult × ForwardState :=
  let totalBuffered := state.target.bufferedAmount + state.queue.queuedAccountedBytes +
    accountedFrameBytes frame
  if !state.target.isOpen then (.refused, state)
  else if limits.maxQueuedFrames ≤ state.queue.queue.length ∨
      limits.absoluteBytes < totalBuffered then
    (.overflow, state)
  else if state.queue.queue ≠ [] ∨ limits.highWaterBytes ≤ state.target.bufferedAmount then
    (.accepted, ({ state with queue := (state.queue.push frame).scheduleDrain }).accept frame)
  else
    let (sent, state) := state.send answer frame
    if sent then (.accepted, state.accept frame) else (.refused, state)

end ForwardState

/-- The queue without its first frame. -/
def OpaqueForwardQueue.shift (queue : OpaqueForwardQueue) : OpaqueForwardQueue :=
  match h : queue.queue with
  | [] => queue
  | frame :: frames =>
    { queue with
      queue := frames
      queuedAccountedBytes := queue.queuedAccountedBytes - accountedFrameBytes frame
      accounted := by simp [queue.accounted, h] }

namespace ForwardState

/-- An answer for a send that has none. -/
def defaultAnswer (target : ForwardTarget) : SendAnswer := ⟨false, false, target⟩

/-- The loop of `drain`, on the frames of the queue: each one is removed before it is sent. -/
def sendQueued (limits : ForwardLimits) : List Frame → List SendAnswer → ForwardState → ForwardState
  | [], _, state => state
  | frame :: frames, answers, state =>
    if limits.highWaterBytes ≤ state.target.bufferedAmount then state
    else
      let shifted := { state with queue := state.queue.shift }
      let (sent, state) := shifted.send (answers.headD (defaultAnswer state.target)) frame
      if sent then sendQueued limits frames answers.tail state else state

def drain (limits : ForwardLimits) (answers : List SendAnswer) (state : ForwardState) :
    ForwardState :=
  if !state.target.isOpen then { state with queue := state.queue.clear }
  else
    let state := sendQueued limits state.queue.queue answers state
    { state with queue := state.queue.scheduleDrain }

/-- The timer fires, when it is armed. -/
def timeout (limits : ForwardLimits) (answers : List SendAnswer) (state : ForwardState) :
    ForwardState :=
  if state.queue.drainTimer then
    ({ state with queue := { state.queue with drainTimer := false } }).drain limits answers
  else state

end ForwardState

inductive ForwardEvent where
  /-- a call of `forward`, and how the target answers if the frame is sent at once -/
  | forward (frame : Frame) (answer : SendAnswer)
  /-- the timer of a drain fires; the target answers its sends -/
  | timeout (answers : List SendAnswer)
  /-- a send calls back -/
  | callback
  /-- what the target buffers changes -/
  | buffered (bufferedAmount : Nat)
  /-- the target is no longer open -/
  | close
deriving DecidableEq

def forwardStep (limits : ForwardLimits) :
    ForwardEvent → ForwardState → Option ForwardState.ForwardResult × ForwardState
  | .forward frame answer, state =>
    let (result, state) := state.forward limits answer frame
    (some result, state)
  | .timeout answers, state => (none, state.timeout limits answers)
  | .callback, state => (none, { state with queue := state.queue.scheduleDrain })
  | .buffered bufferedAmount, state =>
    (none, { state with target := { state.target with bufferedAmount } })
  | .close, state => (none, { state with target := { state.target with isOpen := false } })

/-- The state that events lead to. -/
def forwardRun (limits : ForwardLimits) (start : ForwardState) (events : List ForwardEvent) :
    ForwardState :=
  Machine.final (forwardStep limits) start events

end Frely.PiTunnel
