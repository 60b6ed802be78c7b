import Frely.Gateway.StreamPreflight
import Frely.Lib.Json

/-!
# The SSE output of a provider stream

`streamToSse` turns a provider stream into the frames of a server-sent event stream.  A frame is
written only when the reader asks for one: the stream pulls then, and a pull races the next provider
event against a heartbeat timer.  A `next()` whose event is late stays pending over the heartbeats.

The machine has one input for each thing that can happen in the event loop: the reader's demand, the
answer to a pending `next()`, the callbacks that settle the race, the rest of the pull behind its
`await`, and the reader's cancellation.
-/

namespace Frely.Gateway

inductive SseFrame where
  | heartbeat
  | data (json : String)
  | error (json : String)
  | done
deriving DecidableEq

def SseFrame.text : SseFrame → String
  | .heartbeat => ": keepalive\n\n"
  | .data json => "data: " ++ json ++ "\n\n"
  | .error json => "event: error\ndata: " ++ json ++ "\n\n"
  | .done => "data: [DONE]\n\n"

def SseFrame.isTerminal : SseFrame → Bool
  | .error _ | .done => true
  | .heartbeat | .data _ => false

/-- The text of the public part of an error event. -/
def publicErrorJson (code message : String) (retryable : Bool) : String :=
  .ofList (Json.stringify Json.natFormat (.object [("type", .string "error"),
    ("code", .string code), ("message", .string message), ("retryable", .bool retryable)]))

/-- What the reader gets. -/
inductive SseOutput where
  | frame (frame : SseFrame)
  | closed
  | errored (error : StreamThrown)
deriving DecidableEq

def SseOutput.frame? : SseOutput → Option SseFrame
  | .frame written => some written
  | _ => none

/-- The promise of `iterator.next()` that a pull waits for. -/
inductive PendingNext (δ : Type) where
  | absent
  | waiting
  | settled (read : StreamRead δ)

inductive PullOutcome (δ : Type) where
  | event (read : StreamRead δ)
  | heartbeat
  | cancelled

/-- How far a pull is; it has no deadline when there are no heartbeats. -/
inductive SsePull (δ : Type) where
  | idle
  | racing (deadline : Option Int)
  | decided (deadline : Option Int) (outcome : PullOutcome δ)

structure SseState (δ : Type) where
  /-- The number of reads that the provider stream has answered. -/
  position : Nat := 0
  pendingNext : PendingNext δ := .absent
  initialHeartbeatPending : Bool
  terminalFrameSent : Bool := false
  finished : Bool := false
  pull : SsePull δ := .idle

structure StreamToSseOptions where
  heartbeatIntervalMs : Option Int := none
  initialHeartbeat : Bool := false

/-- The times are those that the clock shows when it is read. -/
inductive SseInput where
  | pull (start now : Int)
  | answer
  | deliver
  | timer
  | resume (now : Int)
  | cancel
deriving DecidableEq

section Steps

variable {δ : Type}

def streamToSse (options : StreamToSseOptions) : Except String (SseState δ) :=
  if options.heartbeatIntervalMs.any fun interval => interval ≤ 0 ∨ 9007199254740991 < interval
  then .error "heartbeatIntervalMs must be a positive safe integer"
  else .ok { initialHeartbeatPending := options.initialHeartbeat }

/-- One turn of the loop of a pull, up to its `await`. -/
def attend (deadline : Option Int) (now : Int) (s : SseState δ) : Option SseOutput × SseState δ :=
  if s.finished then (none, { s with pull := .idle })
  else if deadline.any (· ≤ now) then (some (.frame .heartbeat), { s with pull := .idle })
  else (none, { s with
    pull := .racing deadline
    pendingNext := match s.pendingNext with
      | .absent => .waiting
      | pending => pending })

/-- The `catch` of a pull; there is nobody to tell after a cancellation. -/
def failPull (error : StreamThrown) (s : SseState δ) : Option SseOutput × SseState δ :=
  (if s.finished then none else some (.errored error), { s with pull := .idle, finished := true })

variable (reads : Nat → StreamRead δ) (stringify : δ → Except StreamThrown String)
  (options : StreamToSseOptions)

/-- What a pull does with an event that has arrived. -/
def writeEvent (deadline : Option Int) (now : Int) (s : SseState δ) :
    ProviderStreamEvent δ → Option SseOutput × SseState δ
  | .chunk data _ => match stringify data with
    | .ok json => (some (.frame (.data json)), { s with pull := .idle })
    | .error error => failPull error s
  | .error code message retryable _ _ =>
    (some (.frame (.error (publicErrorJson code message retryable))),
      { s with pull := .idle, terminalFrameSent := true })
  | .done _ _ _ => (some (.frame .done), { s with pull := .idle, terminalFrameSent := true })
  | .usage _ => attend deadline now s

/-- The rest of a pull once its race is decided. -/
def resumePull (deadline : Option Int) (now : Int) (s : SseState δ) :
    PullOutcome δ → Option SseOutput × SseState δ
  | .cancelled => (none, { s with pull := .idle })
  | .heartbeat => (if s.finished then none else some (.frame .heartbeat), { s with pull := .idle })
  | .event (.thrown error) => failPull error s
  | .event .finished =>
    if s.finished then (none, { s with pull := .idle })
    else (some .closed, { s with pull := .idle, pendingNext := .absent, finished := true })
  | .event (.event event) =>
    if s.finished then (none, { s with pull := .idle })
    else writeEvent stringify deadline now { s with pendingNext := .absent } event

/-- An input that finds nothing to do changes nothing. -/
def sseStep : SseInput → SseState δ → Option SseOutput × SseState δ
  | .pull start now, s => match s.pull with
    | .idle =>
      if s.finished then (none, s)
      else if s.initialHeartbeatPending then
        (some (.frame .heartbeat), { s with initialHeartbeatPending := false })
      else attend (if s.terminalFrameSent then none
        else options.heartbeatIntervalMs.map (start + ·)) now s
    | _ => (none, s)
  | .answer, s => match s.pendingNext with
    | .waiting =>
      (none, { s with pendingNext := .settled (reads s.position), position := s.position + 1 })
    | _ => (none, s)
  | .deliver, s => match s.pull, s.pendingNext with
    | .racing deadline, .settled read => (none, { s with pull := .decided deadline (.event read) })
    | _, _ => (none, s)
  | .timer, s => match s.pull with
    | .racing (some deadline) => (none, { s with pull := .decided (some deadline) .heartbeat })
    | _ => (none, s)
  | .resume now, s => match s.pull with
    | .decided deadline outcome => resumePull stringify deadline now s outcome
    | _ => (none, s)
  | .cancel, s =>
    if s.finished then (none, s)
    else (none, { s with
      finished := true
      pull := match s.pull with
        | .racing (some deadline) => .decided (some deadline) .cancelled
        | pull => pull })

/-- The public frame of what the provider stream answers. -/
def frameOfRead : StreamRead δ → Option SseFrame
  | .event (.chunk data _) => (stringify data).toOption.map .data
  | .event (.error code message retryable _ _) =>
    some (.error (publicErrorJson code message retryable))
  | .event (.done _ _ _) => some .done
  | _ => none

end Steps

end Frely.Gateway
