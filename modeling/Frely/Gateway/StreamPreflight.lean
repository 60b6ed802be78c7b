import Frely.Gateway.StreamBilling

/-!
# Preflight of a provider stream

`preflightProviderStream` reads a provider stream up to its first public event, to see whether it
fails before that, and `replayAsyncIterator` gives the events out again before it goes on reading.

A provider stream is an asynchronous generator: it is read one event at a time, is completed once it
has ended, has thrown or was closed, and answers no more events then.
-/

namespace Frely.Gateway

/-- What is thrown: the code of a relay error, the message of an error, and what
`providerFailureFromThrown` makes of it. -/
structure StreamThrown where
  relayCode : Option String
  message : Option String
  failure : ProviderAttemptFailure
deriving DecidableEq

/-- The answer to a read. -/
inductive StreamRead (δ : Type) where
  | event (event : ProviderStreamEvent δ)
  | finished
  | thrown (error : StreamThrown)
deriving DecidableEq

/-- A generator: what it answers to its reads up to the one that completes it, and what it throws
when it is closed before. -/
structure ProviderSource (δ : Type) where
  reads : Nat → StreamRead δ
  cleanup : Option StreamThrown

/-- How far a generator is. -/
structure ProviderIterator where
  position : Nat := 0
  completed : Bool := false
deriving DecidableEq

/-- The signal of a request: whether it is aborted before the answer of a read is there, or before
the stream is closed after a failure. -/
structure AbortSignal where
  duringRead : Nat → Bool
  duringClose : Bool

section Iterators

variable {δ : Type} (source : ProviderSource δ)

/-- `iterator.next()`. -/
def ProviderIterator.next (it : ProviderIterator) : StreamRead δ × ProviderIterator :=
  if it.completed then (.finished, it)
  else match source.reads it.position with
    | .event event => (.event event, { it with position := it.position + 1 })
    | read => (read, ⟨it.position + 1, true⟩)

/-- `iterator.return()`, with what it throws. -/
def ProviderIterator.close (it : ProviderIterator) : Option StreamThrown × ProviderIterator :=
  if it.completed then (none, it) else (source.cleanup, { it with completed := true })

/-! ### Preflight -/

/-- What preflight returns; `failure` is `none` when the stream is accepted. -/
structure PreflightResult (δ : Type) where
  failure : Option ProviderAttemptFailure
  buffered : List (ProviderStreamEvent δ)
  iterator : ProviderIterator

/-- `throws` what the signal is aborted with, or what closing the stream throws then. -/
inductive Preflight (δ : Type) where
  | throws
  | returned (result : PreflightResult δ)

variable (signal : Option AbortSignal)

def limitEvent : ProviderStreamEvent δ :=
  .error "provider_stream_preflight_limit"
    "Provider stream produced too many pre-output control events" false none
    (some (unresolvedProviderFailure .nonRetryable))

def thrownEvent (error : StreamThrown) : ProviderStreamEvent δ :=
  .error (error.relayCode.getD "provider_stream_failed")
    (error.message.getD "Provider stream failed")
    (decide (error.failure.failureClass ≠ .nonRetryable)) none (some error.failure)

/-- The `catch` of the loop; the iterator is completed unless the signal is aborted. -/
def caught (buffered : List (ProviderStreamEvent δ)) (it : ProviderIterator)
    (error : StreamThrown) : Preflight δ :=
  if signal.any (·.duringClose) then .throws
  else .returned ⟨some error.failure, buffered ++ [thrownEvent error], it⟩

/-- Closes the stream and rejects it. -/
def rejected (failure : ProviderAttemptFailure) (buffered returned : List (ProviderStreamEvent δ))
    (it : ProviderIterator) : Preflight δ :=
  match it.close source with
  | (none, it) => .returned ⟨some failure, returned, it⟩
  | (some error, it) => caught signal buffered it error

/-- One read of the loop. -/
def preflightRead (buffered : List (ProviderStreamEvent δ)) (it : ProviderIterator)
    (onEvent : ProviderStreamEvent δ → ProviderIterator → Preflight δ) : Preflight δ :=
  if signal.any (·.duringRead it.position) then .throws
  else match it.next source with
    | (.finished, it) => .returned ⟨none, buffered, it⟩
    | (.thrown error, it) => caught signal buffered it error
    | (.event event, it) => onEvent event it

def eventFailure (code : String) (diagnostic : Option ProviderFetchDiagnostic)
    (failure : Option ProviderAttemptFailure) : ProviderAttemptFailure :=
  (parseProviderAttemptFailure failure).getD
    (unresolvedProviderFailure (failureClassFromProviderError code diagnostic))

/-- The loop, with room for so many more events before the first public one. -/
def preflightFrom : Nat → List (ProviderStreamEvent δ) → ProviderIterator → Preflight δ
  | 0, buffered, it => preflightRead source signal buffered it fun event it =>
    match event with
    | .chunk _ _ | .done _ _ _ => .returned ⟨none, buffered ++ [event], it⟩
    | _ => rejected source signal (unresolvedProviderFailure .nonRetryable) buffered
        (buffered ++ [limitEvent]) it
  | room + 1, buffered, it => preflightRead source signal buffered it fun event it =>
    match event with
    | .chunk _ _ | .done _ _ _ => .returned ⟨none, buffered ++ [event], it⟩
    | .error code _ _ diagnostic failure =>
      rejected source signal (eventFailure code diagnostic failure) (buffered ++ [event])
        (buffered ++ [event]) it
    | .usage _ => preflightFrom room (buffered ++ [event]) it

def maxPreflightEvents : Nat := 1024

def preflightProviderStream : Preflight δ := preflightFrom source signal maxPreflightEvents [] {}

/-! ### Replay -/

/-- The generator of `replayAsyncIterator`: the events still to give out, and whether it was read
and has ended. -/
structure Replay (δ : Type) where
  buffered : List (ProviderStreamEvent δ)
  iterator : ProviderIterator
  started : Bool := false
  completed : Bool := false

def PreflightResult.replay (result : PreflightResult δ) : Replay δ :=
  { buffered := result.buffered, iterator := result.iterator }

/-- A read of the consumer.  When the source has ended or thrown it needs no closing any more. -/
def Replay.next (s : Replay δ) : StreamRead δ × Replay δ :=
  if s.completed then (.finished, s)
  else match s.buffered with
    | event :: rest => (.event event, { s with buffered := rest, started := true })
    | [] =>
      match s.iterator.next source with
      | (.event event, it) => (.event event, { s with iterator := it, started := true })
      | (read, it) => (read, { s with iterator := it, started := true, completed := true })

/-- The consumer stops reading: the source is closed, unless nothing was read at all. -/
def Replay.stop (s : Replay δ) : Replay δ :=
  if s.completed || !s.started then { s with completed := true }
  else { s with iterator := (s.iterator.close source).2, completed := true }

end Iterators

/-- The answers of so many reads. -/
def answers {σ α : Type} (next : σ → α × σ) : Nat → σ → List α
  | 0, _ => []
  | n + 1, s => (next s).1 :: answers next n (next s).2

/-- The state after so many reads. -/
def afterReads {σ α : Type} (next : σ → α × σ) : Nat → σ → σ
  | 0, s => s
  | n + 1, s => afterReads next n (next s).2

end Frely.Gateway
