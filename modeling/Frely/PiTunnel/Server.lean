import Frely.Core.Text
import Frely.ModelAccess.AccessPointSelectors
import Frely.PiTunnel.Backpressure
import Mathlib.Data.List.AList

/-!
# The pi-tunnel server

Nodes and clients connect by WebSocket.  A node authenticates and waits; a client names the node it
wants, the node is asked whether it allows the client, and on `allow: true` the two are paired:
from then on the binary frames of each are passed on to the other.

The server runs one event at a time: an accepted upgrade, a message, a timer, the end of an
awaited lookup, a socket that closes.  A control message is handled up to its first `await` in the
event that brings it; the rest of `handleMessage` is the event `resume`, which may come later.  The
library of the sockets decides when a socket closes and what is buffered for it; its events carry
this.  JSON parsing and the checks of signatures are parameters.

The state keeps a history: what was received and sent, and when a client was announced to a node.
The server itself never reads it.
-/

namespace Frely.PiTunnel

open ModelAccess (Json)

/-! ### Control messages -/

inductive PiTunnelRole where
  | node
  | client
deriving DecidableEq

def piTunnelProtocol : String := "friday.pi-tunnel.v1"

/-- The code of a `PiTunnelDomainError`. -/
abbrev PiTunnelDomainError := String

structure NodeAuth where
  nodeId : String
  publicKeySpki : String
  signature : String

structure ClientAuth where
  nodeId : String
  clientPublicKeySpki : String
  signature : String

structure AuthorizationResult where
  requestId : String
  allow : Bool
deriving DecidableEq

/-- The keys are those expected, in any order. -/
def exactRecord (value : Json) (keys : List String) :
    Except PiTunnelDomainError (List (String × Json)) :=
  match value with
  | .object entries =>
    if (entries.map Prod.fst).isPerm keys then .ok entries
    else .error "control_invalid"
  | _ => .error "control_invalid"

def boundedString (value : Option Json) (max : Nat) : Except PiTunnelDomainError String :=
  match value with
  | some (.string text) =>
    if utf16Length text < 1 ∨ max < utf16Length text ∨ '\n' ∈ text.toList then
      .error "control_invalid"
    else .ok text
  | _ => .error "control_invalid"

def isText (value : Option Json) (text : String) : Bool :=
  match value with
  | some (.string t) => t = text
  | _ => false

def exactProtocol (value : Option Json) : Except PiTunnelDomainError Unit :=
  if isText value piTunnelProtocol then .ok () else .error "protocol_unsupported"

def parseNodeAuth (value : Json) : Except PiTunnelDomainError NodeAuth := do
  let record ← exactRecord value ["nodeId", "protocol", "publicKeySpki", "signature", "type"]
  if !isText (record.lookup "type") "nodeAuth" then throw "node_auth_rejected"
  let nodeId ← boundedString (record.lookup "nodeId") 64
  exactProtocol (record.lookup "protocol")
  let publicKeySpki ← boundedString (record.lookup "publicKeySpki") 128
  let signature ← boundedString (record.lookup "signature") 128
  return ⟨nodeId, publicKeySpki, signature⟩

def parseClientAuth (value : Json) : Except PiTunnelDomainError ClientAuth := do
  let record ← exactRecord value
    ["clientPublicKeySpki", "nodeId", "protocol", "signature", "type"]
  if !isText (record.lookup "type") "clientAuth" then throw "client_auth_rejected"
  let nodeId ← boundedString (record.lookup "nodeId") 64
  exactProtocol (record.lookup "protocol")
  let clientPublicKeySpki ← boundedString (record.lookup "clientPublicKeySpki") 128
  let signature ← boundedString (record.lookup "signature") 128
  return ⟨nodeId, clientPublicKeySpki, signature⟩

def parseAuthorizationResult (value : Json) : Except PiTunnelDomainError AuthorizationResult := do
  let record ← exactRecord value ["allow", "requestId", "type"]
  if !isText (record.lookup "type") "authorizeClientResult" then
    throw "authorization_response_invalid"
  match record.lookup "allow" with
  | some (.boolean allow) => do
    let requestId ← boundedString (record.lookup "requestId") 64
    return ⟨requestId, allow⟩
  | _ => throw "authorization_response_invalid"

/-- What the server sends as JSON, but for `clientConnected`. -/
inductive Control where
  | challenge (role : PiTunnelRole) (nonce : String)
  | ready (role : PiTunnelRole)
  | authorizeClient (requestId clientPublicKeySpki clientKeyThumbprint : String)
  | clientDisconnected
deriving DecidableEq

/-! ### The state -/

structure PiTunnelServerOptions where
  maxControlBytes : Nat
  maxFrameBytes : Nat
  bufferedHighWaterBytes : Nat
  bufferedAbsoluteBytes : Nat
  maxQueuedFrames : Nat
  idleTimeoutMs : Int
  hardLifetimeMs : Int
  maxConnections : Nat

def PiTunnelServerOptions.limits (options : PiTunnelServerOptions) : ForwardLimits :=
  ⟨options.bufferedHighWaterBytes, options.bufferedAbsoluteBytes, options.maxQueuedFrames⟩

structure VerifiedNodeIdentity where
  nodeId : String
  publicKeySpki : String
  keyThumbprint : String
deriving DecidableEq

structure VerifiedClientIdentity where
  clientPublicKeySpki : String
  clientKeyThumbprint : String

/-- What the server reads of an active device. -/
structure PiTunnelDevice where
  nodePublicKeySpki : Option String
  nodeKeyThumbprint : Option String

/-- `JSON.parse` and the proofs that a connecting party gives for a challenge. -/
structure Host where
  parseJson : Frame → Option Json
  verifyNodeConnectProof : String → NodeAuth → Option VerifiedNodeIdentity
  verifyClientConnectProof : String → ClientAuth → Option VerifiedClientIdentity

inductive ReadyState where
  | «open»
  | closing
  | closed
deriving DecidableEq

inductive Phase where
  | handshake
  | authorizing
  | ready
  | paired
deriving DecidableEq

/-- The timer that ends a handshake or, once a client waits for the node in its state, the
authorization. -/
inductive HandshakeTimer where
  | handshake
  | authorization (requestId : String)
deriving DecidableEq

/-- What is left to do of a control message: to go on with the device looked up, or to return from
`handleMessage` with or without an error. -/
inductive Continuation where
  | lookup (identity : VerifiedNodeIdentity)
  | returned
  | threw
deriving DecidableEq

/-- What the states of all sockets have, and the `readyState` of the socket itself. -/
structure BaseState where
  readyState : ReadyState
  phase : Phase
  challenge : String
  bornAt : Int
  lastActivityAt : Int
  alive : Bool
  processing : Option Continuation
  handshakeTimer : Option HandshakeTimer

structure PendingAuthorization where
  requestId : String
  client : Socket
deriving DecidableEq

structure NodeState where
  base : BaseState
  nodeId : Option String
  client : Option Socket
  pendingAuthorization : Option PendingAuthorization
  toClient : Option OpaqueForwardQueue

structure ClientState where
  base : BaseState
  nodeId : Option String
  node : Option Socket
  toNode : Option OpaqueForwardQueue

/-! The assignments that the handlers make together. -/

namespace NodeState

def setPhase (phase : Phase) (state : NodeState) : NodeState :=
  { state with base := { state.base with phase := phase } }

def registered (nodeId : String) (state : NodeState) : NodeState :=
  { state with
    base := { state.base with phase := .ready, handshakeTimer := none }
    nodeId := some nodeId }

def asking (pending : PendingAuthorization) (state : NodeState) : NodeState :=
  { state.setPhase .authorizing with pendingAuthorization := some pending }

def notAsking (state : NodeState) : NodeState :=
  { state.setPhase .ready with pendingAuthorization := none }

def pairedWith (client : Socket) (state : NodeState) : NodeState :=
  { state.setPhase .paired with client := some client, toClient := some (.new client) }

def parted (state : NodeState) : NodeState :=
  { state.setPhase .ready with client := none, toClient := none }

end NodeState

namespace ClientState

def waiting (nodeId : String) (node : Socket) (requestId : String) (state : ClientState) :
    ClientState :=
  { state with
    base := { state.base with
      phase := .authorizing, handshakeTimer := some (.authorization requestId) }
    nodeId := some nodeId
    node := some node }

def pairedWith (node : Socket) (state : ClientState) : ClientState :=
  { state with
    base := { state.base with phase := .paired }
    node := some node
    toNode := some (.new node) }

end ClientState

inductive ConnectionState where
  | node (state : NodeState)
  | client (state : ClientState)

namespace ConnectionState

def base : ConnectionState → BaseState
  | node state => state.base
  | client state => state.base

def mapBase (f : BaseState → BaseState) : ConnectionState → ConnectionState
  | node state => .node { state with base := f state.base }
  | client state => .client { state with base := f state.base }

/-- The queue for the frames that arrive from a socket. -/
def forwardQueue : ConnectionState → Option OpaqueForwardQueue
  | node state => state.toClient
  | client state => state.toNode

def setForwardQueue (queue : OpaqueForwardQueue) : ConnectionState → ConnectionState
  | node state => .node { state with toClient := some queue }
  | client state => .client { state with toNode := some queue }

end ConnectionState

/-- The history of a server.  `announced` is the message `clientConnected` to a node, which does not
name the client. -/
inductive Entry where
  | received (socket : Socket) (data : Frame) (isBinary : Bool)
  | sent (socket : Socket) (frame : Frame)
  | control (socket : Socket) (value : Control)
  | closing (socket : Socket) (code : Nat) (reason : String)
  | terminated (socket : Socket)
  | requested (node client : Socket) (requestId : String)
  | announced (node client : Socket)
deriving DecidableEq

/-- `states` holds a socket until it is closed. -/
structure Server where
  states : AList fun _ : Socket => ConnectionState
  nodes : AList fun _ : String => Socket
  accepted : Nat
  /-- What the poll of revocations under way asks about. -/
  revocationPoll : Option (List (String × Socket))
  history : List Entry

namespace Server

def start : Server := ⟨∅, ∅, 0, none, []⟩

def readyState (server : Server) (socket : Socket) : ReadyState :=
  match server.states.lookup socket with
  | some state => state.base.readyState
  | none => .closed

def record (entry : Entry) (server : Server) : Server :=
  { server with history := server.history ++ [entry] }

/-- Changes the state of a socket, if it still has one. -/
def update (socket : Socket) (f : ConnectionState → ConnectionState) (server : Server) : Server :=
  match server.states.lookup socket with
  | some state => { server with states := server.states.insert socket (f state) }
  | none => server

def updateBase (socket : Socket) (f : BaseState → BaseState) (server : Server) : Server :=
  server.update socket (·.mapBase f)

def updateNode (socket : Socket) (f : NodeState → NodeState) (server : Server) : Server :=
  server.update socket fun
    | .node state => .node (f state)
    | .client state => .client state

def updateClient (socket : Socket) (f : ClientState → ClientState) (server : Server) : Server :=
  server.update socket fun
    | .node state => .node state
    | .client state => .client (f state)

def sendControl (socket : Socket) (value : Control) (server : Server) : Server :=
  if server.readyState socket = .open then server.record (.control socket value) else server

/-- `sendControl` of `clientConnected`. -/
def announce (node client : Socket) (server : Server) : Server :=
  if server.readyState node = .open then server.record (.announced node client) else server

/-- The library closes a closing socket when the peer answers or when a timer terminates it. -/
def safeClose (socket : Socket) (code : Nat) (reason : String) (server : Server) : Server :=
  if server.readyState socket = .open then
    (server.updateBase socket fun base => { base with readyState := .closing }).record
      (.closing socket code reason)
  else server

def reject (socket : Socket) (closeCode : Nat) (errorCode : String) (server : Server) : Server :=
  server.safeClose socket closeCode errorCode

def terminate (socket : Socket) (server : Server) : Server :=
  (server.updateBase socket fun base => { base with readyState := .closing }).record
    (.terminated socket)

end Server

open Server

/-! ### Connections -/

def accept (role : PiTunnelRole) (challenge : String) (now : Int) (server : Server) : Server :=
  let socket := server.accepted
  let base : BaseState :=
    ⟨.open, .handshake, challenge, now, now, true, none, some .handshake⟩
  let state : ConnectionState := match role with
    | .node => .node ⟨base, none, none, none, none⟩
    | .client => .client ⟨base, none, none, none⟩
  { server with accepted := socket + 1, states := server.states.insert socket state }
    |>.sendControl socket (.challenge role challenge)

/-- A socket counts as a connection until it is closed. -/
def upgrade (options : PiTunnelServerOptions) (role : PiTunnelRole) (challenge : String) (now : Int)
    (server : Server) : Server :=
  if options.maxConnections ≤ server.states.keys.length then server
  else accept role challenge now server

def pair (nodeSocket clientSocket : Socket) (server : Server) : Server :=
  let server := server.updateBase clientSocket fun base => { base with handshakeTimer := none }
  if server.readyState nodeSocket ≠ .open ∨ server.readyState clientSocket ≠ .open then
    server.safeClose clientSocket 4410 "connection_unavailable"
  else
    server
      |>.updateNode nodeSocket (·.pairedWith clientSocket)
      |>.updateClient clientSocket (·.pairedWith nodeSocket)
      |>.sendControl clientSocket (.ready .client)
      |>.announce nodeSocket clientSocket

/-- The answer of a node to the request that is pending. -/
def answerAuthorization (socket : Socket) (pending : PendingAuthorization) (allow : Bool)
    (server : Server) : Server :=
  let server := server.updateNode socket (·.notAsking)
  match server.states.lookup pending.client with
  | some (.client clientState) =>
    if clientState.base.phase ≠ .authorizing then server
    else if !allow then server.safeClose pending.client 4403 "client_denied"
    else pair socket pending.client server
  | _ => server

def handleNodeControl (host : Host) (socket : Socket) (state : NodeState) (payload : Json)
    (server : Server) : Continuation × Server :=
  match state.base.phase with
  | .handshake =>
    match parseNodeAuth payload with
    | .error _ => (.threw, server)
    | .ok message =>
      match host.verifyNodeConnectProof state.base.challenge message with
      | none => (.threw, server)
      | some identity => (.lookup identity, server)
  | phase =>
    match parseAuthorizationResult payload with
    | .error _ => (.threw, server)
    | .ok message =>
      match phase, state.pendingAuthorization with
      | .ready, _ => (.returned, server)
      | .authorizing, none => (.returned, server)
      | .authorizing, some pending =>
        if pending.requestId ≠ message.requestId then (.returned, server)
        else (.returned, answerAuthorization socket pending message.allow server)
      | _, _ => (.threw, server)

/-- The rest of the handshake of a node, after `findActiveByNodeId`. -/
def finishNodeAuth (socket : Socket) (state : NodeState) (identity : VerifiedNodeIdentity)
    (device : Option PiTunnelDevice) (server : Server) : Continuation × Server :=
  if state.base.phase ≠ .handshake ∨ state.base.readyState ≠ .open then (.returned, server)
  else
    match device with
    | none => (.threw, server)
    | some device =>
      if device.nodePublicKeySpki ≠ some identity.publicKeySpki ∨
          device.nodeKeyThumbprint ≠ some identity.keyThumbprint then (.threw, server)
      else if (server.nodes.lookup identity.nodeId).isSome then
        (.returned, server.reject socket 4409 "node_already_connected")
      else
        (.returned, { server with nodes := server.nodes.insert identity.nodeId socket }
          |>.updateNode socket (·.registered identity.nodeId)
          |>.sendControl socket (.ready .node))

/-- The node a client asks for, if it can be asked. -/
def availableNode (server : Server) (nodeId : String) : Option Socket :=
  match server.nodes.lookup nodeId with
  | none => none
  | some socket =>
    match server.states.lookup socket with
    | some (.node state) =>
      if state.base.phase ≠ .ready ∨ state.client.isSome ∨
        state.pendingAuthorization.isSome then none
      else some socket
    | _ => none

def handleClientControl (host : Host) (socket : Socket) (state : ClientState) (payload : Json)
    (requestId : String) (server : Server) : Continuation × Server :=
  if state.base.phase ≠ .handshake then (.threw, server)
  else
    match parseClientAuth payload with
    | .error _ => (.threw, server)
    | .ok message =>
      match host.verifyClientConnectProof state.base.challenge message with
      | none => (.threw, server)
      | some identity =>
        match availableNode server message.nodeId with
        | none => (.returned, server.reject socket 4404 "node_unavailable")
        | some nodeSocket =>
          (.returned, server
            |>.updateClient socket (·.waiting message.nodeId nodeSocket requestId)
            |>.updateNode nodeSocket (·.asking ⟨requestId, socket⟩)
            |>.record (.requested nodeSocket socket requestId)
            |>.sendControl nodeSocket (.authorizeClient requestId identity.clientPublicKeySpki
                identity.clientKeyThumbprint))

/-! ### Messages -/

/-- The client that an overflow of either queue closes. -/
def overflowClient (socket : Socket) (state : ConnectionState) (queue : OpaqueForwardQueue)
    (server : Server) : Server :=
  match state with
  | .node _ => server.safeClose queue.target 4408 "backpressure_limit"
  | .client _ => server.safeClose socket 4408 "backpressure_limit"

/-- A frame that could not be forwarded. -/
def forwardFailed (socket : Socket) (state : ConnectionState) (server : Server) : Server :=
  match state with
  | .node state =>
    match state.client with
    | some client => server.safeClose client 4408 "backpressure_limit"
    | none => server
  | .client _ => server.safeClose socket 4408 "backpressure_limit"

def forwardFrame (options : PiTunnelServerOptions) (socket : Socket) (state : ConnectionState)
    (frame : Frame) (bufferedAmount : Nat) (server : Server) : Server :=
  match state.forwardQueue with
  | none => forwardFailed socket state server
  | some queue =>
    let isOpen := decide (server.readyState queue.target = .open)
    match queue.forward options.limits isOpen bufferedAmount frame with
    | (.sent, _) => server.record (.sent queue.target frame)
    | (.queued, queue) => server.update socket (·.setForwardQueue queue)
    | (.overflow, _) => forwardFailed socket state (overflowClient socket state queue server)
    | (.closed, _) => forwardFailed socket state server

/-- A control message, up to the first `await`. -/
def handleControl (host : Host) (socket : Socket) (state : ConnectionState) (payload : Json)
    (requestId : String) (server : Server) : Continuation × Server :=
  match state with
  | .node state => handleNodeControl host socket state payload server
  | .client state => handleClientControl host socket state payload requestId server

def handleMessage (host : Host) (options : PiTunnelServerOptions) (socket : Socket)
    (state : ConnectionState) (data : Frame) (isBinary : Bool) (requestId : String)
    (bufferedAmount : Nat) (server : Server) : Server :=
  if state.base.phase = .paired then
    if !isBinary then server.reject socket 4400 "text_frame_forbidden"
    else if options.maxFrameBytes < data.length then server.reject socket 1009 "frame_too_large"
    else forwardFrame options socket state data bufferedAmount server
  else if isBinary then
    match state with
    | .node state =>
      if state.base.phase = .ready ∨ state.base.phase = .authorizing then server
      else server.reject socket 4400 "control_frame_invalid"
    | .client _ => server.reject socket 4400 "control_frame_invalid"
  else if state.base.processing.isSome then server.reject socket 4400 "concurrent_control"
  else if options.maxControlBytes < data.length then
    server.reject socket 4400 "control_frame_invalid"
  else
    match host.parseJson data with
    | none => server.reject socket 4401 "authentication_rejected"
    | some payload =>
      let (continuation, server) := handleControl host socket state payload requestId server
      server.updateBase socket fun base => { base with processing := some continuation }

/-- The listener of messages. -/
def onMessage (host : Host) (options : PiTunnelServerOptions) (socket : Socket) (data : Frame)
    (isBinary : Bool) (now : Int) (requestId : String) (bufferedAmount : Nat) (server : Server) :
    Server :=
  let server := server.record (.received socket data isBinary)
    |>.updateBase socket fun base => { base with lastActivityAt := now, alive := true }
  match server.states.lookup socket with
  | some state =>
    handleMessage host options socket state data isBinary requestId bufferedAmount server
  | none => server

/-- The rest of `handleMessage` for the control message under way. -/
def resume (socket : Socket) (device : Option PiTunnelDevice) (server : Server) : Server :=
  match server.states.lookup socket with
  | none => server
  | some state =>
    match state, state.base.processing with
    | .node nodeState, some (.lookup identity) =>
      let (continuation, server) := finishNodeAuth socket nodeState identity device server
      server.updateBase socket fun base => { base with processing := some continuation }
    | _, some .threw =>
      (server.reject socket 4401 "authentication_rejected").updateBase socket
        fun base => { base with processing := none }
    | _, some .returned => server.updateBase socket fun base => { base with processing := none }
    | _, _ => server

/-! ### Timers -/

/-- The timer of an authorization fires. -/
def authorizationTimeout (socket : Socket) (state : ClientState) (requestId : String)
    (server : Server) : Server :=
  match state.node with
  | none => server.safeClose socket 4411 "authorization_timeout"
  | some nodeSocket =>
    match server.states.lookup nodeSocket with
    | some (.node nodeState) =>
      if state.base.phase = .authorizing ∧
          nodeState.pendingAuthorization.map (·.requestId) = some requestId then
        server
          |>.updateNode nodeSocket (·.notAsking)
          |>.updateClient socket (fun state => { state with node := none })
          |>.safeClose socket 4411 "authorization_timeout"
      else server.safeClose socket 4411 "authorization_timeout"
    -- a node that is gone has no state left in which the request could still be pending
    | _ => server.safeClose socket 4411 "authorization_timeout"

def handshakeTimeout (socket : Socket) (server : Server) : Server :=
  match server.states.lookup socket with
  | none => server
  | some state =>
    let fired := server.updateBase socket fun base => { base with handshakeTimer := none }
    match state.base.handshakeTimer, state with
    | some .handshake, _ => fired.safeClose socket 4411 "handshake_timeout"
    | some (.authorization requestId), .client state =>
      authorizationTimeout socket state requestId fired
    | _, _ => server

def drainTimeout (options : PiTunnelServerOptions) (socket : Socket) (bufferedAmounts : List Nat)
    (server : Server) : Server :=
  match (server.states.lookup socket).bind (·.forwardQueue) with
  | none => server
  | some queue =>
    if !queue.drainTimer then server
    else
      let isOpen := decide (server.readyState queue.target = .open)
      let (sent, left) := queue.drain options.limits isOpen bufferedAmounts
      (sent.foldl (fun server frame => server.record (.sent queue.target frame)) server).update
        socket (·.setForwardQueue left)

/-- The callback of a completed `send`. -/
def sendCompleted (socket : Socket) (server : Server) : Server :=
  match (server.states.lookup socket).bind (·.forwardQueue) with
  | none => server
  | some queue => server.update socket (·.setForwardQueue queue.scheduleDrain)

/-- The heartbeat of one socket. -/
def lifecycleOf (options : PiTunnelServerOptions) (now : Int) (server : Server) (socket : Socket) :
    Server :=
  match server.states.lookup socket with
  | none => server
  | some state =>
    if state.base.readyState ≠ .open then server
    else if options.hardLifetimeMs ≤ now - state.base.bornAt then
      server.safeClose socket 4412 "hard_lifetime"
    else if options.idleTimeoutMs ≤ now - state.base.lastActivityAt then
      server.safeClose socket 4411 "idle_timeout"
    else if !state.base.alive then server.terminate socket
    else server.updateBase socket fun base => { base with alive := false }

def lifecycle (options : PiTunnelServerOptions) (now : Int) (server : Server) : Server :=
  server.states.keys.foldl (lifecycleOf options now) server

def pollRevocations (server : Server) : Server :=
  if server.revocationPoll.isSome then server
  else { server with
    revocationPoll := some (server.nodes.entries.map fun entry => (entry.1, entry.2)) }

/-- The answer to a poll: the nodes that are active, or that the lookup failed. -/
def revocationsPolled (activeNodeIds : Option (List String)) (server : Server) : Server :=
  match server.revocationPoll with
  | none => server
  | some snapshot =>
    let closed := snapshot.foldl (fun server (entry : String × Socket) =>
      if server.nodes.lookup entry.1 ≠ some entry.2 then server
      else match activeNodeIds with
        | some active =>
          if entry.1 ∈ active then server else server.safeClose entry.2 4410 "node_revoked"
        | none => server.safeClose entry.2 4410 "revocation_check_failed") server
    { closed with revocationPoll := none }

/-! ### Closed sockets -/

def cleanupClient (socket : Socket) (state : ClientState) (server : Server) : Server :=
  match state.node with
  | none => server
  | some nodeSocket =>
    match server.states.lookup nodeSocket with
    | some (.node nodeState) =>
      let server := if nodeState.client = some socket then
          server
            |>.updateNode nodeSocket (·.parted)
            |>.sendControl nodeSocket .clientDisconnected
        else server
      if nodeState.pendingAuthorization.map (·.client) = some socket then
        server.updateNode nodeSocket (·.notAsking)
      else server
    | _ => server

def unregister (nodeId : Option String) (socket : Socket) (server : Server) : Server :=
  match nodeId with
  | some nodeId =>
    if server.nodes.lookup nodeId = some socket then
      { server with nodes := server.nodes.erase nodeId }
    else server
  | none => server

def nodeDisconnected (client : Option Socket) (server : Server) : Server :=
  match client with
  | some client => server.safeClose client 4410 "node_disconnected"
  | none => server

def cleanupNode (socket : Socket) (state : NodeState) (server : Server) : Server :=
  server
    |> unregister state.nodeId socket
    |> nodeDisconnected state.client
    |> nodeDisconnected (state.pendingAuthorization.map (·.client))

def cleanup (socket : Socket) (server : Server) : Server :=
  match server.states.lookup socket with
  | none => server
  | some state =>
    let server := { server with states := server.states.erase socket }
    match state with
    | .client state => cleanupClient socket state server
    | .node state => cleanupNode socket state server

/-! ### Events -/

inductive Event where
  | upgrade (role : PiTunnelRole) (challenge : String) (now : Int)
  | message (socket : Socket) (data : Frame) (isBinary : Bool) (now : Int) (requestId : String)
      (bufferedAmount : Nat)
  | resume (socket : Socket) (device : Option PiTunnelDevice)
  | pong (socket : Socket)
  | handshakeTimeout (socket : Socket)
  | drain (socket : Socket) (bufferedAmounts : List Nat)
  | sendCompleted (socket : Socket)
  | lifecycle (now : Int)
  | pollRevocations
  | revocationsPolled (activeNodeIds : Option (List String))
  /-- The peer, a timer or an error made the library close a socket. -/
  | closing (socket : Socket)
  | closed (socket : Socket)

def step (host : Host) (options : PiTunnelServerOptions) : Event → Server → Server
  | .upgrade role challenge now, server => upgrade options role challenge now server
  | .message socket data isBinary now requestId bufferedAmount, server =>
    if (server.states.lookup socket).isSome then
      onMessage host options socket data isBinary now requestId bufferedAmount server
    else server
  | .resume socket device, server => resume socket device server
  | .pong socket, server => server.updateBase socket fun base => { base with alive := true }
  | .handshakeTimeout socket, server => handshakeTimeout socket server
  | .drain socket bufferedAmounts, server => drainTimeout options socket bufferedAmounts server
  | .sendCompleted socket, server => sendCompleted socket server
  | .lifecycle now, server => lifecycle options now server
  | .pollRevocations, server => pollRevocations server
  | .revocationsPolled activeNodeIds, server => revocationsPolled activeNodeIds server
  | .closing socket, server =>
    server.updateBase socket fun base => { base with readyState := .closing }
  | .closed socket, server => cleanup socket server

/-- The server after some events. -/
def run (host : Host) (options : PiTunnelServerOptions) (events : List Event) : Server :=
  events.foldl (fun server event => step host options event server) start

end Frely.PiTunnel
