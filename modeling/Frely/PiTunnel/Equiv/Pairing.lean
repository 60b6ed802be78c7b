import Frely.PiTunnel.Server
import Mathlib.Logic.Relation

/-!
# Pairing of nodes and clients

What the sessions of a server depend on: for each socket its phase, its partner and the frames
that wait to be passed on, and the history.  A `Move` is one change of these; `Inv` is what every
move preserves.  It says that partners agree about each other, and that every announcement and
every frame sent has its reason in the history before it.
-/

namespace Frely.PiTunnel

/-! ### Histories -/

variable {history : List Entry} {host : Host} {entry : Entry} {toNode toClient : List Frame}
  {frame : Frame}

/-- The binary frames received from a socket. -/
def framesFrom (socket : Socket) (history : List Entry) : List Frame :=
  history.filterMap fun
    | .received s data true => if s = socket then some data else none
    | _ => none

/-- The binary frames sent to a socket. -/
def framesTo (socket : Socket) (history : List Entry) : List Frame :=
  history.filterMap fun
    | .sent s frame => if s = socket then some frame else none
    | _ => none

/-- A node allowed a client: it was asked about the client, under some request id, and later
answered that request with `allow: true`. -/
def Allowed (host : Host) (history : List Entry) (node client : Socket) : Prop :=
  ∃ earlier later requestId data payload,
    history = earlier ++ .requested node client requestId :: later ∧
      .received node data false ∈ later ∧ host.parseJson data = some payload ∧
      parseAuthorizationResult payload = .ok ⟨requestId, true⟩

/-- A session: the client announced last to a node, that the node was not told to be disconnected,
and what happened since the announcement. -/
def Session (history : List Entry) (node client : Socket) (since : List Entry) : Prop :=
  (∃ earlier, history = earlier ++ .announced node client :: since) ∧
    (∀ other, .announced node other ∉ since) ∧ .control node .clientDisconnected ∉ since

/-- The reason that an announcement and a frame sent have in the history before them.  A client is
announced once, to a node that allowed it.  A frame goes to one side of a session, and the frames
sent to that side are frames received from the other one since, in their order. -/
def Justified (host : Host) (history : List Entry) : Entry → Prop
  | .announced node client =>
    Allowed host history node client ∧ ∀ other, .announced other client ∉ history
  | .sent target frame =>
    ∃ node client since, Session history node client since ∧
      ((target = node ∧ (framesTo node since ++ [frame]).Sublist (framesFrom client since)) ∨
        (target = client ∧ (framesTo client since ++ [frame]).Sublist (framesFrom node since)))
  | _ => True

/-- Every entry of a history is justified by those before it. -/
def AllJustified (host : Host) (history : List Entry) : Prop :=
  ∀ earlier entry later, history = earlier ++ entry :: later → Justified host earlier entry

theorem AllJustified.append {host : Host} {history : List Entry} {entry : Entry}
    (h : AllJustified host history) (hentry : Justified host history entry) :
    AllJustified host (history ++ [entry]) := by
  intro earlier e later heq
  rcases List.eq_nil_or_concat later with rfl | ⟨later, last, rfl⟩
  · obtain ⟨rfl, hlast⟩ := List.append_inj' heq rfl
    cases hlast
    exact hentry
  · have heq' : history ++ [entry] = (earlier ++ e :: later) ++ [last] := by simpa using heq
    exact h _ _ _ (List.append_inj' heq' rfl).1

/-- An entry that neither announces nor sends. -/
def Entry.isPlain : Entry → Bool
  | .announced _ _ => false
  | .sent _ _ => false
  | _ => true

theorem justified_of_plain (host : Host) (history : List Entry) (h : entry.isPlain = true) :
    Justified host history entry := by
  cases entry with
  | announced => cases h
  | sent => cases h
  | _ => trivial

theorem framesTo_append {socket : Socket} (history : List Entry)
    (h : ∀ frame, entry ≠ .sent socket frame) :
    framesTo socket (history ++ [entry]) = framesTo socket history := by
  cases entry with
  | sent target frame =>
    have hne : target ≠ socket := by
      rintro rfl
      exact h frame rfl
    simp [framesTo, hne]
  | _ => simp [framesTo]

theorem framesFrom_sublist (socket : Socket) (history : List Entry) (entry : Entry) :
    (framesFrom socket history).Sublist (framesFrom socket (history ++ [entry])) := by
  rw [framesFrom, framesFrom, List.filterMap_append]
  exact List.sublist_append_left _ _

theorem framesFrom_append_received (socket : Socket) (history : List Entry) (frame : Frame) :
    framesFrom socket (history ++ [.received socket frame true]) =
      framesFrom socket history ++ [frame] := by
  simp [framesFrom]

theorem framesTo_append_sent (socket : Socket) (history : List Entry) (frame : Frame) :
    framesTo socket (history ++ [.sent socket frame]) = framesTo socket history ++ [frame] := by
  simp [framesTo]

/-- A session goes on until its end is announced or another client is. -/
theorem Session.append {since : List Entry} {node client : Socket}
    (h : Session history node client since) (hannounced : ∀ other, entry ≠ .announced node other)
    (hend : entry ≠ .control node .clientDisconnected) :
    Session (history ++ [entry]) node client (since ++ [entry]) := by
  obtain ⟨⟨earlier, rfl⟩, hothers, hno⟩ := h
  refine ⟨⟨earlier, by simp⟩, fun other hmem => ?_, fun hmem => ?_⟩
  · rcases List.mem_append.mp hmem with hmem | hmem
    · exact hothers other hmem
    · exact hannounced other (List.mem_singleton.mp hmem).symm
  · rcases List.mem_append.mp hmem with hmem | hmem
    · exact hno hmem
    · exact hend (List.mem_singleton.mp hmem).symm

/-- A session in which `toNode` and `toClient` wait to be sent. -/
def Live (history : List Entry) (node client : Socket) (toNode toClient : List Frame) : Prop :=
  ∃ since, Session history node client since ∧
    (framesTo node since ++ toNode).Sublist (framesFrom client since) ∧
    (framesTo client since ++ toClient).Sublist (framesFrom node since)

/-- A session goes on when something else than its end happens and nothing is sent to its sides. -/
theorem Live.append {node client : Socket} (h : Live history node client toNode toClient)
    (hannounced : ∀ other, entry ≠ .announced node other)
    (hend : entry ≠ .control node .clientDisconnected)
    (hsent : ∀ frame, entry ≠ .sent node frame ∧ entry ≠ .sent client frame) :
    Live (history ++ [entry]) node client toNode toClient := by
  obtain ⟨since, hsession, hnode, hclient⟩ := h
  refine ⟨since ++ [entry], hsession.append hannounced hend, ?_, ?_⟩
  · rw [framesTo_append since fun frame => (hsent frame).1]
    exact hnode.trans (framesFrom_sublist client since entry)
  · rw [framesTo_append since fun frame => (hsent frame).2]
    exact hclient.trans (framesFrom_sublist node since entry)

theorem Live.plain {node client : Socket} (h : Live history node client toNode toClient)
    (hplain : entry.isPlain = true) (hend : entry ≠ .control node .clientDisconnected) :
    Live (history ++ [entry]) node client toNode toClient := by
  have hnot : ∀ e : Entry, e.isPlain = false → entry ≠ e := by
    rintro e he rfl
    exact absurd hplain (by simp [he])
  exact h.append (fun _ => hnot _ rfl) hend fun _ => ⟨hnot _ rfl, hnot _ rfl⟩

/-- A session starts with the announcement. -/
theorem Live.start (history : List Entry) (node client : Socket) :
    Live (history ++ [.announced node client]) node client [] [] :=
  ⟨[], ⟨⟨history, rfl⟩, fun _ => List.not_mem_nil, List.not_mem_nil⟩, List.Sublist.slnil,
    List.Sublist.slnil⟩

/-- A frame from the client waits behind the others. -/
theorem Live.fromClient {node client : Socket} (h : Live history node client toNode toClient)
    (frame : Frame) :
    Live (history ++ [.received client frame true]) node client (toNode ++ [frame]) toClient := by
  obtain ⟨since, hsession, hnode, hclient⟩ := h
  refine ⟨since ++ [.received client frame true], hsession.append (by simp) (by simp), ?_, ?_⟩
  · rw [framesTo_append since (by simp), framesFrom_append_received, ← List.append_assoc]
    exact hnode.append (List.Sublist.refl _)
  · rw [framesTo_append since (by simp)]
    exact hclient.trans (framesFrom_sublist node since _)

/-- A frame from the node waits behind the others. -/
theorem Live.fromNode {node client : Socket} (h : Live history node client toNode toClient)
    (frame : Frame) :
    Live (history ++ [.received node frame true]) node client toNode (toClient ++ [frame]) := by
  obtain ⟨since, hsession, hnode, hclient⟩ := h
  refine ⟨since ++ [.received node frame true], hsession.append (by simp) (by simp), ?_, ?_⟩
  · rw [framesTo_append since (by simp)]
    exact hnode.trans (framesFrom_sublist client since _)
  · rw [framesTo_append since (by simp), framesFrom_append_received, ← List.append_assoc]
    exact hclient.append (List.Sublist.refl _)

/-- The frame that waits first is sent to the node. -/
theorem Live.sentNode {node client : Socket}
    (h : Live history node client (frame :: toNode) toClient) (hne : node ≠ client) :
    Live (history ++ [.sent node frame]) node client toNode toClient := by
  obtain ⟨since, hsession, hnode, hclient⟩ := h
  refine ⟨since ++ [.sent node frame], hsession.append (by simp) (by simp), ?_, ?_⟩
  · rw [framesTo_append_sent, List.append_assoc]
    exact hnode.trans (framesFrom_sublist client since _)
  · rw [framesTo_append since fun other h => hne (Entry.sent.inj h).1]
    exact hclient.trans (framesFrom_sublist node since _)

/-- The frame that waits first is sent to the client. -/
theorem Live.sentClient {node client : Socket}
    (h : Live history node client toNode (frame :: toClient)) (hne : client ≠ node) :
    Live (history ++ [.sent client frame]) node client toNode toClient := by
  obtain ⟨since, hsession, hnode, hclient⟩ := h
  refine ⟨since ++ [.sent client frame], hsession.append (by simp) (by simp), ?_, ?_⟩
  · rw [framesTo_append since fun other h => hne (Entry.sent.inj h).1]
    exact hnode.trans (framesFrom_sublist client since _)
  · rw [framesTo_append_sent, List.append_assoc]
    exact hclient.trans (framesFrom_sublist node since _)

/-- What waits may be dropped. -/
theorem Live.mono {node client : Socket} {toNode' toClient' : List Frame}
    (h : Live history node client toNode toClient) (hnode : toNode'.Sublist toNode)
    (hclient : toClient'.Sublist toClient) : Live history node client toNode' toClient' := by
  obtain ⟨since, hsession, hn, hc⟩ := h
  exact ⟨since, hsession, (hnode.append_left _).trans hn, (hclient.append_left _).trans hc⟩

/-- What waits first may be sent. -/
theorem Live.justified_node {node client : Socket}
    (h : Live history node client (frame :: toNode) toClient) :
    Justified host history (.sent node frame) := by
  obtain ⟨since, hsession, hnode, -⟩ := h
  have hfirst : [frame].Sublist (frame :: toNode) := List.singleton_sublist.mpr List.mem_cons_self
  exact ⟨node, client, since, hsession, Or.inl ⟨rfl, (hfirst.append_left _).trans hnode⟩⟩

theorem Live.justified_client {node client : Socket}
    (h : Live history node client toNode (frame :: toClient)) :
    Justified host history (.sent client frame) := by
  obtain ⟨since, hsession, -, hclient⟩ := h
  have hfirst : [frame].Sublist (frame :: toClient) := List.singleton_sublist.mpr List.mem_cons_self
  exact ⟨node, client, since, hsession, Or.inr ⟨rfl, (hfirst.append_left _).trans hclient⟩⟩

/-! ### Links -/

/-- The part of a node's state that pairing depends on. -/
structure NodeLink where
  phase : Phase
  nodeId : Option String
  client : Option Socket
  pending : Option PendingAuthorization
  toClient : Option (Socket × List Frame)

/-- What pairing sees of a client. -/
structure ClientLink where
  phase : Phase
  node : Option Socket
  toNode : Option (Socket × List Frame)

namespace NodeLink

/-- The node has proved who it is. -/
def registered (nodeId : String) (node : NodeLink) : NodeLink :=
  { node with phase := .ready, nodeId := some nodeId }

/-- The node is asked about a client. -/
def asking (pending : PendingAuthorization) (node : NodeLink) : NodeLink :=
  { node with phase := .authorizing, pending := some pending }

/-- The node has answered, or its client is gone. -/
def notAsking (node : NodeLink) : NodeLink := { node with phase := .ready, pending := none }

def pairedWith (client : Socket) (node : NodeLink) : NodeLink :=
  ⟨.paired, node.nodeId, some client, none, some (client, [])⟩

/-- The node is ready for another client. -/
def parted (node : NodeLink) : NodeLink :=
  { node with phase := .ready, client := none, toClient := none }

end NodeLink

namespace ClientLink

/-- The client waits for the node's answer. -/
def waiting (node : Socket) (client : ClientLink) : ClientLink :=
  { client with phase := .authorizing, node := some node }

def pairedWith (node : Socket) : ClientLink := ⟨.paired, some node, some (node, [])⟩

end ClientLink

/-- A socket of either role. -/
inductive Link where
  | node (link : NodeLink)
  | client (link : ClientLink)

variable {link : Link}

namespace Link

/-- The frames on their way to the partner. -/
def queue : Link → Option (Socket × List Frame)
  | node link => link.toClient
  | client link => link.toNode

def setQueue (queue : Socket × List Frame) : Link → Link
  | node link => .node { link with toClient := some queue }
  | client link => .client { link with toNode := some queue }

theorem setQueue_of_queue {queue : Socket × List Frame} (h : link.queue = some queue) :
    link.setQueue queue = link := by
  cases link with
  | node link =>
    obtain ⟨phase, nodeId, client, pending, toClient⟩ := link
    cases h
    rfl
  | client link =>
    obtain ⟨phase, node, toNode⟩ := link
    cases h
    rfl

/-- A socket that has just been accepted. -/
def fresh : PiTunnelRole → Link
  | .node => .node ⟨.handshake, none, none, none, none⟩
  | .client => .client ⟨.handshake, none, none⟩

end Link

/-- The server, as far as pairing goes. -/
structure Pairing where
  link : Socket → Option Link
  registered : String → Option Socket
  accepted : Nat
  history : List Entry

namespace Pairing

def note (entry : Entry) (p : Pairing) : Pairing := { p with history := p.history ++ [entry] }

def set (socket : Socket) (link : Option Link) (p : Pairing) : Pairing :=
  { p with link := Function.update p.link socket link }

/-- No node has a client as its partner or waits to be allowed to take it. -/
def Unclaimed (p : Pairing) (client : Socket) : Prop :=
  ∀ n node, p.link n = some (.node node) →
    node.client ≠ some client ∧ node.pending.map (·.client) ≠ some client

/-- The id of a node is free again. -/
def unregister (nodeId : Option String) (n : Socket) (p : Pairing) : Pairing :=
  let registered := fun id =>
    if nodeId = some id ∧ p.registered id = some n then none else p.registered id
  { p with registered := registered }

/-- A node is closed and no longer registered. -/
def closeNode (n : Socket) (node : NodeLink) (p : Pairing) : Pairing :=
  (p.unregister node.nodeId n).set n none

end Pairing

/-- The changes that the events of a server are made of. -/
inductive Move (host : Host) (p : Pairing) : Pairing → Prop where
  | note {entry : Entry} (hplain : entry.isPlain = true)
      (hasked : ∀ n c requestId, entry ≠ .requested n c requestId)
      (hend : ∀ n node, entry = .control n .clientDisconnected →
        p.link n = some (.node node) → node.client = none) : Move host p (p.note entry)
  | accept (role : PiTunnelRole) :
      Move host p ({ p with accepted := p.accepted + 1 }.set p.accepted (some (.fresh role)))
  | register {n : Socket} {node : NodeLink} {nodeId : String}
      (hnode : p.link n = some (.node node)) (hphase : node.phase = .handshake)
      (hfree : p.registered nodeId = none) :
      Move host p
        ({ p with registered := Function.update p.registered nodeId (some n) }.set n
          (some (.node (node.registered nodeId))))
  | request {n c : Socket} {node : NodeLink} {client : ClientLink} (requestId : String)
      (hnode : p.link n = some (.node node)) (hready : node.phase = .ready)
      (hclient : p.link c = some (.client client)) (hphase : client.phase = .handshake) :
      Move host p
        (((p.set c (some (.client (client.waiting n)))).set n
          (some (.node (node.asking ⟨requestId, c⟩)))).note (.requested n c requestId))
  | drop {n : Socket} {node : NodeLink} (hnode : p.link n = some (.node node))
      (hpending : node.pending.isSome) : Move host p (p.set n (some (.node node.notAsking)))
  | forget {c : Socket} {client : ClientLink} (hclient : p.link c = some (.client client))
      (hphase : client.phase = .authorizing) (hunclaimed : p.Unclaimed c) :
      Move host p (p.set c (some (.client { client with node := none })))
  | pair {n c : Socket} {node : NodeLink} {client : ClientLink} {earlier : List Entry}
      {data : Frame} {payload : ModelAccess.Json} {requestId : String}
      (hnode : p.link n = some (.node node)) (hpending : node.pending = some ⟨requestId, c⟩)
      (hclient : p.link c = some (.client client)) (hphase : client.phase = .authorizing)
      (hhistory : p.history = earlier ++ [.received n data false, .control c (.ready .client)])
      (hparse : host.parseJson data = some payload)
      (hanswer : parseAuthorizationResult payload = .ok ⟨requestId, true⟩) :
      Move host p
        (((p.set n (some (.node (node.pairedWith c)))).set c
          (some (.client (.pairedWith n)))).note (.announced n c))
  | arrive {s target : Socket} {link : Link} {queue : List Frame} (frame : Frame)
      (hlink : p.link s = some link) (hqueue : link.queue = some (target, queue)) :
      Move host p ((p.set s (some (link.setQueue (target, queue ++ [frame])))).note
        (.received s frame true))
  | deliver {s target : Socket} {link other : Link} {queue : List Frame} {frame : Frame}
      (hlink : p.link s = some link) (hqueue : link.queue = some (target, frame :: queue))
      (htarget : p.link target = some other) :
      Move host p ((p.set s (some (link.setQueue (target, queue)))).note (.sent target frame))
  | clear {s target : Socket} {link : Link} {queue : List Frame}
      (hlink : p.link s = some link) (hqueue : link.queue = some (target, queue)) :
      Move host p (p.set s (some (link.setQueue (target, []))))
  | leave {c : Socket} {client : ClientLink} (hclient : p.link c = some (.client client))
      (hunclaimed : p.Unclaimed c) : Move host p (p.set c none)
  | part {n c : Socket} {node : NodeLink} {client : ClientLink}
      (hnode : p.link n = some (.node node)) (hpartner : node.client = some c)
      (hclient : p.link c = some (.client client)) :
      Move host p ((p.set n (some (.node node.parted))).set c none)
  | close {n : Socket} {node : NodeLink} (hnode : p.link n = some (.node node)) :
      Move host p (p.closeNode n node)

/-! ### The invariant -/

/-- What holds of a node `n`. -/
structure NodeInv (p : Pairing) (n : Socket) (node : NodeLink) : Prop where
  handshake : node.phase = .handshake ↔ node.nodeId = none
  registered : ∀ nodeId, node.nodeId = some nodeId → p.registered nodeId = some n
  paired : node.phase = .paired → node.client.isSome
  queue : node.toClient.isSome → node.client.isSome
  partner : ∀ c, node.client = some c → node.phase = .paired ∧ ∃ toClient toNode,
    node.toClient = some (c, toClient) ∧
      p.link c = some (.client ⟨.paired, some n, some (n, toNode)⟩) ∧
      Live p.history n c toNode toClient
  pending : ∀ requestId c, node.pending = some ⟨requestId, c⟩ → node.phase = .authorizing ∧
    (∃ client, p.link c = some (.client client) ∧ client.phase = .authorizing ∧
      client.node = some n) ∧
    .requested n c requestId ∈ p.history

/-- What holds of a client `c`. -/
structure ClientInv (p : Pairing) (c : Socket) (client : ClientLink) : Prop where
  node : ∀ n, client.node = some n → n < p.accepted ∧
    ∀ link, p.link n = some link → ∃ node, link = .node node
  paired : client.phase = .paired → ∃ n toNode, client.node = some n ∧
    client.toNode = some (n, toNode) ∧ .announced n c ∈ p.history ∧
    ∀ node, p.link n = some (.node node) → node.client = some c
  unpaired : client.phase ≠ .paired →
    client.toNode = none ∧ ∀ n, .announced n c ∉ p.history

/-- Every socket is paired as the history of the server justifies. -/
structure Inv (host : Host) (p : Pairing) : Prop where
  bound : ∀ s link, p.link s = some link → s < p.accepted
  announced : ∀ n c, .announced n c ∈ p.history → c < p.accepted
  registered : ∀ nodeId n, p.registered nodeId = some n →
    ∃ node, p.link n = some (.node node) ∧ node.nodeId = some nodeId
  node : ∀ n node, p.link n = some (.node node) → NodeInv p n node
  client : ∀ c client, p.link c = some (.client client) → ClientInv p c client
  justified : AllJustified host p.history

namespace Pairing

@[simp] theorem link_set (p : Pairing) (s : Socket) (link : Option Link) (k : Socket) :
    (p.set s link).link k = if k = s then link else p.link k := Function.update_apply ..

@[simp] theorem link_note (p : Pairing) (entry : Entry) : (p.note entry).link = p.link := rfl

@[simp] theorem history_set (p : Pairing) (s : Socket) (link : Option Link) :
    (p.set s link).history = p.history := rfl

@[simp] theorem registered_set (p : Pairing) (s : Socket) (link : Option Link) :
    (p.set s link).registered = p.registered := rfl

@[simp] theorem accepted_set (p : Pairing) (s : Socket) (link : Option Link) :
    (p.set s link).accepted = p.accepted := rfl

end Pairing

namespace NodeInv

variable {p p' : Pairing} {n : Socket} {node : NodeLink}

theorem client_eq_none (h : NodeInv p n node) (hphase : node.phase ≠ .paired) :
    node.client = none := by
  cases hc : node.client with
  | none => rfl
  | some c => exact absurd (h.partner c hc).1 hphase

theorem pending_eq_none (h : NodeInv p n node) (hphase : node.phase ≠ .authorizing) :
    node.pending = none := by
  cases hc : node.pending with
  | none => rfl
  | some pending => exact absurd (h.pending _ _ hc).1 hphase

theorem nodeId_ne_none (h : NodeInv p n node) (hphase : node.phase ≠ .handshake) :
    node.nodeId ≠ none :=
  fun hnone => hphase (h.handshake.mpr hnone)

/-- The partner of a node is paired with it. -/
theorem partner_of {c : Socket} {client : ClientLink} (h : NodeInv p n node)
    (hclient : p.link c = some (.client client)) (hpartner : node.client = some c) :
    client.phase = .paired ∧ client.node = some n := by
  obtain ⟨-, _, _, -, hsame, -⟩ := h.partner c hpartner
  cases hclient.symm.trans hsame
  exact ⟨rfl, rfl⟩

/-- The client that a node is asked about waits for it. -/
theorem pending_of {c : Socket} {client : ClientLink} (h : NodeInv p n node)
    (hclient : p.link c = some (.client client)) (hpending : node.pending.map (·.client) = some c) :
    client.phase = .authorizing ∧ client.node = some n := by
  obtain ⟨⟨requestId, _⟩, hasked, rfl⟩ := Option.map_eq_some_iff.mp hpending
  obtain ⟨-, ⟨_, hsame, hwait, hof⟩, -⟩ := h.pending requestId _ hasked
  cases hclient.symm.trans hsame
  exact ⟨hwait, hof⟩

/-- A node keeps its invariant when its id stays registered, the clients that it takes or is asked
about keep their links and its session goes on. -/
theorem congr (h : NodeInv p n node)
    (hregistered : ∀ nodeId, node.nodeId = some nodeId → p'.registered nodeId = some n)
    (hlink : ∀ c client, node.client = some c ∨ node.pending.map (·.client) = some c →
      p.link c = some (.client client) → p'.link c = p.link c)
    (hlive : ∀ c a b, node.client = some c → Live p.history n c a b → Live p'.history n c a b)
    (hkeep : ∀ c r, .requested n c r ∈ p.history → .requested n c r ∈ p'.history) :
    NodeInv p' n node := by
  refine ⟨h.handshake, hregistered, h.paired, h.queue, fun c hc => ?_, fun requestId c hc => ?_⟩
  · obtain ⟨hphase, toClient, toNode, hqueue, hclient, hsession⟩ := h.partner c hc
    have hsame := hlink c _ (Or.inl hc) hclient
    exact ⟨hphase, toClient, toNode, hqueue, hsame.trans hclient, hlive c _ _ hc hsession⟩
  · obtain ⟨hphase, ⟨client, hclient, hwait, hnode⟩, hasked⟩ := h.pending requestId c hc
    have hsame := hlink c _ (Or.inr (by simp [hc])) hclient
    exact ⟨hphase, ⟨client, hsame.trans hclient, hwait, hnode⟩, hkeep c requestId hasked⟩

end NodeInv

variable {p p' : Pairing} {c : Socket}

/-- A client keeps its invariant when its node goes, or keeps it as its client. -/
theorem ClientInv.congr {client : ClientLink} (h : ClientInv p c client)
    (haccepted : p.accepted ≤ p'.accepted)
    (hnode : ∀ n link, client.node = some n → p'.link n = some link → ∃ node, link = .node node ∧
      (client.phase = .paired → node.client = some c))
    (hannounced : ∀ n, .announced n c ∈ p'.history ↔ .announced n c ∈ p.history) :
    ClientInv p' c client := by
  refine ⟨fun n hn => ⟨(h.node n hn).1.trans_le haccepted, fun link hlink => ?_⟩, fun hphase => ?_,
    fun hphase => ⟨(h.unpaired hphase).1, fun n hmem => ?_⟩⟩
  · obtain ⟨node, hlink, -⟩ := hnode n link hn hlink
    exact ⟨node, hlink⟩
  · obtain ⟨n, toNode, hn, hqueue, hmem, -⟩ := h.paired hphase
    refine ⟨n, toNode, hn, hqueue, (hannounced n).mpr hmem, fun node hlink => ?_⟩
    obtain ⟨_, hsame, hclient⟩ := hnode n _ hn hlink
    cases hsame
    exact hclient hphase
  · exact (h.unpaired hphase).2 n ((hannounced n).mp hmem)

variable {n : Socket}

/-- What the invariant of a client says about its node. -/
theorem ClientInv.node_link {client : ClientLink} (h : ClientInv p c client)
    (hn : client.node = some n) (hlink : p.link n = some link) : ∃ node, link = .node node ∧
      (client.phase = .paired → node.client = some c) := by
  obtain ⟨node, rfl⟩ := (h.node n hn).2 link hlink
  refine ⟨node, rfl, fun hphase => ?_⟩
  obtain ⟨n', toNode, hn', -, -, hpartner⟩ := h.paired hphase
  cases hn.symm.trans hn'
  exact hpartner node hlink

variable {s : Socket}

namespace Inv

variable {host : Host} {p : Pairing}

variable {node : NodeLink}

theorem ne_of_links {client : ClientLink} (hnode : p.link n = some (.node node))
    (hclient : p.link c = some (.client client)) : c ≠ n := by
  rintro rfl
  cases hnode.symm.trans hclient

theorem note (h : Inv host p) {entry : Entry} (hplain : entry.isPlain = true)
    (hend : ∀ n node, entry = .control n .clientDisconnected →
      p.link n = some (.node node) → node.client = none) : Inv host (p.note entry) := by
  have hannounced : ∀ n c, .announced n c ∈ (p.note entry).history ↔
      .announced n c ∈ p.history := by
    refine fun n c => ⟨fun hmem => ?_, List.mem_append_left _⟩
    rcases List.mem_append.mp hmem with hmem | hmem
    · exact hmem
    · cases List.mem_singleton.mp hmem
      cases hplain
  refine ⟨h.bound, fun n c hmem => h.announced n c ((hannounced n c).mp hmem), h.registered,
    fun n node hn => ?_, fun c client hc => ?_, h.justified.append (justified_of_plain _ _ hplain)⟩
  · refine (h.node n node hn).congr (h.node n node hn).registered (fun _ _ _ _ => rfl)
      (fun c a b hc hlive => hlive.plain hplain ?_) fun _ _ => List.mem_append_left _
    intro hcontrol
    exact absurd (hend n node hcontrol hn) (by simp [hc])
  · exact (h.client c client hc).congr le_rfl
      (fun n link hn hlink => (h.client c client hc).node_link hn hlink) fun n => hannounced n c

theorem accept (h : Inv host p) (role : PiTunnelRole) :
    Inv host ({ p with accepted := p.accepted + 1 }.set p.accepted (some (.fresh role))) := by
  have hold : ∀ k link, p.link k = some link → k ≠ p.accepted := fun k link hk =>
    (h.bound k link hk).ne
  refine ⟨fun s link hs => ?_, fun n c hmem => (h.announced n c hmem).trans (Nat.lt_succ_self _),
    fun nodeId n hn => ?_, fun n node hn => ?_, fun c client hc => ?_, h.justified⟩
  · rw [Pairing.link_set] at hs
    split_ifs at hs with heq
    · exact heq ▸ Nat.lt_succ_self _
    · exact (h.bound s link hs).trans (Nat.lt_succ_self _)
  · obtain ⟨node, hlink, hid⟩ := h.registered nodeId n hn
    exact ⟨node, by simpa [hold n _ hlink] using hlink, hid⟩
  · rw [Pairing.link_set] at hn
    split_ifs at hn
    · cases role with
      | client => cases hn
      | node =>
        cases hn
        exact ⟨⟨fun _ => rfl, fun _ => rfl⟩, nofun, nofun, nofun, nofun, nofun⟩
    · have hnode := h.node n node hn
      refine hnode.congr hnode.registered (fun c client _ hlink => ?_) (fun _ _ _ _ => id)
        fun _ _ => id
      simp [hold c _ hlink]
  · rw [Pairing.link_set] at hc
    split_ifs at hc with heq
    · cases role with
      | node => cases hc
      | client =>
        cases hc
        refine ⟨nofun, nofun, fun _ => ⟨rfl, fun n hmem => ?_⟩⟩
        exact absurd (h.announced n c hmem) (by simp [heq])
    · have hclient := h.client c client hc
      refine hclient.congr (Nat.le_succ _) (fun n link hn hlink => ?_) fun _ => Iff.rfl
      have hne : n ≠ p.accepted := (hclient.node n hn).1.ne
      rw [Pairing.link_set, if_neg hne] at hlink
      exact hclient.node_link hn hlink

/-- A node is changed but keeps its client. -/
theorem setNode (h : Inv host p) {n : Socket} {node node' : NodeLink}
    {registered : String → Option Socket} (hnode : p.link n = some (.node node))
    (hclient : node'.client = node.client)
    (hregistered : ∀ nodeId m, registered nodeId = some m ↔
      (m = n ∧ node'.nodeId = some nodeId) ∨ (m ≠ n ∧ p.registered nodeId = some m))
    (hinv : NodeInv ({ p with registered := registered }.set n (some (.node node'))) n node') :
    Inv host ({ p with registered := registered }.set n (some (.node node'))) := by
  refine ⟨fun s link hs => ?_, h.announced, fun nodeId m hm => ?_, fun m other hm => ?_,
    fun c client hc => ?_, h.justified⟩
  · rw [Pairing.link_set] at hs
    split_ifs at hs with heq
    · exact heq ▸ h.bound n _ hnode
    · exact h.bound s link hs
  · rcases (hregistered nodeId m).mp hm with ⟨rfl, hid⟩ | ⟨hne, hold⟩
    · exact ⟨node', by simp, hid⟩
    · obtain ⟨other, hlink, hid⟩ := h.registered nodeId m hold
      exact ⟨other, by simpa [hne] using hlink, hid⟩
  · rw [Pairing.link_set] at hm
    split_ifs at hm with heq
    · cases hm
      exact heq ▸ hinv
    · have hother := h.node m other hm
      refine hother.congr (fun nodeId hid => ?_) (fun c client _ hlink => ?_) (fun _ _ _ _ => id)
        fun _ _ => id
      · exact (hregistered nodeId m).mpr (Or.inr ⟨heq, hother.registered nodeId hid⟩)
      · simp [ne_of_links hnode hlink]
  · rw [Pairing.link_set] at hc
    split_ifs at hc
    · cases hc
    · have hold := h.client c client hc
      refine hold.congr le_rfl (fun m link hm hlink => ?_) fun _ => Iff.rfl
      rw [Pairing.link_set] at hlink
      split_ifs at hlink with heq
      · cases hlink
        obtain ⟨_, hsame, hpartner⟩ := hold.node_link hm (heq ▸ hnode)
        cases hsame
        exact ⟨node', rfl, fun hphase => hclient.trans (hpartner hphase)⟩
      · exact hold.node_link hm hlink

theorem register (h : Inv host p) {n : Socket} {node : NodeLink} {nodeId : String}
    (hnode : p.link n = some (.node node)) (hphase : node.phase = .handshake)
    (hfree : p.registered nodeId = none) :
    Inv host ({ p with registered := Function.update p.registered nodeId (some n) }.set n
      (some (.node (node.registered nodeId)))) := by
  have hself := h.node n node hnode
  have hnoClient : node.client = none := hself.client_eq_none (by simp [hphase])
  have hnoPending : node.pending = none := hself.pending_eq_none (by simp [hphase])
  have hnotRegistered : ∀ id m, p.registered id = some m → m ≠ n := by
    rintro id m hm rfl
    obtain ⟨_, hlink, hid⟩ := h.registered id m hm
    cases hnode.symm.trans hlink
    cases (hself.handshake.mp hphase).symm.trans hid
  refine h.setNode hnode rfl (fun id m => ?_) ⟨⟨nofun, nofun⟩, fun id hid => ?_, nofun, hself.queue,
    fun c hc => ?_, fun r c hc => ?_⟩
  · rw [Function.update_apply]
    by_cases heq : id = nodeId
    · subst heq
      simp [NodeLink.registered, hfree, eq_comm]
    · have hne : some nodeId ≠ some id := fun h' => heq (Option.some.inj h').symm
      simp only [if_neg heq, NodeLink.registered, hne, and_false, false_or]
      exact ⟨fun hm => ⟨hnotRegistered id m hm, hm⟩, And.right⟩
  · cases hid
    simp
  · exact absurd hc (by simp [NodeLink.registered, hnoClient])
  · exact absurd hc (by simp [NodeLink.registered, hnoPending])

/-- The registrations, told apart by whether they are those of a node that keeps its id. -/
theorem registered_iff (h : Inv host p) {node' : NodeLink} (hnode : p.link n = some (.node node))
    (hsame : node'.nodeId = node.nodeId) {nodeId : String} {m : Socket} :
    p.registered nodeId = some m ↔
      (m = n ∧ node'.nodeId = some nodeId) ∨ (m ≠ n ∧ p.registered nodeId = some m) := by
  constructor
  · intro hm
    by_cases heq : m = n
    · subst heq
      obtain ⟨_, hlink, hother⟩ := h.registered nodeId m hm
      cases hnode.symm.trans hlink
      exact Or.inl ⟨rfl, hsame.trans hother⟩
    · exact Or.inr ⟨heq, hm⟩
  · rintro (⟨rfl, hown⟩ | ⟨-, hm⟩)
    · exact (h.node m node hnode).registered nodeId (hsame.symm.trans hown)
    · exact hm

theorem drop (h : Inv host p) (hnode : p.link n = some (.node node))
    (hpending : node.pending.isSome) : Inv host (p.set n (some (.node node.notAsking))) := by
  have hself := h.node n node hnode
  obtain ⟨pending, hsome⟩ := Option.isSome_iff_exists.mp hpending
  have hphase : node.phase = .authorizing := (hself.pending _ _ hsome).1
  have hnoClient : node.client = none := hself.client_eq_none (by simp [hphase])
  have hid := hself.nodeId_ne_none (by simp [hphase])
  refine @setNode host p h n node node.notAsking p.registered hnode rfl
    (fun _ _ => h.registered_iff hnode rfl)
    ⟨⟨nofun, fun hnone => absurd hnone hid⟩, hself.registered, nofun, hself.queue, fun c hc => ?_,
      nofun⟩
  exact absurd hc (by simp [NodeLink.notAsking, hnoClient])

/-- A client that no node takes or is asked about is changed or removed. -/
theorem setClient (h : Inv host p) {client : ClientLink} (client' : Option ClientLink)
    (hclient : p.link c = some (.client client)) (hunclaimed : p.Unclaimed c)
    (hinv : ∀ new, client' = some new → ClientInv (p.set c (some (.client new))) c new) :
    Inv host (p.set c (client'.map .client)) := by
  refine ⟨fun s link hs => ?_, h.announced, fun nodeId n hn => ?_, fun n node hn => ?_,
    fun k other hk => ?_, h.justified⟩
  · rw [Pairing.link_set] at hs
    split_ifs at hs with heq
    · exact heq ▸ h.bound c _ hclient
    · exact h.bound s link hs
  · obtain ⟨node, hlink, hid⟩ := h.registered nodeId n hn
    have hne : n ≠ c := fun heq => ne_of_links hlink hclient heq.symm
    exact ⟨node, by simpa [hne] using hlink, hid⟩
  · rw [Pairing.link_set] at hn
    split_ifs at hn
    · cases hnew : client' <;> simp [hnew] at hn
    · have hnode := h.node n node hn
      refine hnode.congr hnode.registered (fun k other hk hlink => ?_) (fun _ _ _ _ => id)
        fun _ _ => id
      have hne : k ≠ c := by
        rintro rfl
        rcases hk with hk | hk
        · exact (hunclaimed n node hn).1 hk
        · exact (hunclaimed n node hn).2 hk
      simp [hne]
  · rw [Pairing.link_set] at hk
    split_ifs at hk with heq
    · obtain ⟨new, rfl, hsame⟩ := Option.map_eq_some_iff.mp hk
      cases hsame
      exact heq ▸ hinv other rfl
    · have hold := h.client k other hk
      refine hold.congr le_rfl (fun m link hm hlink => ?_) fun _ => Iff.rfl
      rw [Pairing.link_set] at hlink
      split_ifs at hlink with hmc
      · obtain ⟨_, hsame, -⟩ := hold.node_link hm (hmc ▸ hclient)
        cases hsame
      · exact hold.node_link hm hlink

theorem request (h : Inv host p) {n c : Socket} {node : NodeLink} {client : ClientLink}
    (requestId : String) (hnode : p.link n = some (.node node)) (hready : node.phase = .ready)
    (hclient : p.link c = some (.client client)) (hphase : client.phase = .handshake) :
    Inv host (((p.set c (some (.client (client.waiting n)))).set n
      (some (.node (node.asking ⟨requestId, c⟩)))).note (.requested n c requestId)) := by
  have hself := h.node n node hnode
  have hown := h.client c client hclient
  have hne := ne_of_links hnode hclient
  have hunclaimed : p.Unclaimed c := by
    intro m other hm
    have hother := h.node m other hm
    constructor
    · intro hc
      cases hphase.symm.trans (hother.partner_of hclient hc).1
    · intro hc
      cases hphase.symm.trans (hother.pending_of hclient hc).1
  -- first the client waits, then the request is written down, last the node has it pending
  have hwaiting : Inv host (p.set c (some (.client (client.waiting n)))) := by
    refine h.setClient (some (client.waiting n)) hclient hunclaimed fun new hnew => ?_
    cases hnew
    have hunpaired := hown.unpaired (by simp [hphase])
    refine ⟨fun m hm => ?_, nofun, fun _ => hunpaired⟩
    cases hm
    refine ⟨h.bound n _ hnode, fun link hlink => ?_⟩
    rw [Pairing.link_set, if_neg hne.symm, hnode] at hlink
    cases hlink
    exact ⟨node, rfl⟩
  have hnoted := @note host _ hwaiting (.requested n c requestId) rfl (by simp)
  have hnode' : ((p.set c (some (.client (client.waiting n)))).note
      (.requested n c requestId)).link n = some (.node node) := by simp [hne.symm, hnode]
  have hid := hself.nodeId_ne_none (by simp [hready])
  refine @setNode host _ hnoted n node (node.asking ⟨requestId, c⟩) p.registered hnode' rfl
    (fun _ _ => h.registered_iff hnode rfl) ⟨⟨nofun, fun hnone => absurd hnone hid⟩,
      hself.registered, nofun, hself.queue, fun k hk => ?_, fun r k hk => ?_⟩
  · exact absurd hk (by simp [NodeLink.asking, hself.client_eq_none (by simp [hready])])
  · cases hk
    refine ⟨rfl, ⟨client.waiting n, by simp [hne], rfl, rfl⟩, ?_⟩
    exact List.mem_append_right _ List.mem_cons_self

theorem forget (h : Inv host p) {client : ClientLink} (hclient : p.link c = some (.client client))
    (hphase : client.phase = .authorizing) (hunclaimed : p.Unclaimed c) :
    Inv host (p.set c (some (.client { client with node := none }))) := by
  refine h.setClient (some { client with node := none }) hclient hunclaimed fun new hnew => ?_
  cases hnew
  have hunpaired := (h.client c client hclient).unpaired (by simp [hphase])
  refine ⟨nofun, fun hpaired => ?_, fun _ => hunpaired⟩
  cases hphase.symm.trans hpaired

theorem leave (h : Inv host p) {client : ClientLink} (hclient : p.link c = some (.client client))
    (hunclaimed : p.Unclaimed c) : Inv host (p.set c none) :=
  h.setClient none hclient hunclaimed nofun

/-- A node and its client are parted, and the client is gone. -/
theorem part (h : Inv host p) {n c : Socket} {node : NodeLink} {client : ClientLink}
    (hnode : p.link n = some (.node node)) (hpartner : node.client = some c)
    (hclient : p.link c = some (.client client)) :
    Inv host ((p.set n (some (.node node.parted))).set c none) := by
  have hself := h.node n node hnode
  have hne := ne_of_links hnode hclient
  obtain ⟨hphase, _, _, -, hsame, -⟩ := hself.partner c hpartner
  cases hclient.symm.trans hsame
  have hnoPending : node.pending = none := hself.pending_eq_none (by simp [hphase])
  have hid := hself.nodeId_ne_none (by simp [hphase])
  refine ⟨fun s link hs => ?_, h.announced, fun nodeId m hm => ?_, fun m other hm => ?_,
    fun k other hk => ?_, h.justified⟩
  · simp only [Pairing.link_set] at hs
    split_ifs at hs with _ heq
    · exact heq ▸ h.bound n _ hnode
    · exact h.bound s link hs
  · obtain ⟨other, hlink, hother⟩ := h.registered nodeId m hm
    have hmc : m ≠ c := (ne_of_links hlink hclient).symm
    by_cases heq : m = n
    · subst heq
      cases hnode.symm.trans hlink
      exact ⟨node.parted, by simp [hmc], hother⟩
    · exact ⟨other, by simpa [hmc, heq] using hlink, hother⟩
  · simp only [Pairing.link_set] at hm
    split_ifs at hm with _ heq
    · cases hm
      subst heq
      refine ⟨⟨nofun, fun hnone => absurd hnone hid⟩, hself.registered, nofun, nofun, nofun,
        fun r k hk => ?_⟩
      exact absurd hk (by simp [NodeLink.parted, hnoPending])
    · have hother := h.node m other hm
      refine hother.congr hother.registered (fun k _ hk hlink => ?_) (fun _ _ _ _ => id)
        fun _ _ => id
      have hkc : k ≠ c := by
        rintro rfl
        rcases hk with hk | hk
        · cases (hother.partner_of hclient hk).2
          exact heq rfl
        · cases (hother.pending_of hclient hk).1
      simp [hkc, ne_of_links hnode hlink]
  · -- another client: only the parted node has changed, and that one was not its partner
    simp only [Pairing.link_set] at hk
    split_ifs at hk with hkc
    · cases hk
    have hold := h.client k other hk
    refine hold.congr le_rfl (fun m link hm hlink => ?_) fun _ => Iff.rfl
    simp only [Pairing.link_set] at hlink
    split_ifs at hlink with _ heq
    · cases hlink
      subst heq
      obtain ⟨_, hsame, hown⟩ := hold.node_link hm hnode
      cases hsame
      refine ⟨node.parted, rfl, fun hpaired => ?_⟩
      cases hpartner.symm.trans (hown hpaired)
      exact absurd rfl hkc
    · exact hold.node_link hm hlink

/-- No other node takes the client that a node is asked about, or is asked about it. -/
theorem pending_unclaimed (h : Inv host p) {client : ClientLink} {requestId : String}
    (hnode : p.link n = some (.node node)) (hpending : node.pending = some ⟨requestId, c⟩)
    (hclient : p.link c = some (.client client)) {m : Socket} {other : NodeLink}
    (hother : p.link m = some (.node other)) (hne : m ≠ n) :
    other.client ≠ some c ∧ other.pending.map (·.client) ≠ some c := by
  obtain ⟨hphase, hasked⟩ := (h.node n node hnode).pending_of hclient (by simp [hpending])
  constructor
  · intro hc
    cases hphase.symm.trans ((h.node m other hother).partner_of hclient hc).1
  · intro hc
    cases hasked.symm.trans ((h.node m other hother).pending_of hclient hc).2
    exact hne rfl

section

variable {client : ClientLink} {requestId : String} (h : Inv host p)
  (hnode : p.link n = some (.node node)) (hpending : node.pending = some ⟨requestId, c⟩)
  (hclient : p.link c = some (.client client))
include h hnode hpending hclient

/-- The nodes after a pairing: the one has the client now, and nothing changes for the others. -/
theorem pair_node {m : Socket} {other : NodeLink}
    (hm : (((p.set n (some (.node (node.pairedWith c)))).set c
      (some (.client (.pairedWith n)))).note (.announced n c)).link m = some (.node other)) :
    NodeInv (((p.set n (some (.node (node.pairedWith c)))).set c
      (some (.client (.pairedWith n)))).note (.announced n c)) m other := by
  have hself := h.node n node hnode
  have hid := hself.nodeId_ne_none (by simp [(hself.pending requestId c hpending).1])
  simp only [Pairing.link_note, Pairing.link_set] at hm
  split_ifs at hm with hmc heq
  · cases hm
  · -- its session starts with the announcement, so no frame waits
    cases hm
    subst heq
    refine ⟨⟨nofun, fun hnone => absurd hnone hid⟩, hself.registered, fun _ => rfl, fun _ => rfl,
      fun k hk => ?_, nofun⟩
    cases hk
    exact ⟨rfl, [], [], rfl, by simp [ClientLink.pairedWith], Live.start p.history m c⟩
  · have hm' := h.node m other hm
    obtain ⟨hnotClient, hnotPending⟩ := h.pending_unclaimed hnode hpending hclient hm heq
    refine hm'.congr hm'.registered (fun k _ hk hlink => ?_) (fun k a b hk hlive => ?_)
      fun _ _ => List.mem_append_left _
    · have hkc : k ≠ c := by
        rintro rfl
        exact hk.elim hnotClient hnotPending
      simp [hkc, ne_of_links hnode hlink]
    · refine hlive.append (fun other h => heq ?_) (by simp) (by simp)
      exact (Entry.announced.inj h).1.symm

/-- The clients after a pairing: the one has the node now, and nothing changes for the others. -/
theorem pair_client {k : Socket} {other : ClientLink}
    (hk : (((p.set n (some (.node (node.pairedWith c)))).set c
      (some (.client (.pairedWith n)))).note (.announced n c)).link k = some (.client other)) :
    ClientInv (((p.set n (some (.node (node.pairedWith c)))).set c
      (some (.client (.pairedWith n)))).note (.announced n c)) k other := by
  have hself := h.node n node hnode
  have hne := ne_of_links hnode hclient
  simp only [Pairing.link_note, Pairing.link_set] at hk
  split_ifs at hk with hkc hkn
  · cases hk
    subst hkc
    have hmem : .announced n k ∈ p.history ++ [.announced n k] :=
      List.mem_append_right _ List.mem_cons_self
    refine ⟨fun m hm => ?_, fun _ => ⟨n, [], rfl, rfl, hmem, fun other hlink => ?_⟩,
      fun hunpaired => absurd rfl hunpaired⟩
    · cases hm
      exact ⟨h.bound n _ hnode, fun link hlink =>
        ⟨node.pairedWith k, by simpa [hne.symm] using hlink.symm⟩⟩
    · simp only [Pairing.link_note, Pairing.link_set, if_neg hne.symm, if_pos] at hlink
      cases hlink
      rfl
  · cases hk
  · have hold := h.client k other hk
    refine hold.congr le_rfl (fun m link hm hlink => ?_) fun m =>
      ⟨fun hmem => ?_, List.mem_append_left _⟩
    · simp only [Pairing.link_note, Pairing.link_set] at hlink
      split_ifs at hlink with hmc heq
      · subst hmc
        obtain ⟨_, hsame, -⟩ := hold.node_link hm hclient
        cases hsame
      · -- the node was waiting for an answer, so it is nobody's partner
        cases hlink
        subst heq
        obtain ⟨_, hsame, hown⟩ := hold.node_link hm hnode
        cases hsame
        refine ⟨node.pairedWith c, rfl, fun hpaired => ?_⟩
        have hasking := (hself.pending requestId c hpending).1
        have hnoClient := hself.client_eq_none (by simp [hasking])
        exact absurd (hown hpaired) (by simp [hnoClient])
      · exact hold.node_link hm hlink
    · rcases List.mem_append.mp hmem with hmem | hmem
      · exact hmem
      · cases List.mem_singleton.mp hmem
        exact absurd rfl hkc

theorem pair {earlier : List Entry} {data : Frame} {payload : ModelAccess.Json}
    (hphase : client.phase = .authorizing)
    (hhistory : p.history = earlier ++ [.received n data false, .control c (.ready .client)])
    (hparse : host.parseJson data = some payload)
    (hanswer : parseAuthorizationResult payload = .ok ⟨requestId, true⟩) :
    Inv host (((p.set n (some (.node (node.pairedWith c)))).set c
      (some (.client (.pairedWith n)))).note (.announced n c)) := by
  refine ⟨fun s link hs => ?_, fun m k hmem => ?_, fun nodeId m hm => ?_,
    fun m other hm => h.pair_node hnode hpending hclient hm,
    fun k other hk => h.pair_client hnode hpending hclient hk,
    h.justified.append ⟨?_, fun m hmem => ?_⟩⟩
  · simp only [Pairing.link_note, Pairing.link_set] at hs
    split_ifs at hs with hsc heq
    · exact hsc ▸ h.bound c _ hclient
    · exact heq ▸ h.bound n _ hnode
    · exact h.bound s link hs
  · rcases List.mem_append.mp hmem with hmem | hmem
    · exact h.announced m k hmem
    · cases List.mem_singleton.mp hmem
      exact h.bound c _ hclient
  · obtain ⟨other, hlink, hown⟩ := h.registered nodeId m hm
    have hmc : m ≠ c := (ne_of_links hlink hclient).symm
    by_cases heq : m = n
    · subst heq
      cases hnode.symm.trans hlink
      exact ⟨node.pairedWith c, by simp [hmc], hown⟩
    · exact ⟨other, by simpa [hmc, heq] using hlink, hown⟩
  · -- the request is older than the answer, which is the last frame but one
    have hrequested := ((h.node n node hnode).pending requestId c hpending).2.2
    rw [hhistory] at hrequested
    have hearlier : .requested n c requestId ∈ earlier := by simpa using hrequested
    obtain ⟨before, after, rfl⟩ := List.append_of_mem hearlier
    exact ⟨before, after ++ [.received n data false, .control c (.ready .client)], requestId, data,
      payload, by simp [hhistory], by simp, hparse, hanswer⟩
  · exact ((h.client c client hclient).unpaired (by simp [hphase])).2 m hmem

end

theorem close (h : Inv host p) {n : Socket} {node : NodeLink}
    (hnode : p.link n = some (.node node)) :
    Inv host (p.closeNode n node) := by
  have hself := h.node n node hnode
  have hregistered : ∀ nodeId m, (p.closeNode n node).registered nodeId = some m ↔
      p.registered nodeId = some m ∧ m ≠ n := by
    intro nodeId m
    show (if node.nodeId = some nodeId ∧ p.registered nodeId = some n then none
      else p.registered nodeId) = some m ↔ _
    split_ifs with hown
    · rw [hown.2]
      exact ⟨nofun, fun h => absurd (Option.some.inj h.1).symm h.2⟩
    · refine ⟨fun hm => ⟨hm, ?_⟩, And.left⟩
      rintro rfl
      obtain ⟨_, hlink, hid⟩ := h.registered nodeId m hm
      cases hnode.symm.trans hlink
      exact hown ⟨hid, hm⟩
  have hlink : ∀ k, (p.closeNode n node).link k = if k = n then none else p.link k :=
    fun k => Pairing.link_set _ n none k
  refine ⟨fun s link hs => ?_, h.announced, fun nodeId m hm => ?_, fun m other hm => ?_,
    fun c client hc => ?_, h.justified⟩
  · rw [hlink] at hs
    split_ifs at hs
    exact h.bound s link hs
  · obtain ⟨hm, hne⟩ := (hregistered nodeId m).mp hm
    obtain ⟨other, hother, hid⟩ := h.registered nodeId m hm
    exact ⟨other, by rw [hlink, if_neg hne, hother], hid⟩
  · rw [hlink] at hm
    split_ifs at hm with heq
    have hm' := h.node m other hm
    refine hm'.congr (fun nodeId hid => ?_) (fun k _ _ hk => ?_) (fun _ _ _ _ => id) fun _ _ => id
    · exact (hregistered nodeId m).mpr ⟨hm'.registered nodeId hid, heq⟩
    · rw [hlink, if_neg (ne_of_links hnode hk)]
  · rw [hlink] at hc
    split_ifs at hc
    have hold := h.client c client hc
    refine hold.congr le_rfl (fun m link hm hm' => ?_) fun _ => Iff.rfl
    rw [hlink] at hm'
    split_ifs at hm'
    exact hold.node_link hm hm'

/-! ### The queues -/

variable {target : Socket} {queue : List Frame}

/-- Another history, in which all sessions but those of `s` go on and the queue of `s` is changed
from `queue` to `queue'`. -/
structure Requeued (host : Host) (history history' : List Entry) (s target : Socket)
    (queue queue' : List Frame) : Prop where
  fromNode : ∀ toNode, s ≠ target → Live history s target toNode queue →
    Live history' s target toNode queue'
  fromClient : ∀ toClient, s ≠ target → Live history target s queue toClient →
    Live history' target s queue' toClient
  others : ∀ n c toNode toClient, n ≠ s → n ≠ target → c ≠ s → c ≠ target →
    Live history n c toNode toClient → Live history' n c toNode toClient
  asked : ∀ n c requestId, .requested n c requestId ∈ history → .requested n c requestId ∈ history'
  announced : ∀ n c, .announced n c ∈ history' ↔ .announced n c ∈ history
  justified : AllJustified host history → AllJustified host history'

/-- The queue of a socket goes to its partner. -/
theorem queue_partner (h : Inv host p) (hlink : p.link s = some link)
    (hqueue : link.queue = some (target, queue)) :
    (∃ node toNode, link = .node node ∧ node.client = some target ∧
        p.link target = some (.client ⟨.paired, some s, some (s, toNode)⟩) ∧
        Live p.history s target toNode queue) ∨
      (link = .client ⟨.paired, some target, some (target, queue)⟩ ∧
        ∀ other, p.link target = some other → ∃ node toClient, other = .node node ∧
          node.client = some s ∧ node.toClient = some (s, toClient) ∧
          Live p.history target s queue toClient) := by
  cases link with
  | node node =>
    have hnode := h.node s node hlink
    obtain ⟨c, hc⟩ := Option.isSome_iff_exists.mp
      (hnode.queue (Option.isSome_iff_exists.mpr ⟨_, hqueue⟩))
    obtain ⟨-, toClient, toNode, htoClient, hclient, hlive⟩ := hnode.partner c hc
    cases hqueue.symm.trans htoClient
    exact Or.inl ⟨node, toNode, rfl, hc, hclient, hlive⟩
  | client client =>
    have hclient := h.client s client hlink
    have hpaired : client.phase = .paired := by
      by_contra hunpaired
      cases hqueue.symm.trans (hclient.unpaired hunpaired).1
    obtain ⟨n, toNode, hn, htoNode, -, hpartner⟩ := hclient.paired hpaired
    cases hqueue.symm.trans htoNode
    obtain ⟨phase, _, _⟩ := client
    cases hpaired
    cases hn
    cases htoNode
    refine Or.inr ⟨rfl, fun other hother => ?_⟩
    obtain ⟨node, rfl⟩ := (hclient.node target rfl).2 other hother
    have hs := hpartner node hother
    obtain ⟨-, toClient, _, htoClient, hsame, hlive⟩ := (h.node target node hother).partner s hs
    cases hlink.symm.trans hsame
    exact ⟨node, toClient, rfl, hs, htoClient, hlive⟩

section

variable {queue' : List Frame} {history' : List Entry} (h : Inv host p)
  (hlink : p.link s = some link) (hqueue : link.queue = some (target, queue))
  (hre : Requeued host p.history history' s target queue queue')
include h hlink hqueue hre

/-- The nodes after a queue is changed: the one whose queue it is, the one whose client's queue it
is, and the others. -/
theorem requeue_node {n : Socket} {node : NodeLink}
    (hn : (p.set s (some (link.setQueue (target, queue')))).link n = some (.node node)) :
    NodeInv { p.set s (some (link.setQueue (target, queue'))) with history := history' }
      n node := by
  have hlinks : ∀ k, (p.set s (some (link.setQueue (target, queue')))).link k =
      if k = s then some (link.setQueue (target, queue')) else p.link k := p.link_set s _
  have hpartner := h.queue_partner hlink hqueue
  rw [hlinks] at hn
  split_ifs at hn with heq
  · -- the node whose queue it is
    subst heq
    rcases hpartner with ⟨old, toNode, rfl, hc, hclient, hlive⟩ | ⟨rfl, -⟩
    · cases hn
      have hold := h.node n old hlink
      have hne := ne_of_links hlink hclient
      have hphase := (hold.partner target hc).1
      refine ⟨hold.handshake, hold.registered, hold.paired, fun _ => hold.paired hphase,
        fun c hc' => ?_, fun r c hc' => ?_⟩
      · cases hc.symm.trans hc'
        refine ⟨hphase, queue', toNode, rfl, ?_, hre.fromNode toNode hne.symm hlive⟩
        exact ((hlinks target).trans (if_neg hne)).trans hclient
      · cases hphase.symm.trans (hold.pending r c hc').1
    · cases hn
  have hold := h.node n node hn
  refine ⟨hold.handshake, hold.registered, hold.paired, hold.queue, fun c hc => ?_,
    fun r c hc => ?_⟩
  · obtain ⟨hphase, toClient, toNode, htoClient, hclient, hlive⟩ := hold.partner c hc
    by_cases hcs : c = s
    · -- the node whose client's queue it is
      subst hcs
      cases hlink.symm.trans hclient
      cases hqueue
      refine ⟨hphase, toClient, queue', htoClient, ?_,
        hre.fromClient toClient (fun h => heq h.symm) hlive⟩
      exact (hlinks c).trans (if_pos rfl)
    · -- `s` and its target are partners, so this session is neither's
      refine ⟨hphase, toClient, toNode, htoClient,
        ((hlinks c).trans (if_neg hcs)).trans hclient,
        hre.others n c toNode toClient heq ?_ hcs ?_ hlive⟩
      · rintro rfl
        rcases hpartner with ⟨_, _, -, -, hother, -⟩ | ⟨rfl, hother⟩
        · cases hn.symm.trans hother
        · obtain ⟨_, _, hsame, hs, -⟩ := hother _ hn
          cases hsame
          cases hc.symm.trans hs
          exact hcs rfl
      · rintro rfl
        rcases hpartner with ⟨_, _, rfl, hs, hother, -⟩ | ⟨rfl, hother⟩
        · cases hclient.symm.trans hother
          exact heq rfl
        · obtain ⟨_, _, hsame, -⟩ := hother _ hclient
          cases hsame
  · obtain ⟨hphase, ⟨client, hclient, hwait, hof⟩, hasked⟩ := hold.pending r c hc
    have hcs : c ≠ s := by
      rintro rfl
      cases hlink.symm.trans hclient
      rcases hpartner with ⟨_, _, hsame, -⟩ | ⟨hsame, -⟩
      · cases hsame
      · cases hsame
        cases hwait
    exact ⟨hphase, ⟨client, ((hlinks c).trans (if_neg hcs)).trans hclient, hwait, hof⟩,
      hre.asked n c r hasked⟩

/-- The clients after a queue is changed. -/
theorem requeue_client {c : Socket} {client : ClientLink}
    (hc : (p.set s (some (link.setQueue (target, queue')))).link c = some (.client client)) :
    ClientInv { p.set s (some (link.setQueue (target, queue'))) with history := history' }
      c client := by
  have hlinks : ∀ k, (p.set s (some (link.setQueue (target, queue')))).link k =
      if k = s then some (link.setQueue (target, queue')) else p.link k := p.link_set s _
  rw [hlinks] at hc
  split_ifs at hc with heq
  · -- the client whose queue it is
    subst heq
    rcases h.queue_partner hlink hqueue with ⟨_, _, rfl, -⟩ | ⟨rfl, hnode⟩
    · cases hc
    cases hc
    have hold := h.client c _ hlink
    have hkeep : ∀ l, (p.set c (some ((Link.client ⟨.paired, some target,
        some (target, queue)⟩).setQueue (target, queue')))).link target = some l →
        ∃ node, l = .node node ∧ node.client = some c := by
      intro l hl
      rw [hlinks] at hl
      split_ifs at hl with htc
      · subst htc
        obtain ⟨_, _, hsame, -⟩ := hnode _ hlink
        cases hsame
      · obtain ⟨node, _, rfl, hown, -⟩ := hnode l hl
        exact ⟨node, rfl, hown⟩
    have hmem : .announced target c ∈ history' := by
      obtain ⟨_, _, hn, -, hmem, -⟩ := hold.paired rfl
      cases hn
      exact (hre.announced target c).mpr hmem
    refine ⟨fun n hn => ?_, fun _ => ⟨target, queue', rfl, rfl, hmem, fun node hl => ?_⟩,
      fun hunpaired => absurd rfl hunpaired⟩
    · cases hn
      refine ⟨(hold.node target rfl).1, fun l hl => ?_⟩
      obtain ⟨node, hl, -⟩ := hkeep l hl
      exact ⟨node, hl⟩
    · obtain ⟨_, hsame, hown⟩ := hkeep _ hl
      cases hsame
      exact hown
  · have hold := h.client c client hc
    refine hold.congr le_rfl (fun n l hn hl => ?_) fun n => hre.announced n c
    replace hl := (hlinks n).symm.trans hl
    split_ifs at hl with hns
    · subst hns
      cases hl
      obtain ⟨node, rfl, hown⟩ := hold.node_link hn hlink
      exact ⟨_, rfl, hown⟩
    · exact hold.node_link hn hl

theorem requeue :
    Inv host { p.set s (some (link.setQueue (target, queue'))) with history := history' } := by
  refine ⟨fun k l hk => ?_, fun n c hmem => h.announced n c ((hre.announced n c).mp hmem),
    fun nodeId n hn => ?_, fun n node hn => h.requeue_node hlink hqueue hre hn,
    fun c client hc => h.requeue_client hlink hqueue hre hc, hre.justified h.justified⟩
  · replace hk := (p.link_set s _ k).symm.trans hk
    split_ifs at hk with heq
    · exact heq ▸ h.bound s link hlink
    · exact h.bound k l hk
  · obtain ⟨node, hnode, hid⟩ := h.registered nodeId n hn
    by_cases heq : n = s
    · subst heq
      cases hlink.symm.trans hnode
      exact ⟨{ node with toClient := some (target, queue') },
        (p.link_set n _ n).trans (if_pos rfl), hid⟩
    · exact ⟨node, ((p.link_set s _ n).trans (if_neg heq)).trans hnode, hid⟩

end

theorem arrive (h : Inv host p) (frame : Frame) (hlink : p.link s = some link)
    (hqueue : link.queue = some (target, queue)) :
    Inv host ((p.set s (some (link.setQueue (target, queue ++ [frame])))).note
      (.received s frame true)) :=
  h.requeue hlink hqueue
    ⟨fun _ _ hlive => hlive.fromNode frame, fun _ _ hlive => hlive.fromClient frame,
      fun _ _ _ _ _ _ _ _ hlive => hlive.plain rfl (by simp),
      fun _ _ _ => List.mem_append_left _, by simp,
      fun hall => hall.append (justified_of_plain host _ rfl)⟩

theorem clear (h : Inv host p) (hlink : p.link s = some link)
    (hqueue : link.queue = some (target, queue)) :
    Inv host (p.set s (some (link.setQueue (target, [])))) :=
  h.requeue hlink hqueue
    ⟨fun _ _ hlive => hlive.mono (List.Sublist.refl _) (List.nil_sublist _),
      fun _ _ hlive => hlive.mono (List.nil_sublist _) (List.Sublist.refl _),
      fun _ _ _ _ _ _ _ _ => id, fun _ _ _ => id, fun _ _ => Iff.rfl, id⟩

theorem deliver (h : Inv host p) {other : Link} (hlink : p.link s = some link)
    (hqueue : link.queue = some (target, frame :: queue)) (htarget : p.link target = some other) :
    Inv host ((p.set s (some (link.setQueue (target, queue)))).note (.sent target frame)) := by
  have hjustified : Justified host p.history (.sent target frame) := by
    rcases h.queue_partner hlink hqueue with ⟨_, _, -, -, -, hlive⟩ | ⟨-, hnode⟩
    · exact hlive.justified_client
    · obtain ⟨_, _, -, -, -, hlive⟩ := hnode other htarget
      exact hlive.justified_node
  refine h.requeue hlink hqueue
    ⟨fun _ hne hlive => hlive.sentClient hne.symm, fun _ hne hlive => hlive.sentNode hne.symm,
      fun n c _ _ _ hn _ hc hlive => ?_, fun _ _ _ => List.mem_append_left _, by simp,
      fun hall => hall.append hjustified⟩
  refine hlive.append (by simp) (by simp) fun other => ⟨fun heq => ?_, fun heq => ?_⟩
  · exact hn (Entry.sent.inj heq).1.symm
  · exact hc (Entry.sent.inj heq).1.symm

end Inv

/-- Every move keeps the invariant. -/
theorem Move.inv (hmove : Move host p p') (h : Inv host p) : Inv host p' := by
  cases hmove with
  | note hplain _ hend => exact h.note hplain hend
  | accept role => exact h.accept role
  | register hnode hphase hfree => exact h.register hnode hphase hfree
  | request requestId hnode hready hclient hphase =>
    exact h.request requestId hnode hready hclient hphase
  | drop hnode hpending => exact h.drop hnode hpending
  | forget hclient hphase hunclaimed => exact h.forget hclient hphase hunclaimed
  | pair hnode hpending hclient hphase hhistory hparse hanswer =>
    exact h.pair hnode hpending hclient hphase hhistory hparse hanswer
  | arrive frame hlink hqueue => exact h.arrive frame hlink hqueue
  | deliver hlink hqueue htarget => exact h.deliver hlink hqueue htarget
  | clear hlink hqueue => exact h.clear hlink hqueue
  | leave hclient hunclaimed => exact h.leave hclient hunclaimed
  | part hnode hpartner hclient => exact h.part hnode hpartner hclient
  | close hnode => exact h.close hnode

/-- Nodes are asked about clients only after their handshake. -/
structure Asked (p : Pairing) : Prop where
  bound : ∀ n c requestId, .requested n c requestId ∈ p.history → n < p.accepted
  links : ∀ s link, p.link s = some link → s < p.accepted
  phase : ∀ n c requestId node, .requested n c requestId ∈ p.history →
    p.link n = some (.node node) → node.phase ≠ .handshake

namespace Asked

variable {p : Pairing}

/-- A link is changed or taken away, but no node goes back to the handshake. -/
theorem set (h : Asked p) {s : Socket} {old : Link} {new : Option Link} (hold : p.link s = some old)
    (hnew : ∀ node, new = some (.node node) → ∃ node', old = .node node' ∧
      (node'.phase ≠ .handshake → node.phase ≠ .handshake)) : Asked (p.set s new) := by
  refine ⟨h.bound, fun k link hk => ?_, fun n c r node hmem hn => ?_⟩
  · rw [Pairing.link_set] at hk
    split_ifs at hk with heq
    · exact heq ▸ h.links s old hold
    · exact h.links k link hk
  · rw [Pairing.link_set] at hn
    split_ifs at hn with heq
    · obtain ⟨node', rfl, hkeep⟩ := hnew node hn
      exact hkeep (h.phase n c r node' hmem (heq ▸ hold))
    · exact h.phase n c r node hmem hn

theorem note (h : Asked p) {entry : Entry}
    (hasked : ∀ n c requestId, entry = .requested n c requestId → ∃ node,
      p.link n = some (.node node) ∧ node.phase ≠ .handshake) : Asked (p.note entry) := by
  refine ⟨fun n c r hmem => ?_, h.links, fun n c r node hmem hn => ?_⟩
  · rcases List.mem_append.mp hmem with hmem | hmem
    · exact h.bound n c r hmem
    · obtain ⟨node, hn, -⟩ := hasked n c r (List.mem_singleton.mp hmem).symm
      exact h.links n _ hn
  · rcases List.mem_append.mp hmem with hmem | hmem
    · exact h.phase n c r node hmem hn
    · obtain ⟨node', hn', hready⟩ := hasked n c r (List.mem_singleton.mp hmem).symm
      cases hn.symm.trans hn'
      exact hready

theorem setQueue (h : Asked p) (hlink : p.link s = some link) (queue : Socket × List Frame) :
    Asked (p.set s (some (link.setQueue queue))) := by
  refine h.set hlink fun node hnode => ?_
  cases link with
  | node node' =>
    cases hnode
    exact ⟨node', rfl, id⟩
  | client client => cases hnode

theorem accept (h : Asked p) (role : PiTunnelRole) :
    Asked ({ p with accepted := p.accepted + 1 }.set p.accepted (some (.fresh role))) := by
  refine ⟨fun n c r hmem => (h.bound n c r hmem).trans (Nat.lt_succ_self _), fun k link hk => ?_,
    fun n c r node hmem hn => ?_⟩
  · rw [Pairing.link_set] at hk
    split_ifs at hk with heq
    · exact heq ▸ Nat.lt_succ_self _
    · exact (h.links k link hk).trans (Nat.lt_succ_self _)
  · rw [Pairing.link_set, if_neg (h.bound n c r hmem).ne] at hn
    exact h.phase n c r node hmem hn

end Asked

theorem Move.asked (hmove : Move host p p') (h : Asked p) : Asked p' := by
  cases hmove with
  | note _ hasked _ => exact h.note fun n c r heq => absurd heq (hasked n c r)
  | accept role => exact h.accept role
  | @register n node nodeId hnode hphase hfree =>
    have hother : Asked { p with registered := Function.update p.registered nodeId (some n) } :=
      ⟨h.bound, h.links, h.phase⟩
    refine hother.set hnode fun _ heq => ?_
    cases heq
    exact ⟨node, rfl, fun _ => nofun⟩
  | @request n c node client requestId hnode hready hclient hphase =>
    -- the note names the client that waits, and its node holds the request from now on
    have hne := Inv.ne_of_links hnode hclient
    have hwaiting : Asked (p.set c (some (.client (client.waiting n)))) := h.set hclient nofun
    have hnode' : (p.set c (some (.client (client.waiting n)))).link n = some (.node node) := by
      rw [Pairing.link_set, if_neg hne.symm, hnode]
    have hasking : Asked ((p.set c (some (.client (client.waiting n)))).set n
        (some (.node (node.asking ⟨requestId, c⟩)))) := by
      refine hwaiting.set hnode' fun _ heq => ?_
      cases heq
      exact ⟨node, rfl, fun _ => nofun⟩
    refine hasking.note fun m k r heq => ?_
    cases heq
    exact ⟨node.asking ⟨requestId, c⟩, by simp, nofun⟩
  | drop hnode hpending =>
    refine h.set hnode fun _ heq => ?_
    cases heq
    exact ⟨_, rfl, fun _ => nofun⟩
  | forget hclient hphase hunclaimed => exact h.set hclient nofun
  | @pair n c node client _ _ _ _ hnode hpending hclient hphase hhistory hparse hanswer =>
    have hne := Inv.ne_of_links hnode hclient
    have hpaired : Asked (p.set n (some (.node (node.pairedWith c)))) := by
      refine h.set hnode fun _ heq => ?_
      cases heq
      exact ⟨node, rfl, fun _ => nofun⟩
    have hclient' : (p.set n (some (.node (node.pairedWith c)))).link c =
      some (.client client) := by
      rw [Pairing.link_set, if_neg hne, hclient]
    have hboth : Asked ((p.set n (some (.node (node.pairedWith c)))).set c
        (some (.client (.pairedWith n)))) := hpaired.set hclient' nofun
    exact hboth.note nofun
  | arrive frame hlink hqueue => exact (h.setQueue hlink _).note nofun
  | deliver hlink hqueue htarget => exact (h.setQueue hlink _).note nofun
  | clear hlink hqueue => exact h.setQueue hlink _
  | leave hclient hunclaimed => exact h.set hclient nofun
  | @part n c node client hnode hpartner hclient =>
    have hne := Inv.ne_of_links hnode hclient
    have hparted : Asked (p.set n (some (.node node.parted))) := by
      refine h.set hnode fun _ heq => ?_
      cases heq
      exact ⟨node, rfl, fun _ => nofun⟩
    have hclient' : (p.set n (some (.node node.parted))).link c = some (.client client) := by
      rw [Pairing.link_set, if_neg hne, hclient]
    exact hparted.set hclient' nofun
  | @close n node hnode =>
    have hother : Asked (p.unregister node.nodeId n) := ⟨h.bound, h.links, h.phase⟩
    exact hother.set hnode nofun

/-- Some moves. -/
abbrev Moves (host : Host) : Pairing → Pairing → Prop := Relation.ReflTransGen (Move host)

theorem Moves.of_eq (h : p = p') : Moves host p p' := h ▸ .refl

theorem Moves.asked (hmoves : Moves host p p') (h : Asked p) : Asked p' := by
  induction hmoves with
  | refl => exact h
  | tail _ hmove ih => exact hmove.asked ih

theorem Moves.inv (hmoves : Moves host p p') (h : Inv host p) : Inv host p' := by
  induction hmoves with
  | refl => exact h
  | tail _ hmove ih => exact hmove.inv ih

end Frely.PiTunnel
