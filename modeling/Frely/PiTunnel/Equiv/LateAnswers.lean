import Frely.PiTunnel.Equiv.Server

/-!
# Late answers

A node may answer a request that is no longer pending, because the client left or waited too long.
`lateAnswer_harmless_iff`: the answer has no effect exactly when the node is not paired, no other
control message is being handled and the message is not too long, or the node is closing anyway.
A paired node that answers late is disconnected, and its client with it.
-/

namespace Frely.PiTunnel

open Server

/-- A well-formed answer to a request that the node was asked, but that is no longer pending. -/
def LateAnswer (host : Host) (server : Server) (n : Socket) (data : Frame) : Prop :=
  ∃ node payload requestId allow, server.states.lookup n = some (.node node) ∧
    host.parseJson data = some payload ∧
    parseAuthorizationResult payload = .ok ⟨requestId, allow⟩ ∧
    (∃ c, .requested n c requestId ∈ server.history) ∧
    node.pendingAuthorization.map (·.requestId) ≠ some requestId

/-- An answer to a request of this node that is no longer pending. -/
def isLateAnswer (host : Host) (server : Server) (n : Socket) (data : Frame) : Bool :=
  match server.states.lookup n, (host.parseJson data).map parseAuthorizationResult with
  | some (.node node), some (.ok answer) =>
    (server.history.any fun
      | .requested m _ requestId => m = n && requestId = answer.requestId
      | _ => false) &&
      node.pendingAuthorization.map (·.requestId) ≠ some answer.requestId
  | _, _ => false

theorem isLateAnswer_iff {host : Host} {server : Server} {n : Socket} {data : Frame} :
    isLateAnswer host server n data = true ↔ LateAnswer host server n data := by
  unfold isLateAnswer LateAnswer
  constructor
  · intro h
    split at h
    · rename_i node answer hnode hanswer
      obtain ⟨payload, hparse, hanswer⟩ := Option.map_eq_some_iff.mp hanswer
      rw [Bool.and_eq_true, List.any_eq_true] at h
      obtain ⟨⟨entry, hmem, hentry⟩, hpending⟩ := h
      refine ⟨node, payload, answer.requestId, answer.allow, hnode, hparse, hanswer, ?_,
        of_decide_eq_true hpending⟩
      cases entry with
      | requested m c requestId =>
        obtain ⟨rfl, rfl⟩ : m = n ∧ requestId = answer.requestId := by simpa using hentry
        exact ⟨c, hmem⟩
      | _ => cases hentry
    · cases h
  · rintro ⟨node, payload, requestId, allow, hnode, hparse, hanswer, ⟨c, hmem⟩, hpending⟩
    rw [hnode, hparse, Option.map_some, hanswer]
    dsimp only
    rw [Bool.and_eq_true, List.any_eq_true]
    exact ⟨⟨_, hmem, by simp⟩, decide_eq_true hpending⟩

instance (host : Host) (server : Server) (n : Socket) (data : Frame) :
    Decidable (LateAnswer host server n data) :=
  decidable_of_iff _ isLateAnswer_iff

/-- Nothing was sent and no socket closed, the links of all sockets are what they were, and what is
left of the handling of the message throws no error. -/
structure Harmless (server after : Server) (n : Socket) (data : Frame) : Prop where
  history : after.history = server.history ++ [.received n data false]
  nodes : after.nodes = server.nodes
  readyState : ∀ k, after.readyState k = server.readyState k
  link : after.pairing.link = server.pairing.link
  continuation : ∀ state, after.states.lookup n = some state →
    state.base.processing = some .returned ∨
      (server.states.lookup n).map (·.base.processing) = some state.base.processing

/-- The node is closing, or it can take a control message. -/
def TakesControl (options : PiTunnelServerOptions) (server : Server) (n : Socket) (data : Frame) :
    Prop :=
  server.readyState n ≠ .open ∨ ∃ node, server.states.lookup n = some (.node node) ∧
    node.base.phase ≠ .paired ∧ node.base.processing = none ∧ data.length ≤ options.maxControlBytes

section

variable {host : Host} {options : PiTunnelServerOptions} {server : Server} {n : Socket}
  {data : Frame}

theorem reject_of_not_open (h : server.readyState n ≠ .open) (code : Nat) (text : String) :
    server.reject n code text = server := if_neg h

theorem history_reject_of_open (h : server.readyState n = .open) (code : Nat) (text : String) :
    (server.reject n code text).history = server.history ++ [.closing n code text] := by
  have hreject : server.reject n code text = (server.updateBase n fun base =>
      { base with readyState := .closing }).record (.closing n code text) := if_pos h
  rw [hreject]
  show (server.updateBase n _).history ++ _ = _
  unfold updateBase update
  split <;> rfl

theorem history_update (s : Socket) (f : ConnectionState → ConnectionState) :
    (server.update s f).history = server.history := by
  unfold update
  split <;> rfl

variable {node : NodeState}

/-- A control message that is not about a pending request changes nothing. -/
theorem handleNodeControl_late {payload : ModelAccess.Json} {requestId : String} {allow : Bool}
    (hanswer : parseAuthorizationResult payload = .ok ⟨requestId, allow⟩)
    (hphase : node.base.phase = .ready ∨ node.base.phase = .authorizing)
    (hlate : node.pendingAuthorization.map (·.requestId) ≠ some requestId) :
    handleNodeControl host n node payload server = (.returned, server) := by
  unfold handleNodeControl
  rcases hphase with hphase | hphase
  · rw [hphase]
    dsimp only
    rw [hanswer]
  · rw [hphase]
    dsimp only
    rw [hanswer]
    cases hpending : node.pendingAuthorization with
    | none => rfl
    | some pending =>
      have hne : pending.requestId ≠ requestId := fun heq => hlate (by rw [hpending, ← heq]; rfl)
      exact if_pos hne

/-- The server after the listener has written down that a message came. -/
def messageReceived (n : Socket) (data : Frame) (now : Int) (server : Server) : Server :=
  (server.record (.received n data false)).updateBase n fun base =>
    { base with lastActivityAt := now, alive := true }

theorem readyState_messageReceived (server : Server) (n : Socket) (data : Frame) (now : Int)
    (k : Socket) : (messageReceived n data now server).readyState k = server.readyState k :=
  readyState_update (fun state => by cases state <;> rfl) k

theorem pairing_messageReceived (server : Server) (n : Socket) (data : Frame) (now : Int) :
    (messageReceived n data now server).pairing = server.pairing.note (.received n data false) :=
  pairing_updateBase fun _ => rfl

theorem lookup_messageReceived (now : Int) (hnode : server.states.lookup n = some (.node node)) :
    (messageReceived n data now server).states.lookup n = some (.node { node with
      base := { node.base with lastActivityAt := now, alive := true } }) := by
  unfold messageReceived
  rw [lookup_updateBase, if_pos rfl, lookup_record, hnode]
  rfl

/-- How a text is handled. -/
theorem handleMessage_text (state : ConnectionState) (requestId : String) (bufferedAmount : Nat) :
    handleMessage host options n state data false requestId bufferedAmount server =
      if state.base.phase = .paired then server.reject n 4400 "text_frame_forbidden"
      else if state.base.processing.isSome then server.reject n 4400 "concurrent_control"
      else if options.maxControlBytes < data.length then
        server.reject n 4400 "control_frame_invalid"
      else match host.parseJson data with
        | none => server.reject n 4401 "authentication_rejected"
        | some payload =>
          let (continuation, server) := handleControl host n state payload requestId server
          server.updateBase n fun base => { base with processing := some continuation } := rfl

/-- Writing down a message, and that it is handled, is harmless. -/
theorem harmless_messageReceived (now : Int) (hnode : server.states.lookup n = some (.node node)) :
    Harmless server (messageReceived n data now server) n data := by
  refine ⟨history_update _ _, nodes_update _ _ _, readyState_messageReceived server n data now, ?_,
    fun state hstate => Or.inr ?_⟩
  · rw [pairing_messageReceived]
    rfl
  cases (lookup_messageReceived now hnode).symm.trans hstate
  rw [hnode]
  rfl

theorem harmless_returned (now : Int) (hnode : server.states.lookup n = some (.node node)) :
    Harmless server ((messageReceived n data now server).updateBase n fun base =>
      { base with processing := some .returned }) n data := by
  have hreceived : Harmless server (messageReceived n data now server) n data :=
    harmless_messageReceived now hnode
  refine ⟨(history_update _ _).trans hreceived.history, (nodes_update _ _ _).trans hreceived.nodes,
    fun k => ?_, ?_, fun state hstate => Or.inl ?_⟩
  · refine (readyState_update (fun state => ?_) k).trans (hreceived.readyState k)
    cases state <;> rfl
  · refine (congrArg Pairing.link (pairing_updateBase ?_)).trans hreceived.link
    exact fun _ => rfl
  · rw [lookup_updateBase, if_pos rfl, lookup_messageReceived now hnode] at hstate
    cases hstate
    rfl

/-- To reject the message harms exactly a node that is open. -/
theorem harmless_reject_iff (now : Int) (hnode : server.states.lookup n = some (.node node))
    (code : Nat) (text : String) :
    Harmless server ((messageReceived n data now server).reject n code text) n data ↔
      server.readyState n ≠ .open := by
  constructor
  · intro h hopen
    have hopen' := (readyState_messageReceived server n data now n).trans hopen
    have hhistory := h.history
    rw [history_reject_of_open hopen', (harmless_messageReceived now hnode).history] at hhistory
    simp at hhistory
  · intro hclosing
    rw [← readyState_messageReceived server n data now] at hclosing
    rw [reject_of_not_open hclosing]
    exact harmless_messageReceived now hnode

end

/-- In every run a late answer is harmless exactly when the node can take a control message, or is
closing anyway. -/
theorem lateAnswer_harmless_iff (host : Host) (options : PiTunnelServerOptions)
    (events : List Event) (n : Socket) (data : Frame) (now : Int) (requestId : String)
    (bufferedAmount : Nat) (hlate : LateAnswer host (run host options events) n data) :
    Harmless (run host options events)
        (step host options (.message n data false now requestId bufferedAmount)
          (run host options events)) n data ↔
      TakesControl options (run host options events) n data := by
  obtain ⟨-, hasked⟩ := run_inv host options events
  set server := run host options events
  obtain ⟨node, payload, lateId, allow, hnode, hparse, hanswer, ⟨c, hrequested⟩, hnotPending⟩ :=
    hlate
  have hphase : node.base.phase ≠ .handshake :=
    hasked.phase n c lateId _ hrequested (link_of_lookup hnode)
  have hlookup : (messageReceived n data now server).states.lookup n = some (.node { node with
      base := { node.base with lastActivityAt := now, alive := true } }) :=
    lookup_messageReceived now hnode
  have hstep : step host options (.message n data false now requestId bufferedAmount) server =
      handleMessage host options n (.node { node with
        base := { node.base with lastActivityAt := now, alive := true } }) data false requestId
        bufferedAmount (messageReceived n data now server) := by
    unfold messageReceived at hlookup ⊢
    dsimp only [step, onMessage]
    rw [hlookup, hnode]
    rfl
  -- where the message is rejected, the condition fails unless the node is closing
  have hrejected : ∀ code text, (node.base.phase ≠ .paired → node.base.processing = none →
      ¬data.length ≤ options.maxControlBytes) →
      (Harmless server ((messageReceived n data now server).reject n code text) n data ↔
        TakesControl options server n data) := by
    intro code text hnot
    rw [harmless_reject_iff now hnode]
    refine ⟨Or.inl, fun htakes => htakes.resolve_right ?_⟩
    rintro ⟨other, hother, hpaired, hbusy, hshort⟩
    cases hnode.symm.trans hother
    exact hnot hpaired hbusy hshort
  rw [hstep, handleMessage_text]
  split_ifs with hpaired hbusy hlong
  · exact hrejected _ _ fun h => absurd hpaired h
  · refine hrejected _ _ fun _ hfree => ?_
    have hprocessing : node.base.processing.isSome = true := hbusy
    rw [hfree] at hprocessing
    cases hprocessing
  · exact hrejected _ _ fun _ _ hshort => absurd hlong (Nat.not_lt.mpr hshort)
  · have hwaits : node.base.phase = .ready ∨ node.base.phase = .authorizing := by
      have hunpaired : node.base.phase ≠ .paired := hpaired
      cases h : node.base.phase with
      | handshake => exact absurd h hphase
      | authorizing => exact Or.inr rfl
      | ready => exact Or.inl rfl
      | paired => exact absurd h hunpaired
    have hhandled : handleControl host n (.node { node with
        base := { node.base with lastActivityAt := now, alive := true } }) payload requestId
        (messageReceived n data now server) = (.returned, messageReceived n data now server) :=
      handleNodeControl_late hanswer hwaits hnotPending
    rw [hparse]
    dsimp only
    rw [hhandled]
    refine iff_of_true (harmless_returned now hnode) (Or.inr ⟨node, hnode, hpaired, ?_, ?_⟩)
    · have hprocessing : ¬node.base.processing.isSome = true := hbusy
      simpa using hprocessing
    · exact Nat.not_lt.mp hlong

/-! ### A node that answers late -/

/-- Texts and the JSON values that they denote. -/
def plainTexts : List (String × ModelAccess.Json) :=
  let nodeId := "AAAAAAAAAAAAAAAAAAAAAAAAAAAAAAAAAAAAAAAAAAA"
  [("\x7b\"type\":\"nodeAuth\",\"protocol\":\"friday.pi-tunnel.v1\",\"nodeId\":\"" ++ nodeId ++
      "\",\"publicKeySpki\":\"n\",\"signature\":\"s\"\x7d",
    .object [("type", .string "nodeAuth"), ("protocol", .string piTunnelProtocol),
      ("nodeId", .string nodeId), ("publicKeySpki", .string "n"), ("signature", .string "s")]),
   ("\x7b\"type\":\"clientAuth\",\"protocol\":\"friday.pi-tunnel.v1\",\"nodeId\":\"" ++ nodeId ++
      "\",\"clientPublicKeySpki\":\"c\",\"signature\":\"s\"\x7d",
    .object [("type", .string "clientAuth"), ("protocol", .string piTunnelProtocol),
      ("nodeId", .string nodeId), ("clientPublicKeySpki", .string "c"),
      ("signature", .string "s")]),
   ("\x7b\"type\":\"authorizeClientResult\",\"requestId\":\"r1\",\"allow\":false\x7d",
    .object [("type", .string "authorizeClientResult"), ("requestId", .string "r1"),
      ("allow", .boolean false)]),
   ("\x7b\"type\":\"authorizeClientResult\",\"requestId\":\"r2\",\"allow\":true\x7d",
    .object [("type", .string "authorizeClientResult"), ("requestId", .string "r2"),
      ("allow", .boolean true)])]

def utf8Bytes (text : String) : Frame := text.toByteArray.data.toList

/-- The bytes of one of the texts. -/
def plainText (i : Nat) : Frame := utf8Bytes ((plainTexts.map (·.1)).getD i "")

/-- A host that knows the texts, and for which all proofs are valid. -/
def plainHost : Host where
  parseJson data := (plainTexts.find? fun entry => utf8Bytes entry.1 = data).map (·.2)
  verifyNodeConnectProof _ message := some ⟨message.nodeId, message.publicKeySpki, message.nodeId⟩
  verifyClientConnectProof _ message :=
    some ⟨message.clientPublicKeySpki, message.clientPublicKeySpki⟩

def plainOptions : PiTunnelServerOptions := ⟨8192, 1024, 2048, 8192, 128, 5000, 60000, 1024⟩

/-- A node connects and is asked about a client, which leaves. -/
def clientLeaves : List Event :=
  [.upgrade .node "n" 0, .message 0 (plainText 0) false 1 "" 0,
    .resume 0 (some ⟨some "n", some "AAAAAAAAAAAAAAAAAAAAAAAAAAAAAAAAAAAAAAAAAAA"⟩), .resume 0 none,
    .upgrade .client "c" 2, .message 1 (plainText 1) false 3 "r1" 0, .resume 1 none, .closed 1]

/-- Another client comes, and the node allows it. -/
def nextClientPaired : List Event :=
  [.upgrade .client "c" 4, .message 2 (plainText 1) false 5 "r2" 0, .resume 2 none,
    .message 0 (plainText 3) false 6 "" 0, .resume 0 none]

/-- The answer to the request for the first client is late, in both cases. -/
theorem lateAnswer_plain :
    LateAnswer plainHost (run plainHost plainOptions clientLeaves) 0 (plainText 2) ∧
      LateAnswer plainHost (run plainHost plainOptions (clientLeaves ++ nextClientPaired)) 0
        (plainText 2) := by
  decide +kernel

/-- The answer is harmless while the node is ready. -/
theorem lateAnswer_ready :
    LateAnswer plainHost (run plainHost plainOptions clientLeaves) 0 (plainText 2) ∧
      (Harmless (run plainHost plainOptions clientLeaves)
          (step plainHost plainOptions (.message 0 (plainText 2) false 7 "" 0)
            (run plainHost plainOptions clientLeaves)) 0 (plainText 2) ↔
        TakesControl plainOptions (run plainHost plainOptions clientLeaves) 0 (plainText 2)) := by
  exact ⟨lateAnswer_plain.1, lateAnswer_harmless_iff plainHost plainOptions clientLeaves 0
    (plainText 2) 7 "" 0 lateAnswer_plain.1⟩

/-- Once the next client is paired, the same answer closes the node. -/
theorem lateAnswer_paired :
    ∃ host options events n data now requestId bufferedAmount,
      LateAnswer host (run host options events) n data ∧
        ¬Harmless (run host options events)
          (step host options (.message n data false now requestId bufferedAmount)
            (run host options events)) n data := by
  refine ⟨plainHost, plainOptions, clientLeaves ++ nextClientPaired, 0, plainText 2, 7, "", 0,
    lateAnswer_plain.2, fun h => ?_⟩
  exact absurd h.history (by decide +kernel)

end Frely.PiTunnel
