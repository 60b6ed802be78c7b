import Frely.PiTunnel.Equiv.Pairing
import Mathlib.Data.List.Induction

/-!
# The server moves

Every event of the server is a sequence of moves on the pairing of its state.
-/

namespace Frely.PiTunnel

/-- What pairing sees of a node's state. -/
def NodeState.link (state : NodeState) : NodeLink :=
  ⟨state.base.phase, state.nodeId, state.client, state.pendingAuthorization,
    state.toClient.map fun queue => (queue.target, queue.queue)⟩

/-- What pairing sees of a client's state. -/
def ClientState.link (state : ClientState) : ClientLink :=
  ⟨state.base.phase, state.node, state.toNode.map fun queue => (queue.target, queue.queue)⟩

def ConnectionState.link : ConnectionState → Link
  | .node state => .node state.link
  | .client state => .client state.link

variable {server : Server} {state : ConnectionState} {f : ConnectionState → ConnectionState}
  {n c : Socket}

namespace Server

/-- The server, as far as pairing goes. -/
def pairing (server : Server) : Pairing where
  link socket := (server.states.lookup socket).map ConnectionState.link
  registered nodeId := server.nodes.lookup nodeId
  accepted := server.accepted
  history := server.history

theorem lookup_update (socket : Socket) (f : ConnectionState → ConnectionState) (server : Server)
    (k : Socket) : (server.update socket f).states.lookup k =
      if k = socket then (server.states.lookup socket).map f else server.states.lookup k := by
  unfold update
  split
  · rename_i state hstate
    by_cases hk : k = socket
    · subst hk
      simp [hstate]
    · simp [hk, AList.lookup_insert_ne]
  · rename_i hnone
    by_cases hk : k = socket
    · subst hk
      simp [hnone]
    · simp [hk]

@[simp] theorem lookup_record (entry : Entry) (server : Server) (k : Socket) :
    (server.record entry).states.lookup k = server.states.lookup k := rfl

@[simp] theorem nodes_update (socket : Socket) (f : ConnectionState → ConnectionState)
    (server : Server) : (server.update socket f).nodes = server.nodes := by
  unfold update
  split <;> rfl

variable {socket : Socket}

theorem link_of_lookup (h : server.states.lookup socket = some state) :
    server.pairing.link socket = some state.link := congrArg (Option.map _) h

@[simp] theorem pairing_record (entry : Entry) (server : Server) :
    (server.record entry).pairing = server.pairing.note entry := rfl

theorem pairing_update (h : server.states.lookup socket = some state) :
    (server.update socket f).pairing = server.pairing.set socket (some (f state).link) := by
  have hlink : (fun k => ((server.update socket f).states.lookup k).map ConnectionState.link) =
      Function.update server.pairing.link socket (some (f state).link) := by
    ext1 k
    rw [lookup_update, Function.update_apply, h]
    split_ifs <;> rfl
  have hrest : (server.update socket f).nodes = server.nodes ∧
      (server.update socket f).accepted = server.accepted ∧
      (server.update socket f).history = server.history := by
    unfold update
    split <;> exact ⟨rfl, rfl, rfl⟩
  unfold pairing Pairing.set
  rw [hlink, hrest.1, hrest.2.1, hrest.2.2]
  rfl

/-- An update of what pairing does not depend on. -/
theorem pairing_update_of_link
    (hf : ∀ state, server.states.lookup socket = some state → (f state).link = state.link) :
    (server.update socket f).pairing = server.pairing := by
  cases h : server.states.lookup socket with
  | none =>
    unfold update
    rw [h]
  | some state =>
    rw [pairing_update h, hf state h, ← link_of_lookup h]
    exact congrArg (fun link => { server.pairing with link := link })
      (Function.update_eq_self socket server.pairing.link)

theorem pairing_updateBase {f : BaseState → BaseState} (hf : ∀ base, (f base).phase = base.phase) :
    (server.updateBase socket f).pairing = server.pairing := by
  refine pairing_update_of_link fun state _ => ?_
  cases state with
  | node state =>
    show Link.node ⟨(f state.base).phase, _, _, _, _⟩ = Link.node ⟨state.base.phase, _, _, _, _⟩
    rw [hf]
  | client state =>
    show Link.client ⟨(f state.base).phase, _, _⟩ = Link.client ⟨state.base.phase, _, _⟩
    rw [hf]

theorem lookup_updateNode {state : NodeState} {f : NodeState → NodeState}
    (h : server.states.lookup n = some (.node state)) (k : Socket) :
    (server.updateNode n f).states.lookup k =
      if k = n then some (.node (f state)) else server.states.lookup k := by
  rw [updateNode, lookup_update, h]
  rfl

theorem pairing_updateNode {state : NodeState} {f : NodeState → NodeState}
    (h : server.states.lookup n = some (.node state)) :
    (server.updateNode n f).pairing =
      server.pairing.set n (some (.node (f state).link)) :=
  pairing_update h

theorem lookup_updateClient {state : ClientState} {f : ClientState → ClientState}
    (h : server.states.lookup c = some (.client state)) (k : Socket) :
    (server.updateClient c f).states.lookup k =
      if k = c then some (.client (f state)) else server.states.lookup k := by
  rw [updateClient, lookup_update, h]
  rfl

theorem pairing_updateClient {state : ClientState} {f : ClientState → ClientState}
    (h : server.states.lookup c = some (.client state)) :
    (server.updateClient c f).pairing =
      server.pairing.set c (some (.client (f state).link)) :=
  pairing_update h

theorem lookup_updateBase (server : Server) (socket : Socket) (f : BaseState → BaseState)
    (k : Socket) : (server.updateBase socket f).states.lookup k =
      if k = socket then (server.states.lookup socket).map (·.mapBase f)
      else server.states.lookup k :=
  lookup_update socket _ server k

end Server

/-! ### Sending and closing -/

section

open Server

variable (host : Host) (server : Server)

theorem moves_safeClose (socket : Socket) (code : Nat) (reason : String) :
    Moves host server.pairing (server.safeClose socket code reason).pairing := by
  unfold safeClose
  split_ifs
  · rw [pairing_record, pairing_updateBase]
    · exact .single (.note rfl (by simp) (by simp))
    · exact fun _ => rfl
  · exact .refl

theorem moves_terminate (socket : Socket) :
    Moves host server.pairing (server.terminate socket).pairing := by
  unfold terminate
  rw [pairing_record, pairing_updateBase]
  · exact .single (.note rfl (by simp) (by simp))
  · exact fun _ => rfl

theorem moves_sendControl (socket : Socket) {value : Control}
    (hend : ∀ node, value = .clientDisconnected → server.pairing.link socket = some (.node node) →
      node.client = none) :
    Moves host server.pairing (server.sendControl socket value).pairing := by
  unfold sendControl
  split_ifs
  · rw [pairing_record]
    refine .single (.note rfl (by simp) fun n node heq hnode => ?_)
    cases heq
    exact hend node rfl hnode
  · exact .refl

theorem moves_foldl {α : Type} (f : Server → α → Server)
    (hf : ∀ server a, Moves host server.pairing (f server a).pairing) (items : List α) :
    Moves host server.pairing (items.foldl f server).pairing := by
  induction items generalizing server with
  | nil => exact .refl
  | cons a items ih => exact (hf server a).trans (ih (f server a))

theorem moves_upgrade (options : PiTunnelServerOptions) (role : PiTunnelRole) (challenge : String)
    (now : Int) : Moves host server.pairing (upgrade options role challenge now
      server).pairing := by
  unfold upgrade
  split_ifs
  · exact .refl
  · unfold accept
    refine .trans (.single (.accept role)) ?_
    have hinsert : ∀ state : ConnectionState, Function.update server.pairing.link server.accepted
        (some state.link) = fun k => ((server.states.insert server.accepted state).lookup k).map
          ConnectionState.link := by
      intro state
      ext1 k
      rw [Function.update_apply]
      split_ifs with hk
      · rw [hk, AList.lookup_insert]
        rfl
      · rw [AList.lookup_insert_ne hk]
        rfl
    have hset : ∀ state : ConnectionState, state.link = .fresh role →
        ({ server.pairing with accepted := server.accepted + 1 }.set server.accepted
          (some (.fresh role))) =
        ({ server with
            accepted := server.accepted + 1
            states := server.states.insert server.accepted state } : Server).pairing := by
      intro state hstate
      rw [← hstate]
      exact congrArg (fun link => (⟨link, _, _, _⟩ : Pairing)) (hinsert state)
    refine .trans (Moves.of_eq (hset _ ?_)) (moves_sendControl host _ server.accepted (by simp))
    cases role <;> rfl

end

/-! ### Control messages -/

variable {s : Socket} {requestId : String} {data : Frame}

section

open Server

variable (host : Host) {server : Server}

theorem readyState_update (hf : ∀ state, (f state).base.readyState = state.base.readyState)
    (k : Socket) : (server.update s f).readyState k = server.readyState k := by
  unfold readyState
  rw [lookup_update]
  split_ifs with hk
  · subst hk
    cases server.states.lookup k with
    | none => rfl
    | some state => exact hf state
  · rfl

variable {payload : ModelAccess.Json} {earlier : List Entry}

/-- A node that answered `allow: true` is paired with its client, unless one of them is closing. -/
theorem moves_pair {node : NodeState} {client : ClientState}
    (hnode : server.states.lookup n = some (.node node))
    (hpending : node.pendingAuthorization = some ⟨requestId, c⟩)
    (hclient : server.states.lookup c = some (.client client))
    (hwaiting : client.base.phase = .authorizing)
    (hhistory : server.history = earlier ++ [.received n data false])
    (hparse : host.parseJson data = some payload)
    (hanswer : parseAuthorizationResult payload = .ok ⟨requestId, true⟩) :
    Moves host server.pairing (pair n c (server.updateNode n (·.notAsking))).pairing := by
  have hlink := link_of_lookup hnode
  have hne : c ≠ n := by
    rintro rfl
    cases hnode.symm.trans hclient
  have hpairing : (server.updateNode n (·.notAsking)).pairing =
      server.pairing.set n (some (.node node.link.notAsking)) := pairing_updateNode hnode
  unfold pair
  dsimp only
  set timed := (server.updateNode n (·.notAsking)).updateBase c
    (fun base => { base with handshakeTimer := none }) with htimed
  have hsame : timed.pairing = (server.updateNode n (·.notAsking)).pairing :=
    pairing_updateBase fun _ => rfl
  split_ifs with hclosing
  · have hdrop : Move host server.pairing timed.pairing := by
      rw [hsame, hpairing]
      exact .drop hlink (by simp [NodeState.link, hpending])
    exact (Relation.ReflTransGen.single hdrop).trans
      (moves_safeClose host timed c 4410 "connection_unavailable")
  · obtain ⟨hnodeOpen, hclientOpen⟩ := not_or.mp hclosing
    have hnode' : timed.states.lookup n = some (.node node.notAsking) := by
      rw [htimed, lookup_updateBase, if_neg hne.symm, lookup_updateNode hnode, if_pos rfl]
    have hclient' : (timed.updateNode n (·.pairedWith c)).states.lookup c =
        some (.client { client with base := { client.base with handshakeTimer := none } }) := by
      rw [lookup_updateNode hnode', if_neg hne, htimed, lookup_updateBase, if_pos rfl,
        lookup_updateNode hnode, if_neg hne, hclient]
      rfl
    set paired := (timed.updateNode n (·.pairedWith c)).updateClient c (·.pairedWith n)
    have hopen : ∀ k, paired.readyState k = timed.readyState k := by
      intro k
      refine (readyState_update (fun state => ?_) k).trans (readyState_update (fun state => ?_) k)
      · cases state <;> rfl
      · cases state <;> rfl
    have hready : paired.sendControl c (.ready .client) =
        paired.record (.control c (.ready .client)) :=
      if_pos ((hopen c).trans (not_not.mp hclientOpen))
    have hannounce : (paired.record (.control c (.ready .client))).announce n c =
        (paired.record (.control c (.ready .client))).record (.announced n c) :=
      if_pos ((hopen n).trans (not_not.mp hnodeOpen))
    have hlinks : paired.pairing = (server.pairing.set n
      (some (.node (node.link.pairedWith c)))).set
        c (some (.client (.pairedWith n))) := by
      have hset : (server.pairing.set n (some (.node node.link.notAsking))).set n
          (some (.node (node.notAsking.pairedWith c).link)) =
          server.pairing.set n (some (.node (node.link.pairedWith c))) := by
        simp only [Pairing.set, Function.update_idem]
        rfl
      rw [pairing_updateClient hclient', pairing_updateNode hnode', hsame, hpairing, hset]
      rfl
    rw [hready, hannounce, pairing_record, pairing_record, hlinks]
    -- the client is told first
    have hnote : Move host server.pairing (server.pairing.note (.control c (.ready .client))) :=
      .note rfl (by simp) (by simp)
    have htold : (server.pairing.note (.control c (.ready .client))).history =
        earlier ++ [.received n data false, .control c (.ready .client)] := by
      show server.history ++ _ = _
      rw [hhistory, List.append_assoc]
      rfl
    have hmove := @Move.pair host (server.pairing.note (.control c (.ready .client))) n c _ _
      earlier
      data payload requestId hlink hpending (link_of_lookup hclient) hwaiting htold hparse hanswer
    exact (Relation.ReflTransGen.single hnote).trans (.single hmove)

/-- The node's answer pairs it with the client, or denies it. -/
theorem moves_answerAuthorization {node : NodeState} {pending : PendingAuthorization} {allow : Bool}
    (hnode : server.states.lookup n = some (.node node))
    (hpending : node.pendingAuthorization = some pending)
    (hhistory : server.history = earlier ++ [.received n data false])
    (hparse : host.parseJson data = some payload)
    (hanswer : parseAuthorizationResult payload = .ok ⟨pending.requestId, allow⟩) :
    Moves host server.pairing (answerAuthorization n pending allow server).pairing := by
  have hdrop : Moves host server.pairing (server.updateNode n (·.notAsking)).pairing := by
    rw [pairing_updateNode hnode]
    exact .single (.drop (link_of_lookup hnode) (by simp [NodeState.link, hpending]))
  unfold answerAuthorization
  dsimp only
  split
  · rename_i client hclient
    split_ifs with hphase hdeny
    · exact hdrop
    · exact hdrop.trans (moves_safeClose host _ pending.client 4403 "client_denied")
    · have hallow : allow = true := by simpa using hdeny
      rw [lookup_updateNode hnode] at hclient
      split_ifs at hclient
      · cases hclient
      · exact moves_pair host hnode hpending hclient (not_not.mp hphase) hhistory hparse
          (hallow ▸ hanswer)
  · exact hdrop

theorem moves_handleNodeControl {state : NodeState}
    (hnode : server.states.lookup n = some (.node state))
    (hhistory : server.history = earlier ++ [.received n data false])
    (hparse : host.parseJson data = some payload) :
    Moves host server.pairing (handleNodeControl host n state payload server).2.pairing := by
  unfold handleNodeControl
  split
  · split
    · exact .refl
    · split <;> exact .refl
  · split
    · exact .refl
    · rename_i message hmessage
      split
      · exact .refl
      · exact .refl
      · rename_i pending _ hpending
        split_ifs with hid
        · exact .refl
        · obtain ⟨requestId, allow⟩ := message
          have hid : pending.requestId = requestId := not_not.mp hid
          subst hid
          exact moves_answerAuthorization host hnode hpending hhistory hparse hmessage
      · exact .refl

/-- The node a client may ask for is registered, ready and free. -/
theorem availableNode_eq_some {nodeId : String} (h : availableNode server nodeId = some n) :
    ∃ state,
      server.states.lookup n = some (.node state) ∧ state.base.phase = .ready := by
  unfold availableNode at h
  split at h
  · cases h
  · split at h
    · rename_i state hstate
      split_ifs at h with hbusy
      cases h
      have hready : state.base.phase = .ready := by
        by_contra hphase
        exact hbusy (Or.inl hphase)
      exact ⟨state, hstate, hready⟩
    · cases h

theorem moves_handleClientControl {state : ClientState}
    (hclient : server.states.lookup c = some (.client state)) :
    Moves host server.pairing
      (handleClientControl host c state payload requestId server).2.pairing := by
  unfold handleClientControl
  split_ifs with hphase
  · exact .refl
  · have hhandshake : state.base.phase = .handshake := not_not.mp hphase
    split
    · exact .refl
    · rename_i message _
      split
      · exact .refl
      · split
        · exact moves_safeClose host server c 4404 "node_unavailable"
        · rename_i n hn
          obtain ⟨node, hnode, hready⟩ := availableNode_eq_some hn
          have hne : n ≠ c := by
            rintro rfl
            cases hclient.symm.trans hnode
          set asked := (((server.updateClient c (·.waiting message.nodeId n requestId)).updateNode n
            (·.asking ⟨requestId, c⟩)).record (.requested n c requestId)) with hasked
          have hnode' : (server.updateClient c
            (·.waiting message.nodeId n requestId)).states.lookup n =
              some (.node node) := by
            rw [lookup_updateClient hclient, if_neg hne, hnode]
          have hmove : Move host server.pairing asked.pairing := by
            rw [hasked, pairing_record, pairing_updateNode hnode', pairing_updateClient hclient]
            exact .request requestId (link_of_lookup hnode) hready (link_of_lookup hclient)
              hhandshake
          exact (Relation.ReflTransGen.single hmove).trans
            (moves_sendControl host asked n (by simp))

theorem moves_handleControl (hstate : server.states.lookup s = some state)
    (hhistory : server.history = earlier ++ [.received s data false])
    (hparse : host.parseJson data = some payload) :
    Moves host server.pairing (handleControl host s state payload requestId server).2.pairing := by
  cases state with
  | node state => exact moves_handleNodeControl host hstate hhistory hparse
  | client state => exact moves_handleClientControl host hstate

end

/-! ### Messages -/

variable {p : Pairing}

section

open Server

variable (host : Host) {server : Server}

theorem link_queue {queue : OpaqueForwardQueue} (h : state.forwardQueue = some queue) :
    state.link.queue = some (queue.target, queue.queue) := by
  cases state with
  | node state => exact congrArg (Option.map _) h
  | client state => exact congrArg (Option.map _) h

theorem link_setForwardQueue (state : ConnectionState) (queue : OpaqueForwardQueue) :
    (state.setForwardQueue queue).link = state.link.setQueue (queue.target, queue.queue) := by
  cases state <;> rfl

theorem setQueue_setQueue (link : Link) (queue queue' : Socket × List Frame) :
    (link.setQueue queue).setQueue queue' = link.setQueue queue' := by
  cases link <;> rfl

theorem queue_setQueue (link : Link) (queue : Socket × List Frame) :
    (link.setQueue queue).queue = some queue := by
  cases link <;> rfl

theorem Pairing.set_set (p : Pairing) (s : Socket) (link link' : Option Link) :
    (p.set s link).set s link' = p.set s link' := by
  simp only [Pairing.set, Function.update_idem]

theorem Pairing.set_of_link {link : Option Link} (h : p.link s = link) : p.set s link = p := by
  subst h
  exact congrArg (fun link => { p with link := link }) (Function.update_eq_self s p.link)

theorem moves_forwardFailed (server : Server) (s : Socket) (state : ConnectionState) :
    Moves host server.pairing (forwardFailed s state server).pairing := by
  unfold forwardFailed
  split
  · split
    · exact moves_safeClose host server _ _ _
    · exact .refl
  · exact moves_safeClose host server _ _ _

theorem moves_overflowClient (server : Server) (s : Socket) (state : ConnectionState)
    (queue : OpaqueForwardQueue) :
    Moves host server.pairing (overflowClient s state queue server).pairing := by
  unfold overflowClient
  split <;> exact moves_safeClose host server _ _ _

theorem link_isSome_of_open (h : server.readyState s = .open) :
    ∃ link, server.pairing.link s = some link := by
  unfold readyState at h
  split at h
  · rename_i state hstate
    exact ⟨_, link_of_lookup hstate⟩
  · cases h

/-- The frames that wait first are sent, one after the other. -/
theorem moves_deliver {target : Socket} {link other : Link} (hlink : p.link s = some link)
    (htarget : p.link target = some other) (sent left : List Frame)
    (hqueue : link.queue = some (target, sent ++ left)) :
    Moves host p (sent.foldl (fun p frame => p.note (.sent target frame))
      (p.set s (some (link.setQueue (target, left))))) := by
  induction sent generalizing p link other with
  | nil =>
    refine Moves.of_eq ?_
    have hlink' : link.setQueue (target, left) = link := Link.setQueue_of_queue hqueue
    rw [List.foldl_nil, hlink']
    exact (Pairing.set_of_link hlink).symm
  | cons frame sent ih =>
    set next := (p.set s (some (link.setQueue (target, sent ++ left)))).note (.sent target frame)
    have hmove : Move host p next := Move.deliver hlink hqueue htarget
    have hlink' : next.link s = some (link.setQueue (target, sent ++ left)) := by simp [next]
    obtain ⟨other', htarget'⟩ : ∃ other', next.link target = some other' := by
      by_cases hs : target = s
      · exact ⟨_, (congrArg next.link hs).trans hlink'⟩
      · exact ⟨other, by simp [next, hs, htarget]⟩
    have hrest := ih hlink' htarget' (queue_setQueue _ _)
    have hset : next.set s (some ((link.setQueue (target, sent ++ left)).setQueue (target, left))) =
        (p.set s (some (link.setQueue (target, left)))).note (.sent target frame) := by
      rw [setQueue_setQueue]
      exact congrArg (Pairing.note (.sent target frame)) (p.set_set s _ _)
    rw [hset] at hrest
    exact (Relation.ReflTransGen.single hmove).trans hrest

variable {options : PiTunnelServerOptions}

/-- A binary frame of a paired socket is received and passed on, queued or refused. -/
theorem moves_forwardFrame {frame : Frame} {bufferedAmount : Nat}
    (hstate : server.states.lookup s = some state)
    (hserver : server.pairing = p.note (.received s frame true)) :
    Moves host p (forwardFrame options s state frame bufferedAmount server).pairing := by
  have hreceived : Moves host p server.pairing := by
    rw [hserver]
    exact .single (.note rfl (by simp) (by simp))
  have hsame : ∀ k, p.link k = server.pairing.link k := fun k => by rw [hserver]; rfl
  have hlink : p.link s = some state.link := (hsame s).trans (link_of_lookup hstate)
  unfold forwardFrame
  split
  · exact hreceived.trans (moves_forwardFailed host server s state)
  · rename_i queue hqueue
    have hlinkQueue := link_queue hqueue
    have hforward := queue.queue_forward options.limits
      (decide (server.readyState queue.target = .open)) bufferedAmount frame
    have htarget := queue.target_forward options.limits
      (decide (server.readyState queue.target = .open)) bufferedAmount frame
    -- the frame enters the queue, and leaves it at once when it may
    have harrive : Move host p _ := Move.arrive frame hlink hlinkQueue
    dsimp only
    split
    · rename_i after heq
      rw [heq] at hforward
      obtain ⟨hopen, hempty, -⟩ := hforward
      obtain ⟨other, hother⟩ := link_isSome_of_open (of_decide_eq_true hopen)
      rw [hempty] at hlinkQueue harrive
      set entered := (p.set s (some (state.link.setQueue (queue.target, [] ++ [frame])))).note
        (.received s frame true)
      have hentered : entered.link s = some (state.link.setQueue (queue.target, [frame])) := by
        simp [entered]
      obtain ⟨other', hother'⟩ : ∃ other', entered.link queue.target = some other' := by
        by_cases hs : queue.target = s
        · exact ⟨_, (congrArg entered.link hs).trans hentered⟩
        · exact ⟨other, by simp [entered, hs, hsame, hother]⟩
      have hdeliver := moves_deliver host hentered hother' [frame] [] (queue_setQueue _ _)
      refine (Relation.ReflTransGen.single harrive).trans (hdeliver.trans (Moves.of_eq ?_))
      have hback : entered.set s (some ((state.link.setQueue (queue.target, [frame])).setQueue
          (queue.target, []))) = p.note (.received s frame true) := by
        rw [setQueue_setQueue, Link.setQueue_of_queue hlinkQueue]
        refine congrArg (Pairing.note (.received s frame true))
          ((p.set_set s _ _).trans (Pairing.set_of_link hlink))
      rw [List.foldl_cons, List.foldl_nil, hback, ← hserver]
      rfl
    · rename_i after heq
      rw [heq] at hforward htarget
      refine (Relation.ReflTransGen.single harrive).trans (Moves.of_eq ?_)
      rw [pairing_update hstate, link_setForwardQueue, hserver]
      dsimp only at hforward htarget
      rw [hforward, htarget]
      rfl
    · exact hreceived.trans ((moves_overflowClient host server s state queue).trans
        (moves_forwardFailed host _ s state))
    · exact hreceived.trans (moves_forwardFailed host server s state)

theorem moves_handleMessage {isBinary : Bool} {bufferedAmount : Nat}
    (hstate : server.states.lookup s = some state)
    (hserver : server.pairing = p.note (.received s data isBinary)) :
    Moves host p
      (handleMessage host options s state data isBinary requestId bufferedAmount
        server).pairing := by
  have hreceived : Moves host p server.pairing := by
    rw [hserver]
    exact .single (.note rfl (by simp) (by simp))
  have hreject : ∀ code text, Moves host p (server.reject s code text).pairing := fun code text =>
    hreceived.trans (moves_safeClose host server s code text)
  unfold handleMessage
  split_ifs with hpaired htext hlarge hbinary hbusy hlong
  · exact hreject _ _
  · exact hreject _ _
  · have hframe : isBinary = true := by simpa using htext
    rw [hframe] at hserver
    exact moves_forwardFrame host hstate hserver
  · split
    · split_ifs
      · exact hreceived
      · exact hreject _ _
    · exact hreject _ _
  · exact hreject _ _
  · exact hreject _ _
  · split
    · exact hreject _ _
    · rename_i payload hparse
      have htextual : isBinary = false := by simpa using hbinary
      have hhistory : server.history = p.history ++ [.received s data false] := by
        rw [← htextual]
        exact congrArg Pairing.history hserver
      dsimp only
      rw [pairing_updateBase]
      · exact hreceived.trans (moves_handleControl host hstate hhistory hparse)
      · exact fun _ => rfl

theorem moves_onMessage (server : Server) (options : PiTunnelServerOptions) (s : Socket)
    (data : Frame) (isBinary : Bool) (now : Int) (requestId : String) (bufferedAmount : Nat) :
    Moves host server.pairing
      (onMessage host options s data isBinary now requestId bufferedAmount server).pairing := by
  unfold onMessage
  dsimp only
  have hserver : ((server.record (.received s data isBinary)).updateBase s fun base =>
      { base with lastActivityAt := now, alive := true }).pairing =
      server.pairing.note (.received s data isBinary) :=
    pairing_updateBase fun _ => rfl
  split
  · rename_i state hstate
    exact moves_handleMessage host hstate hserver
  · rw [hserver]
    exact .single (.note rfl (by simp) (by simp))

theorem moves_finishNodeAuth {state : NodeState} {identity : VerifiedNodeIdentity}
    {device : Option PiTunnelDevice} (hnode : server.states.lookup n = some (.node state)) :
    Moves host server.pairing (finishNodeAuth n state identity device server).2.pairing := by
  unfold finishNodeAuth
  split
  · exact .refl
  · rename_i hskip
    split
    · exact .refl
    · split_ifs with _ htaken
      · exact .refl
      · exact moves_safeClose host server n _ _
      · have hphase : state.base.phase = .handshake := by
          by_contra hphase
          exact hskip (Or.inl hphase)
        have hfree : server.nodes.lookup identity.nodeId = none := by simpa using htaken
        set inserted : Server := { server with nodes := server.nodes.insert identity.nodeId n }
        have hinserted : inserted.pairing = { server.pairing with
            registered := Function.update server.pairing.registered identity.nodeId (some n) } := by
          have hlookup : (fun id => inserted.nodes.lookup id) =
              Function.update server.pairing.registered identity.nodeId (some n) := by
            ext1 id
            rw [Function.update_apply]
            split_ifs with hid
            · rw [hid]
              exact AList.lookup_insert _
            · exact AList.lookup_insert_ne hid
          exact congrArg (fun registered => (⟨_, registered, _, _⟩ : Pairing)) hlookup
        have hmove : Move host server.pairing
            (inserted.updateNode n (·.registered identity.nodeId)).pairing := by
          rw [pairing_updateNode (show inserted.states.lookup n = some (.node state) from hnode),
            hinserted]
          exact .register (link_of_lookup hnode) hphase hfree
        exact (Relation.ReflTransGen.single hmove).trans (moves_sendControl host _ n (by simp))

theorem moves_resume (server : Server) (s : Socket) (device : Option PiTunnelDevice) :
    Moves host server.pairing (resume s device server).pairing := by
  unfold resume
  split
  · exact .refl
  · rename_i state hstate
    split
    · dsimp only
      rw [pairing_updateBase]
      · exact moves_finishNodeAuth host hstate
      · exact fun _ => rfl
    · rw [pairing_updateBase]
      · exact moves_safeClose host server s _ _
      · exact fun _ => rfl
    · refine Moves.of_eq (Eq.symm ?_)
      exact pairing_updateBase fun _ => rfl
    · exact .refl

end

/-! ### Timers and polls -/

section

open Server

variable (host : Host) {server : Server}

/-- A client waits for at most one node, the one in its state. -/
theorem Inv.claimed_by (h : Inv host p) {node : NodeLink} {client : ClientLink}
    (hnode : p.link n = some (.node node)) (hclient : p.link c = some (.client client))
    (hclaims : node.client = some c ∨ node.pending.map (·.client) = some c) :
    client.node = some n := by
  rcases hclaims with hc | hc
  · obtain ⟨-, _, _, -, hlink, -⟩ := (h.node n node hnode).partner c hc
    cases hclient.symm.trans hlink
    rfl
  · obtain ⟨⟨r, c⟩, hpending, rfl⟩ := Option.map_eq_some_iff.mp hc
    obtain ⟨-, ⟨_, hlink, -, hof⟩, -⟩ := (h.node n node hnode).pending r c hpending
    cases hclient.symm.trans hlink
    exact hof

theorem Inv.unclaimed {p : Pairing} (h : Inv host p) {c : Socket} {client : ClientLink}
    (hclient : p.link c = some (.client client))
    (hnode : ∀ n node, client.node = some n → p.link n = some (.node node) →
      node.client ≠ some c ∧ node.pending.map (·.client) ≠ some c) : p.Unclaimed c := by
  intro n node hn
  constructor
  · intro hc
    exact (hnode n node (h.claimed_by host hn hclient (Or.inl hc)) hn).1 hc
  · intro hc
    exact (hnode n node (h.claimed_by host hn hclient (Or.inr hc)) hn).2 hc

theorem moves_authorizationTimeout (hinv : Inv host server.pairing) {state : ClientState}
    {base : BaseState}
    (hclient : server.states.lookup c = some (.client { state with base := base }))
    (hbase : base.phase = state.base.phase) :
    Moves host server.pairing (authorizationTimeout c state requestId server).pairing := by
  have hclose : ∀ server' : Server, Moves host server.pairing server'.pairing →
      Moves host server.pairing (server'.safeClose c 4411 "authorization_timeout").pairing :=
    fun server' h => h.trans (moves_safeClose host server' c _ _)
  unfold authorizationTimeout
  split
  · exact hclose server .refl
  · rename_i n hn
    split
    · rename_i node hnode
      split_ifs with hwaits
      · obtain ⟨hphase, hpending⟩ := hwaits
        refine hclose _ ?_
        have hlink := link_of_lookup hclient
        have hnodeLink := link_of_lookup hnode
        have hne : c ≠ n := Inv.ne_of_links hnodeLink hlink
        have hclient' : (server.updateNode n (·.notAsking)).states.lookup c =
            some (.client { state with base := base }) := by
          rw [lookup_updateNode hnode, if_neg hne, hclient]
        have hdropped : (server.updateNode n (·.notAsking)).pairing =
            server.pairing.set n (some (.node node.link.notAsking)) := pairing_updateNode hnode
        have hdrop : Move host server.pairing (server.updateNode n (·.notAsking)).pairing := by
          rw [hdropped]
          refine .drop hnodeLink ?_
          obtain ⟨pending, hsome, -⟩ := Option.map_eq_some_iff.mp hpending
          exact Option.isSome_iff_exists.mpr ⟨pending, hsome⟩
        have hforget : Move host (server.updateNode n (·.notAsking)).pairing
            ((server.updateNode n (·.notAsking)).updateClient c
              (fun state => { state with node := none })).pairing := by
          rw [pairing_updateClient hclient']
          refine .forget (link_of_lookup hclient') (hbase.trans hphase) ?_
          refine (hdrop.inv hinv).unclaimed host (link_of_lookup hclient')
            fun m other hm hother => ?_
          cases hn.symm.trans hm
          rw [hdropped, Pairing.link_set, if_pos rfl] at hother
          cases hother
          refine ⟨fun hc => ?_, nofun⟩
          -- a node that takes a client is not asked about one
          have hpaired := ((hinv.node n _ hnodeLink).partner c hc).1
          obtain ⟨pending, hsome, -⟩ := Option.map_eq_some_iff.mp hpending
          cases hpaired.symm.trans ((hinv.node n _ hnodeLink).pending _ _ hsome).1
        exact (Relation.ReflTransGen.single hdrop).trans (.single hforget)
      · exact hclose server .refl
    · exact hclose server .refl

theorem moves_handshakeTimeout (hinv : Inv host server.pairing) (s : Socket) :
    Moves host server.pairing (handshakeTimeout s server).pairing := by
  unfold handshakeTimeout
  split
  · exact .refl
  · rename_i state hstate
    dsimp only
    set fired := server.updateBase s fun base => { base with handshakeTimer := none }
    have hfired : fired.pairing = server.pairing := pairing_updateBase fun _ => rfl
    split
    · rw [← hfired]
      exact moves_safeClose host fired s _ _
    · rename_i requestId client _
      rw [← hfired] at hinv ⊢
      have hclient : fired.states.lookup s = some (.client { client with
          base := { client.base with handshakeTimer := none } }) := by
        rw [lookup_updateBase, if_pos rfl, hstate]
        rfl
      exact moves_authorizationTimeout host hinv hclient rfl
    · exact .refl

/-- Notes leave the links as they are. -/
theorem foldl_note_set (sent : List Frame) (target : Socket) (p : Pairing) (s : Socket)
    (link : Option Link) :
    sent.foldl (fun p frame => p.note (.sent target frame)) (p.set s link) =
      (sent.foldl (fun p frame => p.note (.sent target frame)) p).set s link := by
  induction sent generalizing p with
  | nil => rfl
  | cons frame sent ih => exact ih (p.note (.sent target frame))

theorem moves_drainTimeout (server : Server) (options : PiTunnelServerOptions) (s : Socket)
    (bufferedAmounts : List Nat) :
    Moves host server.pairing (drainTimeout options s bufferedAmounts server).pairing := by
  unfold drainTimeout
  split
  · exact .refl
  · rename_i queue hqueue
    obtain ⟨state, hstate, hown⟩ := Option.bind_eq_some_iff.mp hqueue
    have hlink := link_of_lookup hstate
    split_ifs
    · exact .refl
    · dsimp only
      -- what is sent is noted frame by frame, and the states stay
      have hrecords : ∀ (sent : List Frame) (server : Server),
          (sent.foldl (fun server frame => server.record (.sent queue.target frame))
            server).pairing =
            sent.foldl (fun p frame => p.note (.sent queue.target frame)) server.pairing ∧
          (sent.foldl (fun server frame => server.record (.sent queue.target frame))
            server).states =
            server.states := by
        intro sent
        induction sent with
        | nil => exact fun server => ⟨rfl, rfl⟩
        | cons frame sent ih => exact fun server => ih (server.record (.sent queue.target frame))
      by_cases hopen : server.readyState queue.target = .open
      · rw [decide_eq_true hopen]
        set sent := (queue.drain options.limits true bufferedAmounts).1
        set left := (queue.drain options.limits true bufferedAmounts).2
        have htarget : left.target = queue.target :=
          queue.target_drain options.limits true bufferedAmounts
        have hsplit : sent ++ left.queue = queue.queue :=
          queue.queue_drain options.limits bufferedAmounts
        obtain ⟨other, hother⟩ := link_isSome_of_open hopen
        have hdeliver := moves_deliver host hlink hother sent left.queue (by
          rw [hsplit]
          exact link_queue hown)
        refine hdeliver.trans (Moves.of_eq ?_)
        have hstate' := (congrArg (fun states => states.lookup s) (hrecords sent server).2).trans
          hstate
        rw [pairing_update hstate', link_setForwardQueue, (hrecords sent server).1, htarget]
        exact foldl_note_set sent queue.target server.pairing s _
      · rw [decide_eq_false hopen, OpaqueForwardQueue.drain_of_not_open]
        refine (Relation.ReflTransGen.single (.clear hlink (link_queue hown))).trans
          (Moves.of_eq ?_)
        rw [List.foldl_nil, pairing_update hstate, link_setForwardQueue]
        rfl

theorem moves_sendCompleted (server : Server) (s : Socket) :
    Moves host server.pairing (sendCompleted s server).pairing := by
  unfold sendCompleted
  split
  · exact .refl
  · rename_i queue hqueue
    obtain ⟨state, hstate, hown⟩ := Option.bind_eq_some_iff.mp hqueue
    refine Moves.of_eq (Eq.symm (pairing_update_of_link fun state' hstate' => ?_))
    cases hstate.symm.trans hstate'
    rw [link_setForwardQueue]
    have hsame := link_queue hown
    exact Link.setQueue_of_queue hsame

theorem moves_lifecycleOf (server : Server) (options : PiTunnelServerOptions) (now : Int)
    (s : Socket) : Moves host server.pairing (lifecycleOf options now server s).pairing := by
  unfold lifecycleOf
  split
  · exact .refl
  · split_ifs
    · exact .refl
    · exact moves_safeClose host server s _ _
    · exact moves_safeClose host server s _ _
    · exact moves_terminate host server s
    · refine Moves.of_eq (Eq.symm ?_)
      exact pairing_updateBase fun _ => rfl

theorem moves_revocationsPolled (server : Server) (activeNodeIds : Option (List String)) :
    Moves host server.pairing (revocationsPolled activeNodeIds server).pairing := by
  unfold revocationsPolled
  split
  · exact .refl
  · refine moves_foldl host server _ (fun server entry => ?_) _
    split_ifs
    · exact .refl
    · split
      · split_ifs
        · exact .refl
        · exact moves_safeClose host server _ _ _
      · exact moves_safeClose host server _ _ _

/-! ### Closed sockets -/

theorem pairing_erase (server : Server) (s : Socket) :
    ({ server with states := server.states.erase s } : Server).pairing =
      server.pairing.set s none := by
  have hlink : (fun k => ((server.states.erase s).lookup k).map ConnectionState.link) =
      Function.update server.pairing.link s none := by
    ext1 k
    rw [Function.update_apply]
    split_ifs with hk
    · rw [hk, AList.lookup_erase]
      rfl
    · rw [AList.lookup_erase_ne hk]
      rfl
  exact congrArg (fun link => (⟨link, _, _, _⟩ : Pairing)) hlink

theorem Pairing.set_comm (p : Pairing) {t : Socket} (hne : s ≠ t) (a b : Option Link) :
    (p.set s a).set t b = (p.set t b).set s a := by
  simp only [Pairing.set, Function.update_comm hne]

theorem moves_cleanupClient (hinv : Inv host server.pairing) {state : ClientState}
    (hclient : server.states.lookup c = some (.client state)) :
    Moves host server.pairing
      (cleanupClient c state { server with states := server.states.erase c }).pairing := by
  have hlink := link_of_lookup hclient
  set erased : Server := { server with states := server.states.erase c } with herased
  have hpairing : erased.pairing = server.pairing.set c none := pairing_erase server c
  have hleave : (∀ n node, state.node = some n → server.pairing.link n = some (.node node) →
      node.client ≠ some c ∧ node.pending.map (·.client) ≠ some c) →
      Moves host server.pairing erased.pairing := by
    intro hnot
    rw [hpairing]
    exact .single (.leave hlink (hinv.unclaimed host hlink hnot))
  unfold cleanupClient
  split
  · rename_i hnone
    exact hleave fun n _ hn => by cases hnone.symm.trans hn
  · rename_i n hn
    split
    · rename_i node hnode
      have hne : n ≠ c := by
        rintro rfl
        rw [herased, AList.lookup_erase] at hnode
        cases hnode
      have hnode' : server.states.lookup n = some (.node node) := by
        rwa [herased, AList.lookup_erase_ne hne] at hnode
      have hnodeLink := link_of_lookup hnode'
      have hnodeInv := hinv.node n _ hnodeLink
      by_cases hpartner : node.client = some c
      · -- the client of the node
        have hparted : (erased.updateNode n (·.parted)).pairing =
            (server.pairing.set n (some (.node node.link.parted))).set c none := by
          rw [pairing_updateNode hnode, hpairing, Pairing.set_comm _ hne.symm]
          rfl
        have hpart : Moves host server.pairing (erased.updateNode n (·.parted)).pairing := by
          rw [hparted]
          exact .single (.part hnodeLink hpartner hlink)
        have hnoPending : node.pendingAuthorization = none :=
          hnodeInv.pending_eq_none (by
            have hphase : node.link.phase = .paired := (hnodeInv.partner c hpartner).1
            simp [hphase])
        rw [if_pos hpartner, hnoPending, Option.map_none, if_neg nofun]
        refine hpart.trans (moves_sendControl host _ n fun other _ hother => ?_)
        rw [hparted, Pairing.link_set, if_neg hne, Pairing.link_set, if_pos rfl] at hother
        cases hother
        rfl
      · rw [if_neg hpartner]
        split_ifs with hpending
        · -- the client that the node is asked about
          have hdropped : (server.pairing.set n (some (.node node.link.notAsking))).set c none =
              (erased.updateNode n (·.notAsking)).pairing := by
            rw [pairing_updateNode hnode, hpairing, Pairing.set_comm _ hne.symm]
            rfl
          have hdrop : Move host server.pairing
              (server.pairing.set n (some (.node node.link.notAsking))) := by
            refine .drop hnodeLink ?_
            obtain ⟨pending, hsome, -⟩ := Option.map_eq_some_iff.mp hpending
            exact Option.isSome_iff_exists.mpr ⟨pending, hsome⟩
          have hlink' : (server.pairing.set n (some (.node node.link.notAsking))).link c =
              some (ConnectionState.client state).link := by
            rw [Pairing.link_set, if_neg hne.symm, hlink]
          rw [← hdropped]
          refine (Relation.ReflTransGen.single hdrop).trans (.single (.leave hlink' ?_))
          refine (hdrop.inv hinv).unclaimed host hlink' fun m other hm hother => ?_
          cases hn.symm.trans hm
          rw [Pairing.link_set, if_pos rfl] at hother
          cases hother
          exact ⟨hpartner, nofun⟩
        · refine hleave fun m other hm hother => ?_
          cases hn.symm.trans hm
          cases hnodeLink.symm.trans hother
          exact ⟨hpartner, hpending⟩
    · rename_i hnot
      refine hleave fun m other hm hother => ?_
      cases hn.symm.trans hm
      obtain ⟨st, hst, hstlink⟩ := Option.map_eq_some_iff.mp hother
      have hne : n ≠ c := by
        rintro rfl
        cases hclient.symm.trans hst
        cases hstlink
      cases st with
      | node node => exact absurd ((AList.lookup_erase_ne hne).trans hst) (hnot node)
      | client client => cases hstlink

theorem pairing_unregister (server : Server) (nodeId : Option String) (n : Socket) :
    (unregister nodeId n server).pairing = server.pairing.unregister nodeId n := by
  have hregistered : (fun id => (unregister nodeId n server).nodes.lookup id) =
      (server.pairing.unregister nodeId n).registered := by
    ext1 id
    unfold unregister
    split
    · rename_i nodeId
      by_cases hown : server.nodes.lookup nodeId = some n
      · rw [if_pos hown]
        by_cases heq : id = nodeId
        · subst heq
          have hfree : (server.pairing.unregister (some id) n).registered id = none :=
            if_pos ⟨rfl, hown⟩
          exact (AList.lookup_erase _ _).trans hfree.symm
        · have hkept : (server.pairing.unregister (some nodeId) n).registered id =
              server.nodes.lookup id := if_neg fun h => heq (Option.some.inj h.1).symm
          exact (AList.lookup_erase_ne heq).trans hkept.symm
      · rw [if_neg hown]
        refine (if_neg ?_ : (server.pairing.unregister (some nodeId) n).registered id = _).symm
        rintro ⟨heq, hreg⟩
        cases heq
        exact hown hreg
    · rfl
  have hrest : (unregister nodeId n server).states = server.states ∧
      (unregister nodeId n server).accepted = server.accepted ∧
      (unregister nodeId n server).history = server.history := by
    unfold unregister
    split
    · split_ifs <;> exact ⟨rfl, rfl, rfl⟩
    · exact ⟨rfl, rfl, rfl⟩
  unfold pairing at hregistered ⊢
  rw [hregistered, hrest.1, hrest.2.1, hrest.2.2]
  rfl

theorem moves_nodeDisconnected (server : Server) (client : Option Socket) :
    Moves host server.pairing (nodeDisconnected client server).pairing := by
  unfold nodeDisconnected
  split
  · exact moves_safeClose host server _ _ _
  · exact .refl

theorem moves_cleanupNode {n : Socket} {state : NodeState}
    (hnode : server.states.lookup n = some (.node state)) :
    Moves host server.pairing
      (cleanupNode n state { server with states := server.states.erase n }).pairing := by
  have hclose : Moves host server.pairing (unregister state.nodeId n
      { server with states := server.states.erase n }).pairing := by
    rw [pairing_unregister, pairing_erase]
    exact .single (.close (link_of_lookup hnode))
  exact hclose.trans ((moves_nodeDisconnected host _ _).trans (moves_nodeDisconnected host _ _))

theorem moves_cleanup (hinv : Inv host server.pairing) (s : Socket) :
    Moves host server.pairing (cleanup s server).pairing := by
  unfold cleanup
  split
  · exact .refl
  · rename_i state hstate
    cases state with
    | client state => exact moves_cleanupClient host hinv hstate
    | node state => exact moves_cleanupNode host hstate

/-! ### Runs -/

theorem step_moves (hinv : Inv host server.pairing) (options : PiTunnelServerOptions)
    (event : Event) : Moves host server.pairing (step host options event server).pairing := by
  cases event with
  | upgrade role challenge now => exact moves_upgrade host server options role challenge now
  | message s data isBinary now requestId bufferedAmount =>
    dsimp only [step]
    split_ifs
    · exact moves_onMessage host server options s data isBinary now requestId bufferedAmount
    · exact .refl
  | resume s device => exact moves_resume host server s device
  | pong s =>
    refine Moves.of_eq (Eq.symm ?_)
    exact pairing_updateBase fun _ => rfl
  | handshakeTimeout s => exact moves_handshakeTimeout host hinv s
  | drain s bufferedAmounts => exact moves_drainTimeout host server options s bufferedAmounts
  | sendCompleted s => exact moves_sendCompleted host server s
  | lifecycle now =>
    exact moves_foldl host server _ (fun server s => moves_lifecycleOf host server options now s) _
  | pollRevocations =>
    dsimp only [step, pollRevocations]
    split_ifs <;> exact .refl
  | revocationsPolled activeNodeIds => exact moves_revocationsPolled host server activeNodeIds
  | closing s =>
    refine Moves.of_eq (Eq.symm ?_)
    exact pairing_updateBase fun _ => rfl
  | closed s => exact moves_cleanup host hinv s

theorem inv_start : Inv host start.pairing where
  bound _ _ h := by cases h
  announced _ _ h := by cases h
  registered _ _ h := by cases h
  node _ _ h := by cases h
  client _ _ h := by cases h
  justified := by
    intro earlier entry later h
    simp [start, pairing] at h

theorem asked_start : Asked start.pairing where
  bound _ _ _ h := by cases h
  links _ _ h := by cases h
  phase _ _ _ _ h := by cases h

/-- The invariants hold after every sequence of events. -/
theorem run_inv (options : PiTunnelServerOptions) (events : List Event) :
    Inv host (run host options events).pairing ∧ Asked (run host options events).pairing := by
  induction events using List.reverseRecOn with
  | nil => exact ⟨inv_start host, asked_start⟩
  | append_singleton events event ih =>
    rw [run, List.foldl_append]
    have hmoves := step_moves host ih.1 options event
    exact ⟨hmoves.inv ih.1, hmoves.asked ih.2⟩

end

end Frely.PiTunnel
