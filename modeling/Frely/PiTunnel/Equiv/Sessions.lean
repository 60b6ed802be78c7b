import Frely.PiTunnel.Equiv.Server

/-!
# Sessions are private

`run_private`: after every sequence of events partners have each other and no one else, a node id
is that of one socket, a client is paired with a node that allowed it, and a frame that was sent
came from the other side of the session.
-/

namespace Frely.PiTunnel

open Server

/-- Nodes and clients are paired one to one, and what is sent stays between the two. -/
structure PrivateSessions (host : Host) (server : Server) : Prop where
  /-- A paired node has one client, which is paired with that node. -/
  node : ∀ n node, server.states.lookup n = some (.node node) →
    (node.base.phase = .paired ↔ node.client.isSome) ∧
    ∀ c, node.client = some c → ∃ client, server.states.lookup c = some (.client client) ∧
      client.base.phase = .paired ∧ client.node = some n
  /-- A paired client has the node that allowed it, and is the client of that node until the node
  is gone. -/
  client : ∀ c client, server.states.lookup c = some (.client client) →
    client.base.phase = .paired → ∃ n, client.node = some n ∧
      (∀ node, server.states.lookup n = some (.node node) → node.client = some c) ∧
      ∃ earlier later, server.history = earlier ++ .announced n c :: later ∧
        Allowed host earlier n c
  /-- The authenticated node of an id is the one that is registered. -/
  registered : ∀ n node nodeId, server.states.lookup n = some (.node node) →
    node.nodeId = some nodeId → server.nodes.lookup nodeId = some n
  /-- A client is announced once, to a node that allowed it. -/
  announced : ∀ earlier n c later, server.history = earlier ++ .announced n c :: later →
    Allowed host earlier n c ∧ ∀ n', .announced n' c ∉ earlier
  /-- A frame is sent to one side of the session that is going on; all frames sent to that side
  since the announcement are frames received from the other side since then, in their order. -/
  sent : ∀ earlier target frame later, server.history = earlier ++ .sent target frame :: later →
    ∃ n c since, Session earlier n c since ∧
      ((target = n ∧ (framesTo n since ++ [frame]).Sublist (framesFrom c since)) ∨
        (target = c ∧ (framesTo c since ++ [frame]).Sublist (framesFrom n since)))

/-- Sessions are private after every sequence of events. -/
theorem run_private (host : Host) (options : PiTunnelServerOptions) (events : List Event) :
    PrivateSessions host (run host options events) := by
  obtain ⟨hinv, -⟩ := run_inv host options events
  set server := run host options events
  have hannounced : ∀ earlier n c later, server.history = earlier ++ .announced n c :: later →
      Allowed host earlier n c ∧ ∀ n', .announced n' c ∉ earlier :=
    fun earlier n c later heq => hinv.justified earlier _ later heq
  refine ⟨fun n node hnode => ⟨⟨?_, fun hclient => ?_⟩, fun c hc => ?_⟩,
    fun c client hclient hphase => ?_, fun n node nodeId hnode hid => ?_, hannounced,
    fun earlier target frame later heq => hinv.justified earlier _ later heq⟩
  · exact (hinv.node n _ (link_of_lookup hnode)).paired
  · obtain ⟨c, hc⟩ := Option.isSome_iff_exists.mp hclient
    exact ((hinv.node n _ (link_of_lookup hnode)).partner c hc).1
  · obtain ⟨-, _, _, -, hlink, -⟩ := (hinv.node n _ (link_of_lookup hnode)).partner c hc
    obtain ⟨state, hstate, hpaired⟩ := Option.map_eq_some_iff.mp hlink
    cases state with
    | node other => cases hpaired
    | client client =>
      have hsame : client.link = ⟨.paired, some n, _⟩ := Link.client.inj hpaired
      exact ⟨client, hstate, congrArg ClientLink.phase hsame, congrArg ClientLink.node hsame⟩
  · obtain ⟨n, _, hn, -, hmem, hpartner⟩ :=
      (hinv.client c _ (link_of_lookup hclient)).paired hphase
    obtain ⟨earlier, later, heq⟩ := List.append_of_mem hmem
    exact ⟨n, hn, fun node hnode => hpartner _ (link_of_lookup hnode), earlier, later, heq,
      (hannounced earlier n c later heq).1⟩
  · exact (hinv.node n _ (link_of_lookup hnode)).registered nodeId hid

end Frely.PiTunnel
