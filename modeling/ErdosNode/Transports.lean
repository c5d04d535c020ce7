import ErdosNode.Barriers
import ErdosNode.Discovery

/-
The workers `async_run` builds before Phase B: one sender and one receiver per peer on each lane,
with TCP and with Zenoh.  Phase B waits for exactly these workers, in any order of their reports.
-/

namespace ErdosNode

/-! ### The builders -/

/-- The loop of the four builders: for each peer in turn it pushes a sender and a receiver for it,
each recorded by its peer, and returns `(senders, receivers)`. -/
def pushHalves (peers : List NodeId) : List NodeId × List NodeId :=
  peers.foldl (fun halves nodeId => (halves.1 ++ [nodeId], halves.2 ++ [nodeId])) ([], [])

/-- `Node::split_control_streams`, over the peers of the TCP control streams. -/
def splitControlStreams (streams : List NodeId) : List NodeId × List NodeId :=
  pushHalves streams

/-- `Node::split_data_streams`: `while let Some(..) = streams.pop()` takes the streams from the
back. -/
def splitDataStreams (streams : List NodeId) : List NodeId × List NodeId :=
  pushHalves streams.reverse

/-- `Node::get_control_streams`, over the ids it is given. -/
def getControlStreams (nodes : List NodeId) : List NodeId × List NodeId :=
  pushHalves nodes

/-- `Node::get_data_streams`, over the ids it is given. -/
def getDataStreams (nodes : List NodeId) : List NodeId × List NodeId :=
  pushHalves nodes

theorem foldl_pushHalves (peers senders receivers : List NodeId) :
    peers.foldl (fun halves nodeId => (halves.1 ++ [nodeId], halves.2 ++ [nodeId]))
      (senders, receivers) = (senders ++ peers, receivers ++ peers) := by
  induction peers generalizing senders receivers with
  | nil => simp
  | cons p rest ih => simp [ih]

@[simp] theorem pushHalves_eq (peers : List NodeId) : pushHalves peers = (peers, peers) := by
  simpa using foldl_pushHalves peers [] []

/-- `split_data_streams` returns its halves in the reverse order of the streams, where
`split_control_streams` keeps their order. -/
theorem splitDataStreams_eq_reverse (streams : List NodeId) :
    splitDataStreams streams =
      ((splitControlStreams streams).1.reverse, (splitControlStreams streams).2.reverse) := by
  simp [splitDataStreams, splitControlStreams]

/-! ### The workers of a setup -/

/-- Every worker one transport setup builds, by kind and peer, from the control and data halves
as the builders return them. -/
def setupWorkers (control data : List NodeId × List NodeId) : List (Worker × NodeId) :=
  control.1.map (Prod.mk .controlSender) ++ control.2.map (Prod.mk .controlReceiver) ++
    data.1.map (Prod.mk .dataSender) ++ data.2.map (Prod.mk .dataReceiver)

/-- The workers of the `tcp_transport` build, from the control and data streams
`create_tcp_streams` opened. -/
def tcpWorkers (controlStreams dataStreams : List NodeId) : List (Worker × NodeId) :=
  setupWorkers (splitControlStreams controlStreams) (splitDataStreams dataStreams)

/-- The workers of the Zenoh builds, for the peers `get_nodes_ids(num_nodes, self.id)` lists. -/
def zenohWorkers (numNodes id : NodeId) : List (Worker × NodeId) :=
  setupWorkers (getControlStreams (getNodesIds numNodes id))
    (getDataStreams (getNodesIds numNodes id))

section SetupWorkers

variable {control data : List NodeId} {numNodes id : NodeId}

/-- Builders run over lists that each hold exactly the peers of `id` give one worker of every kind
per peer. -/
theorem mem_setupWorkers (hcontrol : ∀ p, p ∈ control ↔ p < numNodes ∧ p ≠ id)
    (hdata : ∀ p, p ∈ data ↔ p < numNodes ∧ p ≠ id) (r : Worker × NodeId) :
    r ∈ setupWorkers (control, control) (data, data) ↔ r.2 < numNodes ∧ r.2 ≠ id := by
  obtain ⟨w, p⟩ := r
  cases w <;> simp [setupWorkers, hcontrol, hdata]

theorem nodup_setupWorkers (hcontrol : control.Nodup) (hdata : data.Nodup) :
    (setupWorkers (control, control) (data, data)).Nodup := by
  have hmap : ∀ {w : Worker} {peers : List NodeId}, peers.Nodup →
      (peers.map (Prod.mk w)).Nodup := fun h => h.map fun _ _ h => (Prod.mk.inj h).2
  simp only [setupWorkers, List.nodup_append, List.disjoint_append_left]
  refine ⟨⟨⟨hmap hcontrol, hmap hcontrol, ?_⟩, hmap hdata, ?_⟩, hmap hdata, ?_⟩ <;>
    simp [List.Disjoint]

/-- Phase B against the workers one setup built, when each builder's list holds every peer once:
it blocks exactly when a built worker never reports, and returns after the last report when each
reports once. -/
theorem communicationLayer_of_setupWorkers (node : Node) (hid : node.id < node.numNodes)
    (hcontrolNodup : control.Nodup) (hdataNodup : data.Nodup)
    (hcontrol : ∀ p, p ∈ control ↔ p < node.numNodes ∧ p ≠ node.id)
    (hdata : ∀ p, p ∈ data ↔ p < node.numNodes ∧ p ≠ node.id)
    {reports : List (Worker × NodeId)}
    (hreports : ∀ r ∈ reports, r ∈ setupWorkers (control, control) (data, data)) :
    (waitForCommunicationLayerInitialized node (initializedReads reports) = .blocked ↔
      ∃ r ∈ setupWorkers (control, control) (data, data), r ∉ reports) ∧
    (reports.Perm (setupWorkers (control, control) (data, data)) →
      waitForCommunicationLayerInitialized node (initializedReads reports) =
        .returned (.ok ()) (4 * (node.numNodes - 1))) := by
  have hmem := mem_setupWorkers hcontrol hdata
  have hbelow : ∀ r ∈ reports, r.2 < node.numNodes := fun r hr => ((hmem r).mp (hreports r hr)).1
  refine ⟨?_, fun hperm => ?_⟩
  · rw [waitForCommunicationLayerInitialized_eq_blocked_iff_not_covers node hid hbelow]
    simp only [CoversWorkers, not_forall, exists_prop, hmem, Prod.exists]
    tauto
  · exact waitForCommunicationLayerInitialized_of_each_report_once node hid
      (hperm.nodup_iff.mpr (nodup_setupWorkers hcontrolNodup hdataNodup))
      fun r => hperm.mem_iff.trans (hmem r)

end SetupWorkers

/-! ### Phase B waits for the workers the node built -/

/-- With `tcp_transport`, when the control and data streams `create_tcp_streams` opened lead to
every peer once each, Phase B waits for exactly the workers `split_control_streams` and
`split_data_streams` built from them: fed only their readiness reports, it blocks for good exactly
when one of them never reports, and when each reports once, in any order, it returns after the
last of the `4 * (num_nodes - 1)` reports. -/
theorem tcp_setup_phase_b_waits_for_every_built_worker (node : Node)
    (hid : node.id < node.numNodes) (controlStreams dataStreams : List NodeId)
    (hcontrolNodup : controlStreams.Nodup) (hdataNodup : dataStreams.Nodup)
    (hcontrol : ∀ p, p ∈ controlStreams ↔ p < node.numNodes ∧ p ≠ node.id)
    (hdata : ∀ p, p ∈ dataStreams ↔ p < node.numNodes ∧ p ≠ node.id)
    (reports : List (Worker × NodeId))
    (hreports : ∀ r ∈ reports, r ∈ tcpWorkers controlStreams dataStreams) :
    (waitForCommunicationLayerInitialized node (initializedReads reports) = .blocked ↔
      ∃ r ∈ tcpWorkers controlStreams dataStreams, r ∉ reports) ∧
    (reports.Perm (tcpWorkers controlStreams dataStreams) →
      waitForCommunicationLayerInitialized node (initializedReads reports) =
        .returned (.ok ()) (4 * (node.numNodes - 1))) := by
  simp only [tcpWorkers, splitControlStreams, splitDataStreams, pushHalves_eq] at hreports ⊢
  exact communicationLayer_of_setupWorkers node hid hcontrolNodup (List.nodup_reverse.mpr hdataNodup)
    hcontrol (fun p => List.mem_reverse.trans (hdata p)) hreports

theorem pairNode_tcp_setup_phase_b :
    (waitForCommunicationLayerInitialized pairNode
        (initializedReads [(.controlSender, 1), (.dataReceiver, 1), (.dataSender, 1)]) =
          .blocked ↔
      ∃ r ∈ tcpWorkers [1] [1], r ∉ [(.controlSender, 1), (.dataReceiver, 1), (.dataSender, 1)]) ∧
    ([(.controlSender, 1), (.dataReceiver, 1), (.dataSender, 1)].Perm (tcpWorkers [1] [1]) →
      waitForCommunicationLayerInitialized pairNode
          (initializedReads [(.controlSender, 1), (.dataReceiver, 1), (.dataSender, 1)]) =
        .returned (.ok ()) (4 * (pairNode.numNodes - 1))) :=
  have hpeer : ∀ p : Nat, p ∈ [1] ↔ p < pairNode.numNodes ∧ p ≠ pairNode.id := fun p => by
    simpa [pairNode, Node.new, Node.numNodes] using (by omega : p = 1 ↔ p < 2 ∧ p ≠ 0)
  tcp_setup_phase_b_waits_for_every_built_worker pairNode (by decide) [1] [1] (by decide)
    (by decide) hpeer hpeer _ (by decide)

/-- With the Zenoh transports, Phase B waits for exactly the workers `get_control_streams` and
`get_data_streams` built for the ids of `get_nodes_ids(num_nodes, self.id)`: fed only their
readiness reports, it blocks for good exactly when one of them never reports, and when each
reports once, in any order, it returns after the last of the `4 * (num_nodes - 1)` reports. -/
theorem zenoh_setup_phase_b_waits_for_every_built_worker (node : Node)
    (hid : node.id < node.numNodes) (reports : List (Worker × NodeId))
    (hreports : ∀ r ∈ reports, r ∈ zenohWorkers node.numNodes node.id) :
    (waitForCommunicationLayerInitialized node (initializedReads reports) = .blocked ↔
      ∃ r ∈ zenohWorkers node.numNodes node.id, r ∉ reports) ∧
    (reports.Perm (zenohWorkers node.numNodes node.id) →
      waitForCommunicationLayerInitialized node (initializedReads reports) =
        .returned (.ok ()) (4 * (node.numNodes - 1))) := by
  have hnodup : (idsBelow node.numNodes node.id).Nodup := idsBelow_sorted.nodup
  simp only [zenohWorkers, getControlStreams, getDataStreams, pushHalves_eq,
    getNodesIds_eq_idsBelow] at hreports ⊢
  exact communicationLayer_of_setupWorkers node hid hnodup hnodup (fun _ => mem_idsBelow)
    (fun _ => mem_idsBelow) hreports

theorem pairNode_zenoh_setup_phase_b :
    (waitForCommunicationLayerInitialized pairNode
        (initializedReads [(.dataSender, 1), (.controlReceiver, 1)]) = .blocked ↔
      ∃ r ∈ zenohWorkers 2 0, r ∉ [(.dataSender, 1), (.controlReceiver, 1)]) ∧
    ([(.dataSender, 1), (.controlReceiver, 1)].Perm (zenohWorkers 2 0) →
      waitForCommunicationLayerInitialized pairNode
          (initializedReads [(.dataSender, 1), (.controlReceiver, 1)]) =
        .returned (.ok ()) (4 * (pairNode.numNodes - 1))) :=
  zenoh_setup_phase_b_waits_for_every_built_worker pairNode (by decide) _ (by decide)

end ErdosNode
