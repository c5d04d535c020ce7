import Mathlib.Logic.Relation
import ErdosNode.Operators

/-
N nodes running `Node::run_operators` side by side, as a step relation: node steps, worker and
operator reports and deliveries interleave freely.  Each node logs the reads its three barriers
took, which `Cluster.Refinement` feeds to the code's loops.
-/

namespace ErdosNode

/-- The deployment the nodes share: how many there are and the scheduled graph, which assigns
every operator to a node. -/
structure Cluster where
  numNodes : Nat
  graph : ScheduledGraph

/-- The ids of the operators the graph assigns to node `n`, in graph order. -/
def Cluster.localOperators (c : Cluster) (n : NodeId) : List OperatorId :=
  (c.graph.localOperators n).map (·.id)

/-- How far `run_operators` has got on one node. -/
inductive Phase where
  /-- Phase B: `wait_for_communication_layer_initialized`. -/
  | communication
  /-- Phases C to E: operators spawned, `wait_for_local_operators_initialized`. -/
  | operators
  /-- Phase G: driver set up and broadcast sent, `wait_for_all_operators_initialized`. -/
  | allOperators
  /-- Phase H: `set_node_initialized` has set the latch. -/
  | initialized
  /-- Phase I: `RunOperator` sent to every local operator. -/
  | running
deriving DecidableEq, Repr

/-- The position of a phase in the protocol. -/
def Phase.rank : Phase → Nat
  | .communication => 0
  | .operators => 1
  | .allOperators => 2
  | .initialized => 3
  | .running => 4

instance : LE Phase := ⟨fun a b => a.rank ≤ b.rank⟩

instance : DecidableRel (α := Phase) (· ≤ ·) := fun a b =>
  inferInstanceAs (Decidable (a.rank ≤ b.rank))

@[simp] theorem Phase.le_iff_rank_le {a b : Phase} : a ≤ b ↔ a.rank ≤ b.rank := Iff.rfl

/-- One node: where `run_operators` is, the sets its three barriers have built, whether its
driver's setup hooks have run, the messages waiting for it, and which of its workers and local
operators have reported so far. -/
structure NodeState where
  phase : Phase
  workers : WorkerSets
  initializedOperators : Finset OperatorId
  driverSetUp : Bool
  initializedNodes : Finset NodeId
  /-- Messages the node's control handler holds. -/
  inbox : List ControlMessage
  /-- Messages waiting on `rx_from_operators`. -/
  fromOperators : List ControlMessage
  /-- For each worker kind, the peers whose worker of that kind has reported. -/
  reportedWorkers : WorkerSets
  /-- The positions, among the node's local operators, of those that have reported. -/
  reportedOperators : Finset Nat
  /-- The readiness reports Phase B has read, in order. -/
  workerReads : List (Worker × NodeId)
  /-- The messages Phase E has read from `rx_from_operators`, in order. -/
  operatorReads : List ControlMessage
  /-- The node ids Phase G has read, in order. -/
  nodeReads : List NodeId

/-- The latch of `run_async` is set once the node has reached Phase H. -/
def NodeState.latched (st : NodeState) : Prop := Phase.initialized ≤ st.phase

/-- `RunOperator` messages have been sent once the node has reached Phase I. -/
def NodeState.runOperatorSent (st : NodeState) : Prop := st.phase = .running

/-- Node `n` at the start of `run_operators`. -/
def NodeState.init (n : NodeId) : NodeState where
  phase := .communication
  workers := WorkerSets.seeded n
  initializedOperators := ∅
  driverSetUp := false
  initializedNodes := {n}
  inbox := []
  fromOperators := []
  reportedWorkers := fun _ => ∅
  reportedOperators := ∅
  workerReads := []
  operatorReads := []
  nodeReads := []

/-- All nodes and the control messages in flight, each with its destination. -/
structure State where
  node : NodeId → NodeState
  network : List (NodeId × ControlMessage)

def State.init : State := ⟨NodeState.init, []⟩

/-- Replace node `n`'s state. -/
def State.setNode (s : State) (n : NodeId) (st : NodeState) : State :=
  { s with node := Function.update s.node n st }

@[simp] theorem State.setNode_node_self (s : State) (n : NodeId) (st : NodeState) :
    (s.setNode n st).node n = st := Function.update_same _ _ _

@[simp] theorem State.setNode_node_ne (s : State) {n m : NodeId} (st : NodeState) (h : m ≠ n) :
    (s.setNode n st).node m = s.node m := Function.update_noteq h _ _

@[simp] theorem State.setNode_network (s : State) (n : NodeId) (st : NodeState) :
    (s.setNode n st).network = s.network := rfl

/-- Replace the messages in flight. -/
def State.setNetwork (s : State) (network : List (NodeId × ControlMessage)) : State :=
  { s with network := network }

@[simp] theorem State.setNetwork_node (s : State) (network : List (NodeId × ControlMessage)) :
    (s.setNetwork network).node = s.node := rfl

@[simp] theorem State.setNetwork_network (s : State)
    (network : List (NodeId × ControlMessage)) : (s.setNetwork network).network = network := rfl

/-- The `AllOperatorsInitializedOnNode(n)` messages `broadcast_to_nodes` puts in flight, one to
every other node. -/
def broadcastMessages (numNodes n : NodeId) : List (NodeId × ControlMessage) :=
  ((List.range numNodes).filter (· ≠ n)).map fun m => (m, .allOperatorsInitializedOnNode n)

/-- One step of the system. -/
inductive Step (c : Cluster) : State → State → Prop
  /-- On node `n`, the worker of kind `w` serving peer `p` reports that it is ready. -/
  | workerReady {s : State} {n p : NodeId} {w : Worker} :
      n < c.numNodes → p < c.numNodes → p ≠ n → p ∉ (s.node n).reportedWorkers w →
      Step c s (s.setNode n { s.node n with
        inbox := (s.node n).inbox ++ [.initialized w p],
        reportedWorkers := (s.node n).reportedWorkers.record (w, p) })
  /-- Phase B: one iteration of `wait_for_communication_layer_initialized`, on the readiness
  message of the worker of kind `w` serving peer `p`. -/
  | readInitialized {s : State} {n p : NodeId} {w : Worker} :
      n < c.numNodes → (s.node n).phase = .communication →
      (s.node n).workers.pending c.numNodes = true → .initialized w p ∈ (s.node n).inbox →
      Step c s (s.setNode n { s.node n with
        inbox := (s.node n).inbox.erase (.initialized w p),
        workers := (s.node n).workers.record (w, p),
        workerReads := (s.node n).workerReads ++ [(w, p)] })
  /-- Phase B returns; C and D: schedule the graph and spawn the local operators. -/
  | spawnOperators {s : State} {n : NodeId} :
      n < c.numNodes → (s.node n).phase = .communication →
      (s.node n).workers.pending c.numNodes = false →
      Step c s (s.setNode n { s.node n with phase := .operators })
  /-- The `i`-th local operator of node `n` reports `OperatorInitialized`. -/
  | operatorReady {s : State} {n i : Nat} (hi : i < (c.localOperators n).length) :
      n < c.numNodes → (s.node n).phase ≠ .communication →
      i ∉ (s.node n).reportedOperators →
      Step c s (s.setNode n { s.node n with
        fromOperators := (s.node n).fromOperators ++
          [.operatorInitialized ((c.localOperators n).get ⟨i, hi⟩)],
        reportedOperators := insert i (s.node n).reportedOperators })
  /-- Phase E: one iteration of `wait_for_local_operators_initialized`. -/
  | readOperatorInitialized {s : State} {n : NodeId} {msg : ControlMessage} :
      n < c.numNodes → (s.node n).phase = .operators →
      (s.node n).initializedOperators.card < (c.graph.localOperators n).length →
      msg ∈ (s.node n).fromOperators →
      Step c s (s.setNode n { s.node n with
        fromOperators := (s.node n).fromOperators.erase msg,
        initializedOperators :=
          recordOperatorInitialized (s.node n).initializedOperators (some msg),
        operatorReads := (s.node n).operatorReads ++ [msg] })
  /-- Phase E returns; F: the driver's setup hooks run; G: the broadcast goes out. -/
  | broadcast {s : State} {n : NodeId} :
      n < c.numNodes → (s.node n).phase = .operators →
      (c.graph.localOperators n).length ≤ (s.node n).initializedOperators.card →
      Step c s ((s.setNode n { s.node n with
          phase := .allOperators
          driverSetUp := true }).setNetwork
        (s.network ++ broadcastMessages c.numNodes n))
  /-- The network hands a message in flight to its destination's control handler. -/
  | deliver {s : State} {m : NodeId} {msg : ControlMessage} :
      (m, msg) ∈ s.network →
      Step c s ((s.setNode m { s.node m with inbox := (s.node m).inbox ++ [msg] }).setNetwork
        (s.network.erase (m, msg)))
  /-- Phase G: one iteration of `wait_for_all_operators_initialized`. -/
  | readAllOperatorsInitialized {s : State} {n k : NodeId} :
      n < c.numNodes → (s.node n).phase = .allOperators →
      (s.node n).initializedNodes.card < c.numNodes →
      .allOperatorsInitializedOnNode k ∈ (s.node n).inbox →
      Step c s (s.setNode n { s.node n with
        inbox := (s.node n).inbox.erase (.allOperatorsInitializedOnNode k),
        initializedNodes := insert k (s.node n).initializedNodes,
        nodeReads := (s.node n).nodeReads ++ [k] })
  /-- Phase G returns; H: `set_node_initialized`. -/
  | setNodeInitialized {s : State} {n : NodeId} :
      n < c.numNodes → (s.node n).phase = .allOperators →
      c.numNodes ≤ (s.node n).initializedNodes.card →
      Step c s (s.setNode n { s.node n with phase := .initialized })
  /-- Phase I: `RunOperator` goes to every local operator. -/
  | runOperators {s : State} {n : NodeId} :
      n < c.numNodes → (s.node n).phase = .initialized →
      Step c s (s.setNode n { s.node n with phase := .running })

/-- The states the nodes can reach together from the start of `run_operators`. -/
def Reachable (c : Cluster) (s : State) : Prop := Relation.ReflTransGen (Step c) State.init s

/-- No node step, report or delivery is enabled. -/
def Stuck (c : Cluster) (s : State) : Prop := ∀ s', ¬ Step c s s'

end ErdosNode
