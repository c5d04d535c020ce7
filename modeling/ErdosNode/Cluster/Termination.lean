import Mathlib.Algebra.BigOperators.Group.Finset
import ErdosNode.Cluster.Model

/-
Every interleaving of the startup protocol is finite: each step lowers a potential that counts the
work left, two steps per message and per report still to come and the rest of each phase walk.
-/

namespace ErdosNode

/-- Steps left to a node's phase walk; the broadcast also pays for the `N - 1` messages it puts in
flight, two steps each. -/
def Phase.budget (numNodes : Nat) : Phase → Nat
  | .communication => 2 * numNodes + 2
  | .operators => 2 * numNodes + 1
  | .allOperators => 2
  | .initialized => 1
  | .running => 0

/-- The readiness reports node `n` has not had yet: one per worker kind and peer. -/
def unreportedWorkers (numNodes n : NodeId) (reported : WorkerSets) : Finset (Worker × NodeId) :=
  (Finset.univ ×ˢ (Finset.range numNodes).erase n).filter fun r => r.2 ∉ reported r.1

/-- The local operators, by position, that have not reported yet. -/
def unreportedOperators (numOperators : Nat) (reported : Finset Nat) : Finset Nat :=
  Finset.range numOperators \ reported

/-- The work left to node `n`. -/
def NodeState.potential (c : Cluster) (n : NodeId) (st : NodeState) : Nat :=
  st.inbox.length + st.fromOperators.length +
    2 * (unreportedWorkers c.numNodes n st.reportedWorkers).card +
    2 * (unreportedOperators (c.localOperators n).length st.reportedOperators).card +
    st.phase.budget c.numNodes

/-- The work left to the whole system. -/
def State.potential (c : Cluster) (s : State) : Nat :=
  2 * s.network.length + ∑ n ∈ Finset.range c.numNodes, (s.node n).potential c n

theorem card_unreportedWorkers_record {numNodes n p : NodeId} {reported : WorkerSets}
    {w : Worker} (hp : p < numNodes) (hpn : p ≠ n) (hnot : p ∉ reported w) :
    (unreportedWorkers numNodes n (reported.record (w, p))).card + 1 =
      (unreportedWorkers numNodes n reported).card := by
  have herase : unreportedWorkers numNodes n (reported.record (w, p)) =
      (unreportedWorkers numNodes n reported).erase (w, p) := by
    ext ⟨w', p'⟩
    simp only [unreportedWorkers, Finset.mem_filter, Finset.mem_erase, WorkerSets.mem_record]
    tauto
  rw [herase, Finset.card_erase_add_one]
  simp [unreportedWorkers, hp, hpn, hnot]

theorem card_unreportedOperators_insert {numOperators i : Nat} {reported : Finset Nat}
    (hi : i < numOperators) (hnot : i ∉ reported) :
    (unreportedOperators numOperators (insert i reported)).card + 1 =
      (unreportedOperators numOperators reported).card := by
  unfold unreportedOperators
  rw [Finset.sdiff_insert, Finset.card_erase_add_one]
  simp [hi, hnot]

/-- `broadcast_to_nodes` reaches every node but the sender. -/
theorem length_broadcastMessages_lt {numNodes n : NodeId} (hn : n < numNodes) :
    (broadcastMessages numNodes n).length < numNodes := by
  have h := (List.length_filter_lt_length_iff_exists (p := fun m : NodeId => decide (m ≠ n))).mpr
    ⟨n, List.mem_range.mpr hn, by simp⟩
  simpa [broadcastMessages] using h

section Potential

variable {c : Cluster} {s s' : State}

theorem State.potential_setNode (s : State) {n : NodeId} (hn : n < c.numNodes) (st : NodeState) :
    (s.setNode n st).potential c + (s.node n).potential c n = s.potential c + st.potential c n := by
  have hmem := Finset.mem_range.mpr hn
  have hrest : ∑ j ∈ (Finset.range c.numNodes).erase n, ((s.setNode n st).node j).potential c j =
      ∑ j ∈ (Finset.range c.numNodes).erase n, (s.node j).potential c j :=
    Finset.sum_congr rfl fun j hj => by rw [State.setNode_node_ne _ _ (Finset.ne_of_mem_erase hj)]
  simp only [State.potential, State.setNode_network, ← Finset.add_sum_erase _ _ hmem, hrest,
    State.setNode_node_self]
  omega

/-- A node outside the cluster carries no potential. -/
theorem State.potential_setNode_of_le (s : State) {n : NodeId} (hn : c.numNodes ≤ n)
    (st : NodeState) : (s.setNode n st).potential c = s.potential c := by
  have hsum : ∑ j ∈ Finset.range c.numNodes, ((s.setNode n st).node j).potential c j =
      ∑ j ∈ Finset.range c.numNodes, (s.node j).potential c j :=
    Finset.sum_congr rfl fun j hj => by
      rw [State.setNode_node_ne _ _ (Nat.ne_of_lt (lt_of_lt_of_le (Finset.mem_range.mp hj) hn))]
  rw [State.potential, State.potential, State.setNode_network, hsum]

theorem State.potential_setNetwork (s : State) (network : List (NodeId × ControlMessage)) :
    (s.setNetwork network).potential c + 2 * s.network.length =
      s.potential c + 2 * network.length := by
  simp only [State.potential, State.setNetwork_network, State.setNetwork_node]
  omega

theorem State.potential_setNode_lt {n : NodeId} (hn : n < c.numNodes) {st : NodeState}
    (h : st.potential c n < (s.node n).potential c n) :
    (s.setNode n st).potential c < s.potential c := by
  have := s.potential_setNode hn st
  omega

theorem State.potential_setNode_setNetwork_lt {n : NodeId} (hn : n < c.numNodes)
    {st : NodeState} {network : List (NodeId × ControlMessage)}
    (h : st.potential c n + 2 * network.length < (s.node n).potential c n + 2 * s.network.length) :
    ((s.setNode n st).setNetwork network).potential c < s.potential c := by
  have := s.potential_setNode hn st
  have := (s.setNode n st).potential_setNetwork (c := c) network
  simp only [State.setNode_network] at this
  omega

theorem State.potential_setNode_setNetwork_of_le {n : NodeId} (hn : c.numNodes ≤ n)
    {st : NodeState} {network : List (NodeId × ControlMessage)}
    (h : network.length < s.network.length) :
    ((s.setNode n st).setNetwork network).potential c < s.potential c := by
  have := (s.setNode n st).potential_setNetwork (c := c) network
  rw [s.potential_setNode_of_le hn, State.setNode_network] at this
  omega

/-- Every step of the system uses up some of the work left. -/
theorem Step.potential_lt (h : Step c s s') : s'.potential c < s.potential c := by
  cases h with
  | workerReady hn hp hpn hnot =>
      refine State.potential_setNode_lt hn ?_
      have := card_unreportedWorkers_record hp hpn hnot
      simp only [NodeState.potential, List.length_append, List.length_singleton]
      omega
  | operatorReady hi hn _ hnot =>
      refine State.potential_setNode_lt hn ?_
      have := card_unreportedOperators_insert hi hnot
      simp only [NodeState.potential, List.length_append, List.length_singleton]
      omega
  | readInitialized hn _ _ hmsg | readOperatorInitialized hn _ _ hmsg
    | readAllOperatorsInitialized hn _ _ hmsg =>
      refine State.potential_setNode_lt hn ?_
      have := List.length_erase_add_one hmsg
      simp only [NodeState.potential]
      omega
  | spawnOperators hn hphase _ | setNodeInitialized hn hphase _ | runOperators hn hphase =>
      exact State.potential_setNode_lt hn (by simp [NodeState.potential, hphase, Phase.budget])
  | broadcast hn hphase _ =>
      refine State.potential_setNode_setNetwork_lt hn ?_
      have := length_broadcastMessages_lt hn
      simp only [NodeState.potential, hphase, Phase.budget, List.length_append]
      omega
  | @deliver m msg hmsg =>
      have := List.length_erase_of_mem hmsg
      have := List.length_pos_of_mem hmsg
      by_cases hm : m < c.numNodes
      · refine State.potential_setNode_setNetwork_lt hm ?_
        simp only [NodeState.potential, List.length_append, List.length_singleton]
        omega
      · exact State.potential_setNode_setNetwork_of_le (not_lt.mp hm) (by omega)

/-- A run of the system is no longer than the work left where it starts. -/
theorem length_le_potential_of_chain {run : List State} (h : List.Chain (Step c) s run) :
    run.length ≤ s.potential c := by
  induction run generalizing s with
  | nil => simp
  | cons s' rest ih =>
      obtain ⟨hstep, hrest⟩ := List.chain_cons.mp h
      have := ih hrest
      have := hstep.potential_lt
      simp only [List.length_cons]
      omega

/-- From every reachable state the nodes can go on to a reachable state where nothing is enabled:
take steps while one is enabled, each lowering the potential. -/
theorem Reachable.exists_stuck (hs : Reachable c s) : ∃ t, Reachable c t ∧ Stuck c t := by
  obtain ⟨p, hp⟩ : ∃ p, s.potential c = p := ⟨_, rfl⟩
  induction p using Nat.strong_induction_on generalizing s with
  | h p ih =>
      by_cases hstuck : Stuck c s
      · exact ⟨s, hs, hstuck⟩
      · obtain ⟨s', hstep⟩ : ∃ s', Step c s s' := by simpa [Stuck] using hstuck
        exact ih _ (hp ▸ hstep.potential_lt) (hs.tail hstep) rfl

end Potential

/-- At the start each node has `10 N - 6` steps of work, and two per local operator. -/
theorem State.potential_init (c : Cluster) :
    State.init.potential c = ∑ n ∈ Finset.range c.numNodes,
      (10 * c.numNodes - 6 + 2 * (c.localOperators n).length) := by
  simp only [State.potential, State.init, List.length_nil, Nat.mul_zero, Nat.zero_add]
  refine Finset.sum_congr rfl fun n hn => ?_
  have hn := Finset.mem_range.mp hn
  have hworkers : (unreportedWorkers c.numNodes n fun _ => ∅).card = 4 * (c.numNodes - 1) := by
    have hkinds : Fintype.card Worker = 4 := rfl
    rw [unreportedWorkers, Finset.filter_true_of_mem fun _ _ => Finset.not_mem_empty _,
      Finset.card_product, Finset.card_univ, hkinds,
      Finset.card_erase_of_mem (Finset.mem_range.mpr hn), Finset.card_range]
  simp only [NodeState.potential, NodeState.init, List.length_nil, hworkers, unreportedOperators,
    Finset.sdiff_empty, Finset.card_range, Phase.budget]
  omega

/-- The startup protocol cannot run forever: no state starts an infinite sequence of steps, and
from the start, whatever the interleaving of the nodes, the workers, the operators and the
network, a run has at most `10 N - 6` steps per node and two per local operator. -/
theorem startup_protocol_terminates (c : Cluster) :
    (∀ f : ℕ → State, ¬ ∀ k, Step c (f k) (f (k + 1))) ∧
    ∀ run : List State, List.Chain (Step c) State.init run →
      run.length ≤ ∑ n ∈ Finset.range c.numNodes,
        (10 * c.numNodes - 6 + 2 * (c.localOperators n).length) := by
  refine ⟨fun f hf => ?_, fun run h => State.potential_init c ▸ length_le_potential_of_chain h⟩
  have hdrop : ∀ k, (f k).potential c + k ≤ (f 0).potential c := by
    intro k
    induction k with
    | zero => simp
    | succ k ih =>
        have := (hf k).potential_lt
        omega
  have := hdrop ((f 0).potential c + 1)
  omega

end ErdosNode
