import ErdosNode.Cluster.Safety

/-
The N-node model against the code's barrier loops: fed the reads a node has logged, each of
`wait_for_communication_layer_initialized`, `wait_for_local_operators_initialized` and
`wait_for_all_operators_initialized` stands where the node's sets and phase say.
-/

namespace ErdosNode

/-- Appending a read taken while the guard held keeps every read of the log guarded. -/
theorem guarded_append_singleton {σ α : Type} {P : σ → Prop} {step : σ → α → σ} {start : σ}
    {reads : List α} (h : ∀ j < reads.length, P ((reads.take j).foldl step start))
    (hlast : P (reads.foldl step start)) (a : α) :
    ∀ j < (reads ++ [a]).length, P (((reads ++ [a]).take j).foldl step start) := by
  intro j hj
  rcases Nat.lt_or_ge j reads.length with hj' | hj'
  · rw [List.take_append_of_le_length hj'.le]
    exact h j hj'
  · obtain rfl : j = reads.length := by simp at hj; omega
    simpa using hlast

/-- Each of node `n`'s sets is where its barrier loop stands after the reads the node logged, each
read taken while the loop's guard held. -/
structure Replays (c : Cluster) (n : NodeId) (st : NodeState) : Prop where
  workers : st.workers = st.workerReads.foldl WorkerSets.record (WorkerSets.seeded n)
  workers_guarded : ∀ j < st.workerReads.length,
    ((st.workerReads.take j).foldl WorkerSets.record (WorkerSets.seeded n)).pending c.numNodes =
      true
  operators : st.initializedOperators =
    st.operatorReads.foldl (fun ops msg => recordOperatorInitialized ops (some msg)) ∅
  operators_guarded : ∀ j < st.operatorReads.length,
    ((st.operatorReads.take j).foldl (fun ops msg => recordOperatorInitialized ops (some msg))
      ∅).card < (c.graph.localOperators n).length
  nodes : st.initializedNodes = st.nodeReads.foldl (fun nodes k => insert k nodes) {n}
  nodes_guarded : ∀ j < st.nodeReads.length,
    ((st.nodeReads.take j).foldl (fun (nodes : Finset NodeId) k => insert k nodes) {n}).card <
      c.numNodes

section Steps

variable {c : Cluster} {s s' : State}

/-- A step that leaves a node's sets and logs alone keeps its replays. -/
theorem Replays.of_eq {n : NodeId} {st st' : NodeState} (h : Replays c n st)
    (hworkers : st'.workers = st.workers) (hworkerReads : st'.workerReads = st.workerReads)
    (hoperators : st'.initializedOperators = st.initializedOperators)
    (hoperatorReads : st'.operatorReads = st.operatorReads)
    (hnodes : st'.initializedNodes = st.initializedNodes)
    (hnodeReads : st'.nodeReads = st.nodeReads) :
    Replays c n st' := by
  obtain ⟨h₁, h₂, h₃, h₄, h₅, h₆⟩ := h
  exact ⟨by rw [hworkers, hworkerReads, h₁], by rw [hworkerReads]; exact h₂,
    by rw [hoperators, hoperatorReads, h₃], by rw [hoperatorReads]; exact h₄,
    by rw [hnodes, hnodeReads, h₅], by rw [hnodeReads]; exact h₆⟩

theorem Replays.setNode (h : ∀ m, Replays c m (s.node m)) {n : NodeId} {st : NodeState}
    (hst : Replays c n st) : ∀ m, Replays c m ((s.setNode n st).node m) := by
  intro m
  by_cases hm : m = n
  · subst hm
    simpa using hst
  · simpa [hm] using h m

/-- Every step keeps the replays of every node: a read is one more guarded iteration of its loop,
and nothing else touches the sets or the logs. -/
theorem Replays.step (h : ∀ m, Replays c m (s.node m)) (hstep : Step c s s') :
    ∀ m, Replays c m (s'.node m) := by
  cases hstep with
  | @readInitialized n p w _ _ hpending _ =>
      have hn := h n
      refine Replays.setNode h ⟨?_, guarded_append_singleton
        (P := fun sets : WorkerSets => sets.pending c.numNodes = true) hn.workers_guarded
        (hn.workers ▸ hpending) (w, p), hn.operators, hn.operators_guarded, hn.nodes,
        hn.nodes_guarded⟩
      simp [hn.workers]
  | @readOperatorInitialized n msg _ _ hcard _ =>
      have hn := h n
      refine Replays.setNode h ⟨hn.workers, hn.workers_guarded, ?_, guarded_append_singleton
        (P := fun ops : Finset OperatorId => ops.card < (c.graph.localOperators n).length)
        hn.operators_guarded (hn.operators ▸ hcard) msg, hn.nodes, hn.nodes_guarded⟩
      simp [hn.operators]
  | @readAllOperatorsInitialized n k _ _ hcard _ =>
      have hn := h n
      refine Replays.setNode h ⟨hn.workers, hn.workers_guarded, hn.operators,
        hn.operators_guarded, ?_,
        guarded_append_singleton (P := fun nodes : Finset NodeId => nodes.card < c.numNodes)
          hn.nodes_guarded
          (hn.nodes ▸ hcard) k⟩
      simp [hn.nodes]
  | _ => exact Replays.setNode h ((h _).of_eq rfl rfl rfl rfl rfl rfl)

theorem Replays.reachable (hs : Reachable c s) : ∀ m, Replays c m (s.node m) := by
  induction hs with
  | refl => exact fun m => ⟨rfl, nofun, rfl, nofun, rfl, nofun⟩
  | tail _ hstep ih => exact Replays.step ih hstep

end Steps

/-- Every node of the model is the code's three barrier loops run on the reads it logged: for any
configuration of node `n`, each loop fed those reads is still waiting exactly while the node's set
is short and has otherwise returned `Ok` after consuming all of them, and a node that has moved
past a barrier has its set full. -/
theorem barrier_loops_replay_node_state {c : Cluster} {s : State} (hs : Reachable c s)
    {n : NodeId} (hn : n < c.numNodes) (node : Node) (hnum : node.numNodes = c.numNodes)
    (hid : node.id = n) :
    (waitForCommunicationLayerInitialized node (initializedReads (s.node n).workerReads) =
      if (s.node n).workers.pending c.numNodes then .blocked
      else .returned (.ok ()) (s.node n).workerReads.length) ∧
    ((s.node n).phase ≠ .communication → (s.node n).workers.pending c.numNodes = false) ∧
    (waitForLocalOperatorsInitialized ((s.node n).operatorReads.map some)
        (c.graph.localOperators n).length =
      if (s.node n).initializedOperators.card < (c.graph.localOperators n).length then .blocked
      else .returned (.ok ()) (s.node n).operatorReads.length) ∧
    (Phase.allOperators ≤ (s.node n).phase →
      (c.graph.localOperators n).length ≤ (s.node n).initializedOperators.card) ∧
    (waitForAllOperatorsInitialized node ((s.node n).nodeReads.map .ok) =
      if (s.node n).initializedNodes.card < c.numNodes then .blocked
      else .returned (.ok ()) (s.node n).nodeReads.length) ∧
    (Phase.initialized ≤ (s.node n).phase → c.numNodes ≤ (s.node n).initializedNodes.card) := by
  have h := Replays.reachable hs n
  have hinv := (reachable_inv hs).node n hn
  subst hid
  refine ⟨?_, hinv.workers_full, ?_, hinv.operators_full, ?_, hinv.nodes_full⟩
  · rw [waitForCommunicationLayerInitialized, initializedReads, waitWhile_map, hnum,
      waitWhile_of_guarded _ _ WorkerSets.record _ _ (fun _ _ _ => by simp [communicationLayerBody])
        h.workers_guarded, ← h.workers]
  · rw [waitForLocalOperatorsInitialized, waitWhile_map,
      waitWhile_of_guarded _ _ (fun ops msg => recordOperatorInitialized ops (some msg)) _ _
        (fun _ _ _ => rfl) (fun j hj => decide_eq_true (h.operators_guarded j hj)), ← h.operators]
    simp only [decide_eq_true_eq]
  · rw [waitForAllOperatorsInitialized, waitWhile_map, hnum,
      waitWhile_of_guarded _ (fun nodes k => allOperatorsBody nodes (.ok k))
        (fun nodes k => insert k nodes) _ _ (fun _ _ _ => rfl)
        (fun j hj => decide_eq_true (h.nodes_guarded j hj)), ← h.nodes]
    simp only [decide_eq_true_eq]

theorem pairCluster_barrier_loops_replay :
    ∃ s, Reachable pairCluster s ∧
    (waitForCommunicationLayerInitialized pairNode (initializedReads (s.node 0).workerReads) =
      if (s.node 0).workers.pending pairCluster.numNodes then .blocked
      else .returned (.ok ()) (s.node 0).workerReads.length) ∧
    ((s.node 0).phase ≠ .communication → (s.node 0).workers.pending pairCluster.numNodes = false) ∧
    (waitForLocalOperatorsInitialized ((s.node 0).operatorReads.map some)
        (pairCluster.graph.localOperators 0).length =
      if (s.node 0).initializedOperators.card < (pairCluster.graph.localOperators 0).length
      then .blocked else .returned (.ok ()) (s.node 0).operatorReads.length) ∧
    (Phase.allOperators ≤ (s.node 0).phase →
      (pairCluster.graph.localOperators 0).length ≤ (s.node 0).initializedOperators.card) ∧
    (waitForAllOperatorsInitialized pairNode ((s.node 0).nodeReads.map .ok) =
      if (s.node 0).initializedNodes.card < pairCluster.numNodes then .blocked
      else .returned (.ok ()) (s.node 0).nodeReads.length) ∧
    (Phase.initialized ≤ (s.node 0).phase →
      pairCluster.numNodes ≤ (s.node 0).initializedNodes.card) :=
  have ⟨s, hs, _⟩ := Reachable.exists_stuck (c := pairCluster) .refl
  ⟨s, hs, barrier_loops_replay_node_state hs (n := 0) (by decide) pairNode rfl rfl⟩

end ErdosNode
