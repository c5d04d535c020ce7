import ErdosNode.Cluster.Progress

/-
The startup barrier is safe: once any node has set its latch, every node has completed Phase B,
counted each of its local operators and run its driver's setup hooks, since a node broadcasts
only then and a latched node has heard from every node.
-/

namespace ErdosNode

variable {c : Cluster}

/-- A node that has broadcast has completed Phases B, E and F. -/
theorem NodeInv.ready {m : NodeId} {st : NodeState} (h : NodeInv c m st)
    (hphase : Phase.allOperators ≤ st.phase) :
    st.phase ≠ .communication ∧ (∀ w, st.workers w = Finset.range c.numNodes) ∧
      (∀ op ∈ c.localOperators m, op ∈ st.initializedOperators) ∧
      st.driverSetUp = true := by
  have hcomm : st.phase ≠ .communication := by
    intro h'
    simp [h', Phase.rank] at hphase
  refine ⟨hcomm, fun w => ?_, fun op hop => ?_, h.driver_set_up hphase⟩
  · exact Finset.eq_of_subset_of_card_le (h.workers_subset w) (by
      simpa using WorkerSets.pending_eq_false_iff.mp (h.workers_full hcomm) w)
  · have hfull := h.operators_full hphase
    have hcard : (c.localOperators m).toFinset.card ≤ st.initializedOperators.card :=
      (List.toFinset_card_le _).trans (by simpa [Cluster.localOperators] using hfull)
    rw [Finset.eq_of_subset_of_card_le h.operators_subset hcard]
    exact List.mem_toFinset.mpr hop

/-- Once a node has set its latch or sent a `RunOperator`, every node of the cluster has
completed Phase B, received `OperatorInitialized` from each of its local operators and run its
driver's setup hooks. -/
theorem latched_implies_all_nodes_ready {s : State} (hs : Reachable c s) {n : NodeId}
    (hn : n < c.numNodes) (hlatch : (s.node n).latched ∨ (s.node n).runOperatorSent) :
    ∀ m < c.numNodes, (s.node m).phase ≠ .communication ∧
      (∀ w, (s.node m).workers w = Finset.range c.numNodes) ∧
      (∀ op ∈ c.localOperators m, op ∈ (s.node m).initializedOperators) ∧
      (s.node m).driverSetUp = true := by
  have hinv := reachable_inv hs
  have hlatched : Phase.initialized ≤ (s.node n).phase := by
    rcases hlatch with h | h
    · exact h
    · simp [NodeState.runOperatorSent] at h
      simp [h, Phase.rank]
  have hall := (card_ge_iff_forall_mem ((hinv.node n hn).nodes_subset)).mp
    ((hinv.node n hn).nodes_full hlatched)
  intro m hm
  refine (hinv.node m hm).ready ?_
  by_cases hmn : m = n
  · subst hmn
    exact Nat.le_trans (by decide) hlatched
  · exact hinv.nodes_broadcast n hn m (hall m hm) hmn

theorem pairCluster_driver_set_up :
    ∃ s, Reachable pairCluster s ∧ ∀ m < pairCluster.numNodes,
      (s.node m).phase ≠ .communication ∧
      (∀ w, (s.node m).workers w = Finset.range pairCluster.numNodes) ∧
      (∀ op ∈ pairCluster.localOperators m, op ∈ (s.node m).initializedOperators) ∧
      (s.node m).driverSetUp = true :=
  have ⟨s, hs, hstuck⟩ := Reachable.exists_stuck (c := pairCluster) .refl
  have hlatched := ((reachable_inv hs).all_running_of_stuck pairCluster_localOperators_nodup
    hstuck 0 (by decide)).1
  ⟨s, hs, latched_implies_all_nodes_ready hs (n := 0) (by decide) (Or.inl hlatched)⟩

end ErdosNode
