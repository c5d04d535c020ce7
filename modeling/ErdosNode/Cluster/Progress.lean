import ErdosNode.Cluster.Invariant
import ErdosNode.Cluster.Termination

/-
The startup protocol cannot deadlock: a node that has not finished always has a step, its own or
a report or a delivery it waits for, until every node has set its latch and sent `RunOperator`.
-/

namespace ErdosNode

variable {c : Cluster} {s : State}

theorem exists_step_of_network_ne_nil (h : s.network ≠ []) : ∃ s', Step c s s' := by
  obtain ⟨⟨m, msg⟩, hmem⟩ := List.exists_mem_of_ne_nil _ h
  exact ⟨_, .deliver hmem⟩

/-- A node in Phase B can always move. -/
theorem Inv.exists_step_of_communication (hinv : Inv c s) {n : NodeId} (hn : n < c.numNodes)
    (hphase : (s.node n).phase = .communication) : ∃ s', Step c s s' := by
  by_cases hrep : ∃ w p, p < c.numNodes ∧ p ≠ n ∧ p ∉ (s.node n).reportedWorkers w
  · obtain ⟨w, p, hp, hpn, hnot⟩ := hrep
    exact ⟨_, .workerReady hn hp hpn hnot⟩
  push_neg at hrep
  cases hpending : (s.node n).workers.pending c.numNodes with
  | false => exact ⟨_, .spawnOperators hn hphase hpending⟩
  | true =>
      have hnode := hinv.node n hn
      obtain ⟨w, hw⟩ : ∃ w, ¬ c.numNodes ≤ ((s.node n).workers w).card := by
        by_contra hall
        push_neg at hall
        simp [WorkerSets.pending_eq_false_iff.mpr hall] at hpending
      rw [card_ge_iff_forall_mem (hnode.workers_subset w)] at hw
      push_neg at hw
      obtain ⟨p, hp, hpnot⟩ := hw
      have hpn : p ≠ n := fun h => hpnot (h ▸ hnode.self_mem_workers w)
      have hmsg := (hnode.workers_accounted w p (hrep w p hp hpn)).resolve_right hpnot
      exact ⟨_, .readInitialized hn hphase hpending hmsg⟩

/-- A node in Phase E can always move when its operators have distinct ids. -/
theorem Inv.exists_step_of_operators (hinv : Inv c s) {n : NodeId} (hn : n < c.numNodes)
    (hnodup : (c.localOperators n).Nodup) (hphase : (s.node n).phase = .operators) :
    ∃ s', Step c s s' := by
  by_cases hrep : ∃ i, i < (c.localOperators n).length ∧ i ∉ (s.node n).reportedOperators
  · obtain ⟨i, hi, hnot⟩ := hrep
    exact ⟨_, .operatorReady hi hn (by simp [hphase]) hnot⟩
  push_neg at hrep
  by_cases hcard : (s.node n).initializedOperators.card < (c.graph.localOperators n).length
  · have hnode := hinv.node n hn
    obtain ⟨op, hop, hnot⟩ : ∃ op ∈ (c.localOperators n).toFinset,
        op ∉ (s.node n).initializedOperators := by
      by_contra hall
      push_neg at hall
      have hle := Finset.card_le_card (Finset.subset_iff.mpr hall)
      rw [List.toFinset_card_of_nodup hnodup] at hle
      simp [Cluster.localOperators] at hle
      omega
    obtain ⟨⟨i, hi⟩, rfl⟩ := List.get_of_mem (List.mem_toFinset.mp hop)
    have hmsg := (hnode.operators_accounted i hi (hrep i hi)).resolve_right hnot
    exact ⟨_, .readOperatorInitialized hn hphase hcard hmsg⟩
  · exact ⟨_, .broadcast hn hphase (not_lt.mp hcard)⟩

/-- A node in Phase G can always move once the network is empty and every node has broadcast. -/
theorem Inv.exists_step_of_allOperators (hinv : Inv c s) {n : NodeId} (hn : n < c.numNodes)
    (hphase : (s.node n).phase = .allOperators) (hnet : s.network = [])
    (hall : ∀ k < c.numNodes, Phase.allOperators ≤ (s.node k).phase) : ∃ s', Step c s s' := by
  by_cases hcard : (s.node n).initializedNodes.card < c.numNodes
  · have hnode := hinv.node n hn
    have hmissing := hcard
    rw [← not_le, card_ge_iff_forall_mem hnode.nodes_subset] at hmissing
    push_neg at hmissing
    obtain ⟨k, hk, hknot⟩ := hmissing
    have hkn : k ≠ n := fun h => hknot (h ▸ hnode.self_mem_nodes)
    rcases hinv.broadcast_accounted n hn k hk hkn (hall k hk) with h | h | h
    · simp [hnet] at h
    · exact ⟨_, .readAllOperatorsInitialized hn hphase hcard h⟩
    · exact absurd h hknot
  · exact ⟨_, .setNodeInitialized hn hphase (not_lt.mp hcard)⟩

/-- A state of the invariant where nothing is enabled has every node past Phase G. -/
theorem Inv.all_running_of_stuck (hnodup : ∀ n < c.numNodes, (c.localOperators n).Nodup)
    (hinv : Inv c s) (hstuck : Stuck c s) :
    ∀ n < c.numNodes, (s.node n).latched ∧ (s.node n).runOperatorSent := by
  have hnone : ¬ ∃ s', Step c s s' := not_exists.mpr hstuck
  have hnet : s.network = [] := by
    by_contra h
    exact hnone (exists_step_of_network_ne_nil h)
  have hpast : ∀ k < c.numNodes, Phase.allOperators ≤ (s.node k).phase := by
    intro k hk
    cases hph : (s.node k).phase with
    | communication => exact absurd (hinv.exists_step_of_communication hk hph) hnone
    | operators => exact absurd (hinv.exists_step_of_operators hk (hnodup k hk) hph) hnone
    | _ => simp [Phase.rank]
  intro n hn
  cases hph : (s.node n).phase with
  | running => simp [NodeState.latched, NodeState.runOperatorSent, hph, Phase.rank]
  | initialized => exact absurd (Step.runOperators hn hph) (hstuck _)
  | allOperators => exact absurd (hinv.exists_step_of_allOperators hn hph hnet hpast) hnone
  | communication | operators => simpa [hph, Phase.rank] using hpast n hn

/-- No reachable state is a deadlock: when no node step, report or delivery is enabled, every
node has passed Phase G, set its latch and sent `RunOperator` to its operators. -/
theorem stuck_implies_all_nodes_running
    (hnodup : ∀ n < c.numNodes, (c.localOperators n).Nodup)
    (hs : Reachable c s) (hstuck : Stuck c s) :
    ∀ n < c.numNodes, (s.node n).latched ∧ (s.node n).runOperatorSent :=
  (reachable_inv hs).all_running_of_stuck hnodup hstuck

/-- Two nodes with one operator each. -/
def pairCluster : Cluster := ⟨2, ⟨[⟨7, 0⟩, ⟨8, 1⟩], fun _ => none⟩⟩

theorem pairCluster_localOperators_nodup :
    ∀ n < pairCluster.numNodes, (pairCluster.localOperators n).Nodup := by
  decide

theorem pairCluster_stuck_all_running :
    ∃ s, Reachable pairCluster s ∧ Stuck pairCluster s ∧
      ∀ n < pairCluster.numNodes, (s.node n).latched ∧ (s.node n).runOperatorSent :=
  have ⟨s, hs, hstuck⟩ := Reachable.exists_stuck (c := pairCluster) .refl
  ⟨s, hs, hstuck, stuck_implies_all_nodes_running pairCluster_localOperators_nodup hs hstuck⟩

end ErdosNode
