import ErdosNode.Cluster.Model

/-
The invariant of the N-node startup protocol: `NodeInv` for what each node's own state keeps,
`Inv` for what ties the nodes together through the broadcasts, and `reachable_inv` for every run.
-/

namespace ErdosNode

variable {c : Cluster}

/-- What node `n`'s own state keeps along every run. -/
structure NodeInv (c : Cluster) (n : NodeId) (st : NodeState) : Prop where
  workers_subset : ∀ w, st.workers w ⊆ Finset.range c.numNodes
  self_mem_workers : ∀ w, n ∈ st.workers w
  inbox_initialized : ∀ w p, .initialized w p ∈ st.inbox → p < c.numNodes
  workers_accounted : ∀ w p, p ∈ st.reportedWorkers w →
    .initialized w p ∈ st.inbox ∨ p ∈ st.workers w
  workers_full : st.phase ≠ .communication → st.workers.pending c.numNodes = false
  operators_subset : st.initializedOperators ⊆ (c.localOperators n).toFinset
  fromOperators_local : ∀ op, .operatorInitialized op ∈ st.fromOperators →
    op ∈ c.localOperators n
  operators_accounted : ∀ i (hi : i < (c.localOperators n).length), i ∈ st.reportedOperators →
    .operatorInitialized ((c.localOperators n).get ⟨i, hi⟩) ∈ st.fromOperators ∨
      (c.localOperators n).get ⟨i, hi⟩ ∈ st.initializedOperators
  operators_full : Phase.allOperators ≤ st.phase →
    (c.graph.localOperators n).length ≤ st.initializedOperators.card
  driver_set_up : Phase.allOperators ≤ st.phase → st.driverSetUp = true
  nodes_subset : st.initializedNodes ⊆ Finset.range c.numNodes
  self_mem_nodes : n ∈ st.initializedNodes
  nodes_full : Phase.initialized ≤ st.phase → c.numNodes ≤ st.initializedNodes.card

/-- The invariant of the whole system. -/
structure Inv (c : Cluster) (s : State) : Prop where
  node : ∀ n < c.numNodes, NodeInv c n (s.node n)
  network_broadcast : ∀ e ∈ s.network, ∃ k, e.2 = .allOperatorsInitializedOnNode k ∧
    k < c.numNodes ∧ Phase.allOperators ≤ (s.node k).phase
  inbox_broadcast : ∀ n < c.numNodes, ∀ k,
    .allOperatorsInitializedOnNode k ∈ (s.node n).inbox →
      k < c.numNodes ∧ Phase.allOperators ≤ (s.node k).phase
  nodes_broadcast : ∀ n < c.numNodes, ∀ k ∈ (s.node n).initializedNodes, k ≠ n →
    Phase.allOperators ≤ (s.node k).phase
  broadcast_accounted : ∀ n < c.numNodes, ∀ k < c.numNodes, k ≠ n →
    Phase.allOperators ≤ (s.node k).phase →
      (n, .allOperatorsInitializedOnNode k) ∈ s.network ∨
        .allOperatorsInitializedOnNode k ∈ (s.node n).inbox ∨ k ∈ (s.node n).initializedNodes

/-- What a step confined to one node may do to the parts of its state that the cross-node
clauses of `Inv` mention. -/
structure LocalFrame (st st' : NodeState) : Prop where
  phase_le : st.phase ≤ st'.phase
  phase_allOperators : Phase.allOperators ≤ st'.phase → Phase.allOperators ≤ st.phase
  inbox_sub : ∀ k, .allOperatorsInitializedOnNode k ∈ st'.inbox →
    .allOperatorsInitializedOnNode k ∈ st.inbox
  inbox_kept : ∀ k, .allOperatorsInitializedOnNode k ∈ st.inbox →
    .allOperatorsInitializedOnNode k ∈ st'.inbox ∨ k ∈ st'.initializedNodes
  nodes_sub : st.initializedNodes ⊆ st'.initializedNodes
  nodes_new : ∀ k ∈ st'.initializedNodes,
    k ∈ st.initializedNodes ∨ .allOperatorsInitializedOnNode k ∈ st.inbox

/-- A step that only moves the phase forward, and not into Phase G, keeps the frame. -/
theorem LocalFrame.of_phase {st st' : NodeState} (hle : st.phase ≤ st'.phase)
    (hall : Phase.allOperators ≤ st'.phase → Phase.allOperators ≤ st.phase)
    (hinbox : st'.inbox = st.inbox) (hnodes : st'.initializedNodes = st.initializedNodes) :
    LocalFrame st st' :=
  ⟨hle, hall, fun _ h => hinbox ▸ h, fun _ h => Or.inl (hinbox ▸ h),
    fun _ h => hnodes ▸ h, fun _ h => Or.inl (hnodes ▸ h)⟩

theorem LocalFrame.of_messages {st st' : NodeState} (hphase : st'.phase = st.phase)
    (hinbox : st'.inbox = st.inbox) (hnodes : st'.initializedNodes = st.initializedNodes) :
    LocalFrame st st' :=
  .of_phase (by simp [hphase]) (by simp [hphase]) hinbox hnodes

theorem State.setNode_node (s : State) (n : NodeId) (st : NodeState) (m : NodeId) :
    (s.setNode n st).node m = if m = n then st else s.node m :=
  Function.update_apply _ _ _ _

/-- A node update that keeps a field of the updated node keeps that field of every node. -/
theorem State.setNode_field {α : Type} {s : State} {n : NodeId} {st : NodeState}
    (f : NodeState → α) (h : f st = f (s.node n)) (m : NodeId) :
    f ((s.setNode n st).node m) = f (s.node m) := by
  by_cases hm : m = n
  · subst hm
    simpa using h
  · simp [hm]

theorem phase_le_setNode {s : State} {n : NodeId} {st : NodeState}
    (hle : (s.node n).phase ≤ st.phase) (k : NodeId) :
    (s.node k).phase ≤ ((s.setNode n st).node k).phase := by
  rw [State.setNode_node]
  split
  · subst k
    exact hle
  · exact le_refl (s.node k).phase.rank

theorem allOperators_le_of_le {a b : Phase} (hle : a ≤ b) (ha : Phase.allOperators ≤ a) :
    Phase.allOperators ≤ b :=
  Nat.le_trans ha hle

theorem Inv.node_setNode {s : State} (hinv : Inv c s) {n : NodeId} {st : NodeState}
    (hnode : n < c.numNodes → NodeInv c n st) :
    ∀ m < c.numNodes, NodeInv c m ((s.setNode n st).node m) := by
  intro m hm
  rw [State.setNode_node]
  split
  · subst m
    exact hnode hm
  · exact hinv.node m hm

/-- A step confined to node `n` keeps the invariant once it keeps `n`'s own invariant and
`LocalFrame`. -/
theorem Inv.setNode_local {s : State} (hinv : Inv c s) {n : NodeId} {st : NodeState}
    (hnode : n < c.numNodes → NodeInv c n st) (hframe : LocalFrame (s.node n) st) :
    Inv c (s.setNode n st) := by
  have hmono := phase_le_setNode hframe.phase_le
  have hback : ∀ k, Phase.allOperators ≤ ((s.setNode n st).node k).phase →
      Phase.allOperators ≤ (s.node k).phase := by
    intro k hk
    rw [State.setNode_node] at hk
    split at hk
    · subst k
      exact hframe.phase_allOperators hk
    · exact hk
  refine ⟨hinv.node_setNode hnode, fun e he => ?_, fun m hm k hk => ?_,
    fun m hm k hk hne => ?_, fun m hm k hkN hne hk => ?_⟩
  · obtain ⟨k, he, hkN, hk⟩ := hinv.network_broadcast e he
    exact ⟨k, he, hkN, allOperators_le_of_le (hmono k) hk⟩
  · rw [State.setNode_node] at hk
    split at hk
    · subst m
      obtain ⟨hkN, hphase⟩ := hinv.inbox_broadcast n hm k (hframe.inbox_sub k hk)
      exact ⟨hkN, allOperators_le_of_le (hmono k) hphase⟩
    · obtain ⟨hkN, hphase⟩ := hinv.inbox_broadcast m hm k hk
      exact ⟨hkN, allOperators_le_of_le (hmono k) hphase⟩
  · rw [State.setNode_node] at hk
    split at hk
    · subst m
      rcases hframe.nodes_new k hk with hk | hk
      · exact allOperators_le_of_le (hmono k) (hinv.nodes_broadcast n hm k hk hne)
      · exact allOperators_le_of_le (hmono k) (hinv.inbox_broadcast n hm k hk).2
    · exact allOperators_le_of_le (hmono k) (hinv.nodes_broadcast m hm k hk hne)
  · rcases hinv.broadcast_accounted m hm k hkN hne (hback k hk) with hnet | hinbox | hnodes
    · exact Or.inl hnet
    · rw [State.setNode_node]
      split
      · subst m
        exact Or.inr (hframe.inbox_kept k hinbox)
      · exact Or.inr (Or.inl hinbox)
    · rw [State.setNode_node]
      split
      · subst m
        exact Or.inr (Or.inr (hframe.nodes_sub hnodes))
      · exact Or.inr (Or.inr hnodes)

/-! ### Node-local steps -/

section NodeLocal

variable {n : NodeId} {st : NodeState}

theorem NodeInv.workerReady (h : NodeInv c n st) {w : Worker} {p : NodeId}
    (hp : p < c.numNodes) :
    NodeInv c n { st with
      inbox := st.inbox ++ [.initialized w p],
      reportedWorkers := st.reportedWorkers.record (w, p) } :=
  { h with
    inbox_initialized := fun w' p' hmem => by
      rcases List.mem_append.mp hmem with hmem | hmem
      · exact h.inbox_initialized w' p' hmem
      · obtain ⟨rfl, rfl⟩ := ControlMessage.initialized_inj.mp (List.mem_singleton.mp hmem)
        exact hp
    workers_accounted := fun w' p' hrep => by
      rcases WorkerSets.mem_record.mp hrep with hrep | heq
      · exact (h.workers_accounted w' p' hrep).imp_left (List.mem_append_left _)
      · obtain ⟨rfl, rfl⟩ := Prod.mk.inj heq
        exact Or.inl (List.mem_append_right _ (List.mem_singleton_self _)) }

theorem NodeInv.readInitialized (h : NodeInv c n st) (hphase : st.phase = .communication)
    {w : Worker} {p : NodeId} (hmsg : .initialized w p ∈ st.inbox) :
    NodeInv c n { st with
      inbox := st.inbox.erase (.initialized w p),
      workers := st.workers.record (w, p),
      workerReads := st.workerReads ++ [(w, p)] } := by
  have hp := h.inbox_initialized w p hmsg
  exact { h with
    workers_subset := fun w' q hq => by
      rcases WorkerSets.mem_record.mp hq with hq | heq
      · exact h.workers_subset w' hq
      · obtain ⟨rfl, rfl⟩ := Prod.mk.inj heq
        exact Finset.mem_range.mpr hp
    self_mem_workers := fun w' => WorkerSets.mem_record.mpr (Or.inl (h.self_mem_workers w'))
    inbox_initialized := fun w' q hq => h.inbox_initialized w' q (List.mem_of_mem_erase hq)
    workers_accounted := fun w' q hrep => by
      by_cases heq : ControlMessage.initialized w' q = .initialized w p
      · obtain ⟨rfl, rfl⟩ := ControlMessage.initialized_inj.mp heq
        exact Or.inr (WorkerSets.mem_record.mpr (Or.inr rfl))
      · rcases h.workers_accounted w' q hrep with hq | hq
        · exact Or.inl ((List.mem_erase_of_ne heq).mpr hq)
        · exact Or.inr (WorkerSets.mem_record.mpr (Or.inl hq))
    workers_full := fun hne => absurd hphase hne }

theorem LocalFrame.workerReady {w : Worker} {p : NodeId} (sets : WorkerSets) :
    LocalFrame st { st with
      inbox := st.inbox ++ [.initialized w p],
      reportedWorkers := sets } :=
  ⟨le_refl st.phase.rank, id,
    fun k h => (List.mem_append.mp h).resolve_right fun h' =>
      ControlMessage.initialized_ne_allOperatorsInitializedOnNode w p k
        (List.mem_singleton.mp h').symm,
    fun _ h => Or.inl (List.mem_append_left _ h), fun _ h => h, fun _ h => Or.inl h⟩

theorem LocalFrame.readInitialized {w : Worker} {p : NodeId} (sets : WorkerSets)
    (reads : List (Worker × NodeId)) :
    LocalFrame st { st with
      inbox := st.inbox.erase (.initialized w p),
      workers := sets,
      workerReads := reads } :=
  ⟨le_refl st.phase.rank, id, fun _ h => List.mem_of_mem_erase h,
    fun k h => Or.inl ((List.mem_erase_of_ne
      (ControlMessage.initialized_ne_allOperatorsInitializedOnNode w p k).symm).mpr h),
    fun _ h => h, fun _ h => Or.inl h⟩

theorem NodeInv.spawnOperators (h : NodeInv c n st)
    (hpending : st.workers.pending c.numNodes = false) :
    NodeInv c n { st with phase := .operators } :=
  { h with
    workers_full := fun _ => hpending
    operators_full := fun hle => by simp [Phase.rank] at hle
    driver_set_up := fun hle => by simp [Phase.rank] at hle
    nodes_full := fun hle => by simp [Phase.rank] at hle }

theorem NodeInv.operatorReady (h : NodeInv c n st) {i : Nat}
    (hi : i < (c.localOperators n).length) :
    NodeInv c n { st with
      fromOperators := st.fromOperators ++
        [.operatorInitialized ((c.localOperators n).get ⟨i, hi⟩)],
      reportedOperators := insert i st.reportedOperators } :=
  { h with
    fromOperators_local := fun op hop => by
      rcases List.mem_append.mp hop with hop | hop
      · exact h.fromOperators_local op hop
      · cases List.mem_singleton.mp hop
        exact List.get_mem _ _ _
    operators_accounted := fun j hj hrep => by
      rcases Finset.mem_insert.mp hrep with rfl | hrep
      · exact Or.inl (List.mem_append_right _ (List.mem_singleton_self _))
      · exact (h.operators_accounted j hj hrep).imp_left (List.mem_append_left _) }

theorem recordOperatorInitialized_subset (initialized : Finset OperatorId)
    (msg : Option ControlMessage) : initialized ⊆ recordOperatorInitialized initialized msg := by
  unfold recordOperatorInitialized
  split
  · exact Finset.subset_insert _ _
  · exact subset_rfl

theorem NodeInv.readOperatorInitialized (h : NodeInv c n st) {msg : ControlMessage}
    (hmsg : msg ∈ st.fromOperators) :
    NodeInv c n { st with
      fromOperators := st.fromOperators.erase msg,
      initializedOperators := recordOperatorInitialized st.initializedOperators (some msg),
      operatorReads := st.operatorReads ++ [msg] } :=
  { h with
    operators_subset := fun op hop => by
      cases msg with
      | operatorInitialized op' =>
          rcases Finset.mem_insert.mp hop with rfl | hop
          · exact List.mem_toFinset.mpr (h.fromOperators_local _ hmsg)
          · exact h.operators_subset hop
      | _ => exact h.operators_subset hop
    fromOperators_local := fun op hop => h.fromOperators_local op (List.mem_of_mem_erase hop)
    operators_accounted := fun j hj hrep => by
      by_cases heq : ControlMessage.operatorInitialized ((c.localOperators n).get ⟨j, hj⟩) = msg
      · subst heq
        exact Or.inr (Finset.mem_insert_self _ _)
      · rcases h.operators_accounted j hj hrep with hm | hm
        · exact Or.inl ((List.mem_erase_of_ne heq).mpr hm)
        · exact Or.inr (recordOperatorInitialized_subset _ _ hm)
    operators_full := fun hle => (h.operators_full hle).trans
      (Finset.card_le_card (recordOperatorInitialized_subset _ _)) }

theorem NodeInv.readAllOperatorsInitialized (h : NodeInv c n st) {k : NodeId}
    (hk : k < c.numNodes) :
    NodeInv c n { st with
      inbox := st.inbox.erase (.allOperatorsInitializedOnNode k),
      initializedNodes := insert k st.initializedNodes,
      nodeReads := st.nodeReads ++ [k] } :=
  { h with
    inbox_initialized := fun w p hp => h.inbox_initialized w p (List.mem_of_mem_erase hp)
    workers_accounted := fun w p hrep =>
      (h.workers_accounted w p hrep).imp_left fun hp =>
        (List.mem_erase_of_ne (ControlMessage.initialized_ne_allOperatorsInitializedOnNode
          w p k)).mpr hp
    nodes_subset := Finset.insert_subset (Finset.mem_range.mpr hk) h.nodes_subset
    self_mem_nodes := Finset.mem_insert_of_mem h.self_mem_nodes
    nodes_full := fun hle => h.nodes_full hle |>.trans (Finset.card_le_card
      (Finset.subset_insert _ _)) }

theorem LocalFrame.readAllOperatorsInitialized {k : NodeId}
    (hk : .allOperatorsInitializedOnNode k ∈ st.inbox) :
    LocalFrame st { st with
      inbox := st.inbox.erase (.allOperatorsInitializedOnNode k),
      initializedNodes := insert k st.initializedNodes,
      nodeReads := st.nodeReads ++ [k] } := by
  refine ⟨le_refl st.phase.rank, id, fun _ h => List.mem_of_mem_erase h, fun k' h => ?_,
    Finset.subset_insert _ _, fun k' h => ?_⟩
  · by_cases hk' : k' = k
    · exact Or.inr (hk' ▸ Finset.mem_insert_self _ _)
    · exact Or.inl ((List.mem_erase_of_ne (by simpa using hk')).mpr h)
  · rcases Finset.mem_insert.mp h with rfl | h
    · exact Or.inr hk
    · exact Or.inl h

theorem NodeInv.setNodeInitialized (h : NodeInv c n st) (hphase : st.phase = .allOperators)
    (hfull : c.numNodes ≤ st.initializedNodes.card) :
    NodeInv c n { st with phase := .initialized } :=
  { h with
    workers_full := fun _ => h.workers_full (by simp [hphase])
    operators_full := fun _ => h.operators_full (by simp [hphase])
    driver_set_up := fun _ => h.driver_set_up (by simp [hphase])
    nodes_full := fun _ => hfull }

theorem NodeInv.runOperators (h : NodeInv c n st) (hphase : st.phase = .initialized) :
    NodeInv c n { st with phase := .running } :=
  { h with
    workers_full := fun _ => h.workers_full (by simp [hphase])
    operators_full := fun _ => h.operators_full (by simp [hphase, Phase.rank])
    driver_set_up := fun _ => h.driver_set_up (by simp [hphase, Phase.rank])
    nodes_full := fun _ => h.nodes_full (by simp [hphase]) }

end NodeLocal

/-! ### Steps on the network -/

theorem Inv.broadcast {s : State} (hinv : Inv c s) {n : NodeId} (hn : n < c.numNodes)
    (hphase : (s.node n).phase = .operators)
    (hfull : (c.graph.localOperators n).length ≤ (s.node n).initializedOperators.card) :
    Inv c ((s.setNode n { s.node n with phase := .allOperators, driverSetUp := true }).setNetwork
      (s.network ++ broadcastMessages c.numNodes n)) := by
  set st : NodeState := { s.node n with phase := .allOperators, driverSetUp := true }
  have hnode : NodeInv c n st :=
    { hinv.node n hn with
      workers_full := fun _ => (hinv.node n hn).workers_full (by simp [hphase])
      operators_full := fun _ => hfull
      driver_set_up := fun _ => rfl
      nodes_full := fun hle => by simp [st, Phase.rank] at hle }
  have hmono : ∀ k, (s.node k).phase ≤ ((s.setNode n st).node k).phase :=
    phase_le_setNode (by simp [st, hphase, Phase.rank])
  have hinbox : ∀ m, ((s.setNode n st).node m).inbox = (s.node m).inbox :=
    State.setNode_field NodeState.inbox rfl
  have hnodes : ∀ m, ((s.setNode n st).node m).initializedNodes = (s.node m).initializedNodes :=
    State.setNode_field NodeState.initializedNodes rfl
  refine ⟨hinv.node_setNode fun _ => hnode, fun e he => ?_, fun m hm k hk => ?_,
    fun m hm k hk hne => ?_, fun m hm k hkN hne hk => ?_⟩
  · rcases List.mem_append.mp he with he | he
    · obtain ⟨k, hek, hkN, hk⟩ := hinv.network_broadcast e he
      exact ⟨k, hek, hkN, allOperators_le_of_le (hmono k) hk⟩
    · simp only [broadcastMessages, List.mem_map, List.mem_filter, List.mem_range] at he
      obtain ⟨_, _, rfl⟩ := he
      exact ⟨n, rfl, hn, by simp⟩
  · rw [State.setNetwork_node, hinbox] at hk
    obtain ⟨hkN, hphase'⟩ := hinv.inbox_broadcast m hm k hk
    exact ⟨hkN, allOperators_le_of_le (hmono k) hphase'⟩
  · rw [State.setNetwork_node, hnodes] at hk
    exact allOperators_le_of_le (hmono k) (hinv.nodes_broadcast m hm k hk hne)
  · by_cases hkn : k = n
    · subst hkn
      refine Or.inl (List.mem_append_right _ ?_)
      simp only [broadcastMessages, List.mem_map, List.mem_filter, List.mem_range]
      exact ⟨m, ⟨hm, by simpa using Ne.symm hne⟩, rfl⟩
    · rw [State.setNetwork_node, State.setNode_node_ne _ _ hkn] at hk
      simp only [State.setNetwork_network, State.setNetwork_node, hinbox, hnodes]
      exact (hinv.broadcast_accounted m hm k hkN hne hk).imp_left (List.mem_append_left _)

theorem Inv.deliver {s : State} (hinv : Inv c s) {m : NodeId} {msg : ControlMessage}
    (hmsg : (m, msg) ∈ s.network) :
    Inv c ((s.setNode m { s.node m with inbox := (s.node m).inbox ++ [msg] }).setNetwork
      (s.network.erase (m, msg))) := by
  obtain ⟨k, hk, hkN, hkphase⟩ := hinv.network_broadcast _ hmsg
  simp only at hk
  subst hk
  set st : NodeState :=
    { s.node m with inbox := (s.node m).inbox ++ [.allOperatorsInitializedOnNode k] }
  have hnode : m < c.numNodes → NodeInv c m st :=
    fun hm => { hinv.node m hm with
      inbox_initialized := fun w p hp => by
        rcases List.mem_append.mp hp with hp | hp
        · exact (hinv.node m hm).inbox_initialized w p hp
        · simp at hp
      workers_accounted := fun w p hrep =>
        ((hinv.node m hm).workers_accounted w p hrep).imp_left (List.mem_append_left _) }
  have hphase : ∀ j, ((s.setNode m st).node j).phase = (s.node j).phase :=
    State.setNode_field NodeState.phase rfl
  have hnodes : ∀ j, ((s.setNode m st).node j).initializedNodes = (s.node j).initializedNodes :=
    State.setNode_field NodeState.initializedNodes rfl
  refine ⟨hinv.node_setNode hnode, fun e he => ?_, fun n hn k' hk' => ?_,
    fun n hn k' hk' hne => ?_, fun n hn k' hkN' hne hk' => ?_⟩
  · obtain ⟨k', hek, hkN', hk'⟩ := hinv.network_broadcast e (List.mem_of_mem_erase he)
    exact ⟨k', hek, hkN', by simpa [hphase k'] using hk'⟩
  · simp only [State.setNetwork_node, hphase k'] at hk' ⊢
    by_cases hnm : n = m
    · subst hnm
      simp only [st, State.setNode_node_self, List.mem_append, List.mem_singleton,
        ControlMessage.allOperatorsInitializedOnNode.injEq] at hk'
      rcases hk' with hk' | rfl
      · exact hinv.inbox_broadcast n hn k' hk'
      · exact ⟨hkN, hkphase⟩
    · exact hinv.inbox_broadcast n hn k' (by simpa [hnm] using hk')
  · simp only [State.setNetwork_node, hnodes n, hphase k'] at hk' ⊢
    exact hinv.nodes_broadcast n hn k' hk' hne
  · simp only [State.setNetwork_node, hphase k'] at hk'
    simp only [State.setNetwork_network, State.setNetwork_node, hnodes n]
    rcases hinv.broadcast_accounted n hn k' hkN' hne hk' with h | h | h
    · by_cases heq : (n, ControlMessage.allOperatorsInitializedOnNode k') =
          (m, .allOperatorsInitializedOnNode k)
      · simp only [Prod.mk.injEq, ControlMessage.allOperatorsInitializedOnNode.injEq] at heq
        obtain ⟨rfl, rfl⟩ := heq
        simp [st]
      · exact Or.inl ((List.mem_erase_of_ne heq).mpr h)
    · by_cases hnm : n = m
      · subst hnm
        simp [st, h]
      · simp [hnm, h]
    · exact Or.inr (Or.inr h)

/-! ### Runs -/

theorem NodeInv.init {n : NodeId} (hn : n < c.numNodes) : NodeInv c n (NodeState.init n) where
  workers_subset _ := by simpa [NodeState.init, WorkerSets.seeded] using hn
  self_mem_workers _ := by simp [NodeState.init, WorkerSets.seeded]
  inbox_initialized _ _ h := by simp [NodeState.init] at h
  workers_accounted _ _ h := by simp [NodeState.init] at h
  workers_full h := absurd rfl h
  operators_subset := by simp [NodeState.init]
  fromOperators_local _ h := by simp [NodeState.init] at h
  operators_accounted _ _ h := by simp [NodeState.init] at h
  operators_full h := by simp [NodeState.init, Phase.rank] at h
  driver_set_up h := by simp [NodeState.init, Phase.rank] at h
  nodes_subset := by simpa [NodeState.init] using hn
  self_mem_nodes := by simp [NodeState.init]
  nodes_full h := by simp [NodeState.init, Phase.rank] at h

theorem init_inv (c : Cluster) : Inv c State.init :=
  ⟨fun _ hn => NodeInv.init hn, by simp [State.init], by simp [State.init, NodeState.init],
    fun _ _ k hk hne => absurd (by simpa [State.init, NodeState.init] using hk) hne,
    fun _ _ _ _ _ hk => absurd hk (by simp [State.init, NodeState.init, Phase.rank])⟩

/-- Every step keeps the invariant. -/
theorem step_inv {s s' : State} (hinv : Inv c s) (hstep : Step c s s') : Inv c s' := by
  cases hstep with
  | workerReady hn hp _ _ =>
      exact hinv.setNode_local (fun _ => (hinv.node _ hn).workerReady hp) (.workerReady _)
  | readInitialized hn hphase _ hmsg =>
      exact hinv.setNode_local (fun _ => (hinv.node _ hn).readInitialized hphase hmsg)
        (.readInitialized _ _)
  | spawnOperators hn hphase hpending =>
      exact hinv.setNode_local (fun _ => (hinv.node _ hn).spawnOperators hpending)
        (.of_phase (by simp [hphase, Phase.rank]) (fun h => by simp [Phase.rank] at h) rfl rfl)
  | operatorReady hi hn _ _ =>
      exact hinv.setNode_local (fun _ => (hinv.node _ hn).operatorReady hi)
        (.of_messages rfl rfl rfl)
  | readOperatorInitialized hn _ _ hmsg =>
      exact hinv.setNode_local (fun _ => (hinv.node _ hn).readOperatorInitialized hmsg)
        (.of_messages rfl rfl rfl)
  | broadcast hn hphase hfull => exact hinv.broadcast hn hphase hfull
  | deliver hmsg => exact hinv.deliver hmsg
  | readAllOperatorsInitialized hn _ _ hk =>
      exact hinv.setNode_local
        (fun _ => (hinv.node _ hn).readAllOperatorsInitialized (hinv.inbox_broadcast _ hn _ hk).1)
        (.readAllOperatorsInitialized hk)
  | setNodeInitialized hn hphase hfull =>
      exact hinv.setNode_local (fun _ => (hinv.node _ hn).setNodeInitialized hphase hfull)
        (.of_phase (by simp [hphase, Phase.rank]) (fun _ => by simp [hphase]) rfl rfl)
  | runOperators hn hphase =>
      exact hinv.setNode_local (fun _ => (hinv.node _ hn).runOperators hphase)
        (.of_phase (by simp [hphase, Phase.rank]) (fun _ => by simp [hphase, Phase.rank]) rfl rfl)

/-- The invariant holds in every state the nodes can reach together. -/
theorem reachable_inv {s : State} (h : Reachable c s) : Inv c s := by
  induction h with
  | refl => exact init_inv c
  | tail _ hstep ih => exact step_inv ih hstep

end ErdosNode
