import ErdosNode.Communication
import ErdosNode.Wait

/-
The three startup barriers of `Node::run_operators` (Phases B, E and G) and the broadcast between
them.  Each loop counts set sizes, which match coverage of every expected peer when the reported
ids are in range, so each returns exactly after the shortest covering prefix.
-/

namespace ErdosNode

/-- The startup parameters the runtime reads (`crate::Configuration`). -/
structure Configuration where
  index : NodeId
  dataAddresses : List String
  graphFilename : Option String
deriving Repr

/-- The parts of a `Node` the startup protocol reads. -/
structure Node where
  config : Configuration
  id : NodeId
deriving Repr

/-- `Node::new`: a node's id is its configuration's index. -/
def Node.new (config : Configuration) : Node := ⟨config, config.index⟩

/-- `self.config.data_addresses.len()`, the number of nodes every barrier waits for. -/
def Node.numNodes (node : Node) : Nat := node.config.dataAddresses.length

theorem waitWhile_map {σ α β : Type} (pending : σ → Bool) (body : σ → β → Next σ)
    (f : α → β) (state : σ) (reads : List α) :
    waitWhile pending body state (reads.map f) =
      waitWhile pending (fun s a => body s (f a)) state reads := by
  induction reads generalizing state with
  | nil => simp [waitWhile]
  | cons read rest ih =>
      simp only [List.map_cons, waitWhile]
      split <;> simp only [ih]

/-- Pigeonhole for the barriers: a subset of `t` is as large as `t` exactly when it is all of
`t`. -/
theorem card_ge_iff_superset {s t : Finset Nat} (hst : s ⊆ t) : t.card ≤ s.card ↔ t ⊆ s :=
  ⟨fun hcard => (Finset.eq_of_subset_of_card_le hst hcard).symm ▸ subset_rfl,
    Finset.card_le_card⟩

theorem card_ge_iff_forall_mem {s : Finset Nat} {n : Nat} (hs : s ⊆ Finset.range n) :
    n ≤ s.card ↔ ∀ p < n, p ∈ s := by
  have h := card_ge_iff_superset hs
  rw [Finset.card_range] at h
  rw [h]
  exact ⟨fun h p hp => h (Finset.mem_range.mpr hp), fun h p hp => h p (Finset.mem_range.mp hp)⟩

/-! ### Phase B -/

/-- The four sets `control_senders_initialized`, `control_receivers_initialized`,
`data_senders_initialized` and `data_receivers_initialized`, by worker kind. -/
abbrev WorkerSets := Worker → Finset NodeId

/-- Each set starts as `{self.id}`. -/
def WorkerSets.seeded (id : NodeId) : WorkerSets := fun _ => {id}

/-- The loop guard: one of the four sets has fewer than `num_nodes` members. -/
def WorkerSets.pending (numNodes : Nat) (sets : WorkerSets) : Bool :=
  decide ((sets .controlSender).card < numNodes) ||
    decide ((sets .controlReceiver).card < numNodes) ||
    decide ((sets .dataSender).card < numNodes) ||
    decide ((sets .dataReceiver).card < numNodes)

/-- Insert the reported node into the set of the reporting worker's kind. -/
def WorkerSets.record (sets : WorkerSets) (report : Worker × NodeId) : WorkerSets :=
  Function.update sets report.1 (insert report.2 (sets report.1))

/-- The body of `wait_for_communication_layer_initialized` on one read of
`read_sender_or_receiver_initialized`. -/
def communicationLayerBody (sets : WorkerSets) :
    Except CommunicationError ControlMessage → Next WorkerSets
  | .error e => .fail ("Error receiving control message: " ++ e.debug)
  | .ok msg =>
    match msg.initialized? with
    | some report => .continue (sets.record report)
    | none => .panic

/-- `Node::wait_for_communication_layer_initialized`. -/
def waitForCommunicationLayerInitialized (node : Node)
    (reads : List (Except CommunicationError ControlMessage)) : Wait :=
  waitWhile (WorkerSets.pending node.numNodes) communicationLayerBody
    (WorkerSets.seeded node.id) reads

theorem WorkerSets.pending_eq_false_iff {numNodes : Nat} {sets : WorkerSets} :
    sets.pending numNodes = false ↔ ∀ w, numNodes ≤ (sets w).card := by
  simp only [WorkerSets.pending, Bool.or_eq_false_iff, decide_eq_false_iff_not, not_lt]
  constructor
  · rintro ⟨⟨⟨h1, h2⟩, h3⟩, h4⟩ w
    cases w <;> assumption
  · intro h
    exact ⟨⟨⟨h _, h _⟩, h _⟩, h _⟩

theorem WorkerSets.mem_record {sets : WorkerSets} {report : Worker × NodeId} {w : Worker}
    {p : NodeId} : p ∈ sets.record report w ↔ p ∈ sets w ∨ report = (w, p) := by
  obtain ⟨w', q⟩ := report
  by_cases hw : w = w'
  · subst hw
    simp only [WorkerSets.record, Function.update_same, Finset.mem_insert, Prod.mk.injEq,
      true_and]
    tauto
  · simp [WorkerSets.record, Function.update_noteq hw, Ne.symm hw]

theorem WorkerSets.mem_foldl_record {sets : WorkerSets} {reports : List (Worker × NodeId)}
    {w : Worker} {p : NodeId} :
    p ∈ reports.foldl WorkerSets.record sets w ↔ p ∈ sets w ∨ (w, p) ∈ reports := by
  induction reports generalizing sets with
  | nil => simp
  | cons report rest ih =>
      simp only [List.foldl_cons, ih, WorkerSets.mem_record, List.mem_cons]
      tauto

/-- Every peer other than `self` has, for every worker kind, a readiness report in `reports`. -/
def CoversWorkers (numNodes self : NodeId) (reports : List (Worker × NodeId)) : Prop :=
  ∀ w, ∀ p < numNodes, p ≠ self → (w, p) ∈ reports

instance (numNodes self : NodeId) : DecidablePred (CoversWorkers numNodes self) := fun reports =>
  inferInstanceAs (Decidable (∀ w, ∀ p < numNodes, p ≠ self → (w, p) ∈ reports))

/-- The control handler yielding the readiness messages `reports`, in order. -/
def initializedReads (reports : List (Worker × NodeId)) :
    List (Except CommunicationError ControlMessage) :=
  reports.map fun report => .ok (.initialized report.1 report.2)

section Communication

variable {numNodes self : NodeId} {reports : List (Worker × NodeId)}

theorem pending_foldl_record_eq_false_iff (hself : self < numNodes)
    (hreports : ∀ report ∈ reports, report.2 < numNodes) :
    (reports.foldl WorkerSets.record (WorkerSets.seeded self)).pending numNodes = false ↔
      CoversWorkers numNodes self reports := by
  have hsub : ∀ w, reports.foldl WorkerSets.record (WorkerSets.seeded self) w ⊆
      Finset.range numNodes := by
    intro w p hp
    rw [WorkerSets.mem_foldl_record] at hp
    rcases hp with hp | hp
    · simpa [WorkerSets.seeded, Finset.mem_singleton.mp hp] using hself
    · simpa using hreports _ hp
  simp only [WorkerSets.pending_eq_false_iff, card_ge_iff_forall_mem (hsub _),
    WorkerSets.mem_foldl_record, WorkerSets.seeded, Finset.mem_singleton, CoversWorkers]
  exact forall_congr' fun w => forall₂_congr fun p _ => by tauto

/-- Fed only readiness messages with ids below `num_nodes`, Phase B returns `Ok(())` exactly
after the shortest prefix that covers every peer for every worker kind. -/
theorem waitForCommunicationLayerInitialized_eq_returned_iff (node : Node)
    (hid : node.id < node.numNodes) (hreports : ∀ report ∈ reports, report.2 < node.numNodes)
    (k : Nat) :
    waitForCommunicationLayerInitialized node (initializedReads reports) = .returned (.ok ()) k ↔
      IsFirstPrefix (CoversWorkers node.numNodes node.id) reports k := by
  rw [waitForCommunicationLayerInitialized, initializedReads, waitWhile_map,
    waitWhile_eq_returned_iff _ _ WorkerSets.record _ _ (by simp [communicationLayerBody])]
  exact IsFirstPrefix.congr fun j => pending_foldl_record_eq_false_iff hid
    fun report hr => hreports report (List.mem_of_mem_take hr)

theorem waitForCommunicationLayerInitialized_eq_blocked_iff (node : Node)
    (hid : node.id < node.numNodes) (hreports : ∀ report ∈ reports, report.2 < node.numNodes) :
    waitForCommunicationLayerInitialized node (initializedReads reports) = .blocked ↔
      ∀ k, ¬ CoversWorkers node.numNodes node.id (reports.take k) := by
  rw [waitForCommunicationLayerInitialized, initializedReads, waitWhile_map,
    waitWhile_eq_blocked_iff _ _ WorkerSets.record _ _ (by simp [communicationLayerBody])]
  refine forall_congr' fun j => ?_
  rw [← pending_foldl_record_eq_false_iff hid
    fun report hr => hreports report (List.mem_of_mem_take hr)]
  simp

theorem coversWorkers_mono {numNodes self : NodeId} (reports reports' : List (Worker × NodeId))
    (hsub : ∀ report ∈ reports, report ∈ reports')
    (hcovers : CoversWorkers numNodes self reports) : CoversWorkers numNodes self reports' :=
  fun w p hp hself => hsub _ (hcovers w p hp hself)

/-- Whether Phase B ever returns depends only on which readiness messages arrive, not on their
order or multiplicity. -/
theorem waitForCommunicationLayerInitialized_returns_iff (node : Node)
    (hid : node.id < node.numNodes) (hreports : ∀ report ∈ reports, report.2 < node.numNodes) :
    (∃ k, waitForCommunicationLayerInitialized node (initializedReads reports) =
      .returned (.ok ()) k) ↔ CoversWorkers node.numNodes node.id reports := by
  simp only [waitForCommunicationLayerInitialized_eq_returned_iff node hid hreports,
    exists_isFirstPrefix_iff, exists_take_iff_of_mono coversWorkers_mono]

theorem waitForCommunicationLayerInitialized_eq_blocked_iff_not_covers (node : Node)
    (hid : node.id < node.numNodes) (hreports : ∀ report ∈ reports, report.2 < node.numNodes) :
    waitForCommunicationLayerInitialized node (initializedReads reports) = .blocked ↔
      ¬ CoversWorkers node.numNodes node.id reports := by
  rw [waitForCommunicationLayerInitialized_eq_blocked_iff node hid hreports, ← not_exists,
    exists_take_iff_of_mono coversWorkers_mono]

/-- Fed every peer's four readiness reports once each, in any order, Phase B returns after the
last of the `4 * (num_nodes - 1)` reports. -/
theorem waitForCommunicationLayerInitialized_of_each_report_once (node : Node)
    (hid : node.id < node.numNodes) (hnodup : reports.Nodup)
    (hreports : ∀ r, r ∈ reports ↔ r.2 < node.numNodes ∧ r.2 ≠ node.id) :
    waitForCommunicationLayerInitialized node (initializedReads reports) =
      .returned (.ok ()) (4 * (node.numNodes - 1)) := by
  have hlength : reports.length = 4 * (node.numNodes - 1) := by
    have hset : reports.toFinset = Finset.univ ×ˢ (Finset.range node.numNodes).erase node.id := by
      ext ⟨w, p⟩
      simp [hreports, and_comm]
    rw [← List.toFinset_card_of_nodup hnodup, hset, Finset.card_product,
      Finset.card_erase_of_mem (Finset.mem_range.mpr hid), Finset.card_range]
    rfl
  rw [← hlength, waitForCommunicationLayerInitialized_eq_returned_iff node hid
    fun r hr => ((hreports r).mp hr).1]
  exact isFirstPrefix_length_of_nodup hnodup fun j => ⟨fun h ⟨w, p⟩ hr =>
    h w p ((hreports _).mp hr).1 ((hreports _).mp hr).2,
    fun h w p hp hne => h _ ((hreports _).mpr ⟨hp, hne⟩)⟩

end Communication

/-! ### Phase E -/

/-- The effect of one `rx_from_operators.recv()` in `wait_for_local_operators_initialized`: an
`OperatorInitialized` report adds its operator, anything else is ignored. -/
def recordOperatorInitialized (initialized : Finset OperatorId) :
    Option ControlMessage → Finset OperatorId
  | some (.operatorInitialized op) => insert op initialized
  | _ => initialized

/-- `Node::wait_for_local_operators_initialized`, over the values `recv()` returns. -/
def waitForLocalOperatorsInitialized (reads : List (Option ControlMessage))
    (numLocalOperators : Nat) : Wait :=
  waitWhile (fun initialized => decide (initialized.card < numLocalOperators))
    (fun initialized read => .continue (recordOperatorInitialized initialized read)) ∅ reads

theorem mem_foldl_recordOperatorInitialized {initialized : Finset OperatorId}
    {msgs : List ControlMessage} {op : OperatorId} :
    op ∈ msgs.foldl (fun s msg => recordOperatorInitialized s (some msg)) initialized ↔
      op ∈ initialized ∨ .operatorInitialized op ∈ msgs := by
  induction msgs generalizing initialized with
  | nil => simp
  | cons msg rest ih =>
      rw [List.foldl_cons, ih]
      cases msg <;> simp [recordOperatorInitialized, or_assoc, or_left_comm, eq_comm]

/-- Every operator in `ops` has an `OperatorInitialized` report among `msgs`. -/
def CoversOperators (ops : List OperatorId) (msgs : List ControlMessage) : Prop :=
  ∀ op ∈ ops, .operatorInitialized op ∈ msgs

instance (ops : List OperatorId) : DecidablePred (CoversOperators ops) := fun msgs =>
  inferInstanceAs (Decidable (∀ op ∈ ops, ControlMessage.operatorInitialized op ∈ msgs))

section LocalOperators

variable {ops : List OperatorId} {msgs : List ControlMessage}

theorem card_foldl_recordOperatorInitialized_ge_iff (hnodup : ops.Nodup)
    (hmsgs : ∀ op, .operatorInitialized op ∈ msgs → op ∈ ops) :
    ops.length ≤ (msgs.foldl (fun s msg => recordOperatorInitialized s (some msg)) ∅).card ↔
      CoversOperators ops msgs := by
  have hsub : msgs.foldl (fun s msg => recordOperatorInitialized s (some msg)) ∅ ⊆
      ops.toFinset := by
    intro op hop
    simpa using hmsgs op (by simpa [mem_foldl_recordOperatorInitialized] using hop)
  rw [← List.toFinset_card_of_nodup hnodup, card_ge_iff_superset hsub]
  simp [Finset.subset_iff, mem_foldl_recordOperatorInitialized, CoversOperators]

/-- Phase E returns exactly after the shortest prefix that reports every local operator. -/
theorem waitForLocalOperatorsInitialized_eq_returned_iff (hnodup : ops.Nodup)
    (hmsgs : ∀ op, .operatorInitialized op ∈ msgs → op ∈ ops) (k : Nat) :
    waitForLocalOperatorsInitialized (msgs.map some) ops.length = .returned (.ok ()) k ↔
      IsFirstPrefix (CoversOperators ops) msgs k := by
  rw [waitForLocalOperatorsInitialized, waitWhile_map,
    waitWhile_eq_returned_iff _ _ (fun s msg => recordOperatorInitialized s (some msg)) _ _
      (fun _ _ _ => rfl)]
  refine IsFirstPrefix.congr fun j => ?_
  rw [← card_foldl_recordOperatorInitialized_ge_iff hnodup
    fun op h => hmsgs op (List.mem_of_mem_take h)]
  simp

theorem waitForLocalOperatorsInitialized_eq_blocked_iff (hnodup : ops.Nodup)
    (hmsgs : ∀ op, .operatorInitialized op ∈ msgs → op ∈ ops) :
    waitForLocalOperatorsInitialized (msgs.map some) ops.length = .blocked ↔
      ∀ k, ¬ CoversOperators ops (msgs.take k) := by
  rw [waitForLocalOperatorsInitialized, waitWhile_map,
    waitWhile_eq_blocked_iff _ _ (fun s msg => recordOperatorInitialized s (some msg)) _ _
      (fun _ _ _ => rfl)]
  refine forall_congr' fun j => ?_
  rw [← card_foldl_recordOperatorInitialized_ge_iff hnodup
    fun op h => hmsgs op (List.mem_of_mem_take h)]
  simp

end LocalOperators

/-! ### Phases F and G -/

/-- `Node::broadcast_local_operators_initialized`, given what the control handler's
`broadcast_to_nodes` returns for the message it is asked to send. -/
def broadcastLocalOperatorsInitialized (node : Node)
    (broadcastToNodes : ControlMessage → Except CommunicationError Unit) : Except String Unit :=
  (broadcastToNodes (.allOperatorsInitializedOnNode node.id)).mapError fun e =>
    "Error broadcasting control message: " ++ e.debug

/-- The body of `wait_for_all_operators_initialized` on one read of
`read_all_operators_initialized_on_node_msg`. -/
def allOperatorsBody (initialized : Finset NodeId) :
    Except CommunicationError NodeId → Next (Finset NodeId)
  | .ok nodeId => .continue (insert nodeId initialized)
  | .error e => .fail ("Error waiting for other nodes to set up: " ++ e.debug)

/-- `Node::wait_for_all_operators_initialized`. -/
def waitForAllOperatorsInitialized (node : Node)
    (reads : List (Except CommunicationError NodeId)) : Wait :=
  waitWhile (fun initialized => decide (initialized.card < node.numNodes)) allOperatorsBody
    {node.id} reads

/-- Every node other than `self` occurs among `ids`. -/
def CoversNodes (numNodes self : NodeId) (ids : List NodeId) : Prop :=
  ∀ p < numNodes, p ≠ self → p ∈ ids

instance (numNodes self : NodeId) : DecidablePred (CoversNodes numNodes self) := fun ids =>
  inferInstanceAs (Decidable (∀ p < numNodes, p ≠ self → p ∈ ids))

section AllOperators

variable {ids : List NodeId}

theorem mem_foldl_insert {s : Finset NodeId} {ids : List NodeId} {p : NodeId} :
    p ∈ ids.foldl (fun (s : Finset NodeId) n => insert n s) s ↔ p ∈ s ∨ p ∈ ids := by
  induction ids generalizing s with
  | nil => simp
  | cons n rest ih =>
      simp only [List.foldl_cons, ih, Finset.mem_insert, List.mem_cons]
      tauto

theorem card_foldl_insert_ge_iff {numNodes self : NodeId} (hself : self < numNodes)
    (hids : ∀ n ∈ ids, n < numNodes) :
    numNodes ≤ (ids.foldl (fun (s : Finset NodeId) n => insert n s) {self}).card ↔
      CoversNodes numNodes self ids := by
  have hmem : ∀ p, p ∈ ids.foldl (fun (s : Finset NodeId) n => insert n s) {self} ↔
      p = self ∨ p ∈ ids := by
    simp [mem_foldl_insert]
  have hsub :
      ids.foldl (fun (s : Finset NodeId) n => insert n s) {self} ⊆ Finset.range numNodes := by
    intro p hp
    rcases (hmem p).mp hp with rfl | hp
    · simpa using hself
    · simpa using hids p hp
  rw [card_ge_iff_forall_mem hsub, CoversNodes]
  exact forall₂_congr fun p _ => by rw [hmem]; tauto

/-- Phase G returns exactly after the shortest prefix that names every other node. -/
theorem waitForAllOperatorsInitialized_eq_returned_iff (node : Node)
    (hid : node.id < node.numNodes) (hids : ∀ n ∈ ids, n < node.numNodes) (k : Nat) :
    waitForAllOperatorsInitialized node (ids.map .ok) = .returned (.ok ()) k ↔
      IsFirstPrefix (CoversNodes node.numNodes node.id) ids k := by
  rw [waitForAllOperatorsInitialized, waitWhile_map,
    waitWhile_eq_returned_iff _ (fun s n => allOperatorsBody s (.ok n)) (fun s n => insert n s) _ _
      (fun _ _ _ => rfl)]
  refine IsFirstPrefix.congr fun j => ?_
  rw [← card_foldl_insert_ge_iff hid fun n h => hids n (List.mem_of_mem_take h)]
  simp

theorem waitForAllOperatorsInitialized_eq_blocked_iff (node : Node)
    (hid : node.id < node.numNodes) (hids : ∀ n ∈ ids, n < node.numNodes) :
    waitForAllOperatorsInitialized node (ids.map .ok) = .blocked ↔
      ∀ k, ¬ CoversNodes node.numNodes node.id (ids.take k) := by
  rw [waitForAllOperatorsInitialized, waitWhile_map,
    waitWhile_eq_blocked_iff _ (fun s n => allOperatorsBody s (.ok n)) (fun s n => insert n s) _ _
      (fun _ _ _ => rfl)]
  refine forall_congr' fun j => ?_
  rw [← card_foldl_insert_ge_iff hid fun n h => hids n (List.mem_of_mem_take h)]
  simp

theorem waitForAllOperatorsInitialized_returns_iff (node : Node)
    (hid : node.id < node.numNodes) (hids : ∀ n ∈ ids, n < node.numNodes) :
    (∃ k, waitForAllOperatorsInitialized node (ids.map .ok) = .returned (.ok ()) k) ↔
      CoversNodes node.numNodes node.id ids := by
  simp only [waitForAllOperatorsInitialized_eq_returned_iff node hid hids,
    exists_isFirstPrefix_iff]
  exact exists_take_iff_of_mono fun _ _ hsub h p hp hne => hsub p (h p hp hne)

end AllOperators

/-- Phase B and Phase G each return `Ok(())` after exactly the shortest prefix of their reads
that covers every other node, wait forever when no prefix does, and so return or not
independently of the order and multiplicity of the messages they read. -/
theorem startup_waits_return_after_shortest_cover (node : Node)
    (hid : node.id < node.numNodes) (reports : List (Worker × NodeId))
    (hreports : ∀ report ∈ reports, report.2 < node.numNodes) (ids : List NodeId)
    (hids : ∀ n ∈ ids, n < node.numNodes) :
    (∀ k, waitForCommunicationLayerInitialized node (initializedReads reports) =
        .returned (.ok ()) k ↔ IsFirstPrefix (CoversWorkers node.numNodes node.id) reports k) ∧
    ((∀ k, ¬ CoversWorkers node.numNodes node.id (reports.take k)) →
        waitForCommunicationLayerInitialized node (initializedReads reports) = .blocked) ∧
    (∀ k, waitForAllOperatorsInitialized node (ids.map .ok) = .returned (.ok ()) k ↔
        IsFirstPrefix (CoversNodes node.numNodes node.id) ids k) ∧
    ((∀ k, ¬ CoversNodes node.numNodes node.id (ids.take k)) →
        waitForAllOperatorsInitialized node (ids.map .ok) = .blocked) ∧
    (∀ reports' : List (Worker × NodeId), (∀ report, report ∈ reports ↔ report ∈ reports') →
        ((∃ k, waitForCommunicationLayerInitialized node (initializedReads reports) =
            .returned (.ok ()) k) ↔
          ∃ k, waitForCommunicationLayerInitialized node (initializedReads reports') =
            .returned (.ok ()) k)) ∧
    (∀ ids' : List NodeId, (∀ n, n ∈ ids ↔ n ∈ ids') →
        ((∃ k, waitForAllOperatorsInitialized node (ids.map .ok) = .returned (.ok ()) k) ↔
          ∃ k, waitForAllOperatorsInitialized node (ids'.map .ok) = .returned (.ok ()) k)) := by
  refine ⟨waitForCommunicationLayerInitialized_eq_returned_iff node hid hreports,
    (waitForCommunicationLayerInitialized_eq_blocked_iff node hid hreports).mpr,
    waitForAllOperatorsInitialized_eq_returned_iff node hid hids,
    (waitForAllOperatorsInitialized_eq_blocked_iff node hid hids).mpr, ?_, ?_⟩
  · intro reports' hsame
    rw [waitForCommunicationLayerInitialized_returns_iff node hid hreports,
      waitForCommunicationLayerInitialized_returns_iff node hid
        fun report h => hreports report ((hsame report).mpr h)]
    exact ⟨coversWorkers_mono _ _ fun r h => (hsame r).mp h,
      coversWorkers_mono _ _ fun r h => (hsame r).mpr h⟩
  · intro ids' hsame
    rw [waitForAllOperatorsInitialized_returns_iff node hid hids,
      waitForAllOperatorsInitialized_returns_iff node hid fun n h => hids n ((hsame n).mpr h)]
    exact ⟨fun h p hp hne => (hsame p).mp (h p hp hne),
      fun h p hp hne => (hsame p).mpr (h p hp hne)⟩

/-- Node 0 of a two-node deployment. -/
def pairNode : Node := Node.new ⟨0, ["10.0.0.1:9000", "10.0.0.2:9000"], none⟩

/-- A deployment of one node, with no peers. -/
def soloNode : Node := Node.new ⟨0, ["10.0.0.1:9000"], none⟩

/-- Node 1's four workers report to node 0, the data receiver twice. -/
def pairReports : List (Worker × NodeId) :=
  [(.dataReceiver, 1), (.controlSender, 1), (.dataReceiver, 1), (.dataSender, 1),
    (.controlReceiver, 1), (.dataSender, 1)]

theorem pairNode_communication_layer_returns_after_five :
    waitForCommunicationLayerInitialized pairNode (initializedReads pairReports) =
      .returned (.ok ()) 5 :=
  ((startup_waits_return_after_shortest_cover pairNode (by decide) pairReports (by decide) [1]
    (by decide)).1 5).mpr (by decide)

/-- When each expected report reaches a barrier exactly once, in any order, the barrier returns
after consuming all of them: Phase B after `4 (num_nodes - 1)` readiness messages, Phase E after
one `OperatorInitialized` per local operator, Phase G after `num_nodes - 1` broadcasts. -/
theorem barriers_return_after_every_report_once (node : Node) (hid : node.id < node.numNodes)
    (reports : List (Worker × NodeId)) (hreportsNodup : reports.Nodup)
    (hreports : ∀ r, r ∈ reports ↔ r.2 < node.numNodes ∧ r.2 ≠ node.id)
    (ops : List OperatorId) (hops : ops.Nodup) (msgs : List ControlMessage)
    (hmsgs : msgs.Perm (ops.map .operatorInitialized))
    (ids : List NodeId) (hidsNodup : ids.Nodup)
    (hids : ∀ p, p ∈ ids ↔ p < node.numNodes ∧ p ≠ node.id) :
    waitForCommunicationLayerInitialized node (initializedReads reports) =
        .returned (.ok ()) (4 * (node.numNodes - 1)) ∧
      waitForLocalOperatorsInitialized (msgs.map some) ops.length = .returned (.ok ()) ops.length ∧
      waitForAllOperatorsInitialized node (ids.map .ok) = .returned (.ok ()) (node.numNodes - 1) := by
  have hidsLength : ids.length = node.numNodes - 1 := by
    have hset : ids.toFinset = (Finset.range node.numNodes).erase node.id := by
      ext p
      simp [hids, and_comm]
    rw [← List.toFinset_card_of_nodup hidsNodup, hset,
      Finset.card_erase_of_mem (Finset.mem_range.mpr hid), Finset.card_range]
  have hmsgsLength : msgs.length = ops.length := by rw [hmsgs.length_eq, List.length_map]
  have hmsgsNodup : msgs.Nodup :=
    hmsgs.nodup_iff.mpr (hops.map fun a b h => by cases h; rfl)
  refine ⟨waitForCommunicationLayerInitialized_of_each_report_once node hid hreportsNodup hreports,
    ?_, ?_⟩
  · have hmem : ∀ op, .operatorInitialized op ∈ msgs → op ∈ ops := fun op h => by
      simpa using hmsgs.subset h
    rw [waitForLocalOperatorsInitialized_eq_returned_iff hops hmem, ← hmsgsLength]
    refine isFirstPrefix_length_of_nodup hmsgsNodup fun j => ⟨fun h m hm => ?_,
      fun h op hop => h _ (hmsgs.symm.subset (List.mem_map_of_mem _ hop))⟩
    obtain ⟨op, hop, rfl⟩ := List.mem_map.mp (hmsgs.subset hm)
    exact h op hop
  · rw [← hidsLength, waitForAllOperatorsInitialized_eq_returned_iff node hid
      fun p hp => ((hids p).mp hp).1]
    exact isFirstPrefix_length_of_nodup hidsNodup fun j => ⟨fun h p hp =>
      h p ((hids p).mp hp).1 ((hids p).mp hp).2, fun h p hp hne => h p ((hids p).mpr ⟨hp, hne⟩)⟩

theorem pairNode_barriers_return_after_every_report_once :
    waitForCommunicationLayerInitialized pairNode
        (initializedReads [(.dataSender, 1), (.controlReceiver, 1), (.controlSender, 1),
          (.dataReceiver, 1)]) = .returned (.ok ()) (4 * (pairNode.numNodes - 1)) ∧
      waitForLocalOperatorsInitialized ([.operatorInitialized 5, .operatorInitialized 3].map some)
        [3, 5].length = .returned (.ok ()) [3, 5].length ∧
      waitForAllOperatorsInitialized pairNode ([1].map .ok) =
        .returned (.ok ()) (pairNode.numNodes - 1) :=
  have hpeer : ∀ p : Nat, p = 1 ↔ p < 2 ∧ ¬p = 0 := fun p => by omega
  barriers_return_after_every_report_once pairNode (by decide) _ (by decide)
    (by rintro ⟨w, p⟩; cases w <;> simpa [pairNode, Node.new, Node.numNodes] using hpeer p)
    [3, 5] (by decide) _ (List.Perm.swap _ _ _) [1] (by decide)
    (fun p => by simpa [pairNode, Node.new, Node.numNodes] using hpeer p)

/-- The barriers read until they are satisfied or a read stops them.  Before Phase B has every
readiness report, an `Err` from the control handler ends it with `"Error receiving control
message: "` and the error's `Debug` text, and a message of any other kind reaches
`unreachable!()`; before Phase G has every other node, an `Err` ends it with `"Error waiting for
other nodes to set up: "` and the error's text.  Nothing read after that is consumed. -/
theorem barriers_stop_at_first_failed_read (node : Node) (hid : node.id < node.numNodes)
    (reports : List (Worker × NodeId)) (hreports : ∀ r ∈ reports, r.2 < node.numNodes)
    (hreportsShort : ¬ CoversWorkers node.numNodes node.id reports)
    (ids : List NodeId) (hids : ∀ k ∈ ids, k < node.numNodes)
    (hidsShort : ¬ CoversNodes node.numNodes node.id ids)
    (e : CommunicationError) (msg : ControlMessage) (hmsg : msg.initialized? = none)
    (rest : List (Except CommunicationError ControlMessage))
    (rest' : List (Except CommunicationError NodeId)) :
    waitForCommunicationLayerInitialized node (initializedReads reports ++ .error e :: rest) =
        .returned (.error ("Error receiving control message: " ++ e.debug)) (reports.length + 1) ∧
      waitForCommunicationLayerInitialized node (initializedReads reports ++ .ok msg :: rest) =
        .panicked ∧
      waitForAllOperatorsInitialized node (ids.map .ok ++ .error e :: rest') =
        .returned (.error ("Error waiting for other nodes to set up: " ++ e.debug))
          (ids.length + 1) := by
  have hworkers : ∀ j, ((reports.take j).foldl WorkerSets.record
      (WorkerSets.seeded node.id)).pending node.numNodes = true := fun j => by
    rw [← Bool.not_eq_false, pending_foldl_record_eq_false_iff hid
      fun r hr => hreports r (List.mem_of_mem_take hr)]
    exact fun h => hreportsShort (coversWorkers_mono _ _ (fun _ => List.mem_of_mem_take) h)
  have hnodes : ∀ j, decide (((ids.take j).foldl (fun (s : Finset NodeId) k => insert k s)
      {node.id}).card < node.numNodes) = true := fun j => by
    rw [decide_eq_true_iff, ← not_le, card_foldl_insert_ge_iff hid
      fun k hk => hids k (List.mem_of_mem_take hk)]
    exact fun h => hidsShort fun p hp hne => List.mem_of_mem_take (h p hp hne)
  have hB : ∀ read rest, waitForCommunicationLayerInitialized node
      (initializedReads reports ++ read :: rest) = Wait.later^[reports.length]
        (waitWhile (WorkerSets.pending node.numNodes) communicationLayerBody
          (reports.foldl WorkerSets.record (WorkerSets.seeded node.id)) (read :: rest)) :=
    fun _ _ => waitWhile_map_append_of_guarded _ _ WorkerSets.record _ _ _ _
      (fun _ _ _ => by simp [communicationLayerBody]) fun j _ => hworkers j
  have hpendingB := hworkers reports.length
  have hpendingG := hnodes ids.length
  rw [List.take_length] at hpendingB hpendingG
  refine ⟨?_, ?_, ?_⟩
  · rw [hB]
    simp [waitWhile, hpendingB, communicationLayerBody, Wait.later_iterate_returned, Nat.add_comm]
  · rw [hB]
    simp [waitWhile, hpendingB, communicationLayerBody, hmsg, Wait.later_iterate_panicked]
  · rw [waitForAllOperatorsInitialized, waitWhile_map_append_of_guarded _ _
      (fun (s : Finset NodeId) k => insert k s) _ _ _ _ (fun _ _ _ => rfl) fun j _ => hnodes j]
    simp [waitWhile, hpendingG, allOperatorsBody, Wait.later_iterate_returned, Nat.add_comm]

theorem pairNode_barriers_stop_at_disconnect :
    waitForCommunicationLayerInitialized pairNode
        (initializedReads [(.dataSender, 1)] ++ [.error .disconnected]) =
      .returned (.error ("Error receiving control message: " ++ CommunicationError.disconnected.debug))
        ([(Worker.dataSender, 1)].length + 1) ∧
    waitForCommunicationLayerInitialized pairNode
        (initializedReads [(.dataSender, 1)] ++ [.ok (.runOperator 3)]) = .panicked ∧
    waitForAllOperatorsInitialized pairNode (([] : List NodeId).map .ok ++ [.error .disconnected]) =
      .returned (.error ("Error waiting for other nodes to set up: " ++
        CommunicationError.disconnected.debug)) (([] : List NodeId).length + 1) :=
  barriers_stop_at_first_failed_read pairNode (by decide) _ (by decide) (by decide) [] (by simp)
    (by decide) .disconnected (.runOperator 3) rfl [] []

end ErdosNode
