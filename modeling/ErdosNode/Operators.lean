import Mathlib.Data.List.AList
import ErdosNode.Barriers

/-
Spawning the local operators and telling them to run (Phases D, E and I of `run_operators`): one
fresh command channel per operator, and `RunOperator` sent over the map of channels in any of its
iteration orders.
-/

namespace ErdosNode

/-- An operator of the scheduled graph as `run_operators` reads it; the runner closure is
represented by the operator itself. -/
structure OperatorInfo where
  id : OperatorId
  nodeId : NodeId
deriving DecidableEq, Repr

/-- The parts of the scheduled graph `run_operators` reads: its operators, and for each node the
setup hooks of the driver declared on it, if any (`get_driver(node).setup_hooks`). -/
structure ScheduledGraph where
  operators : List OperatorInfo
  driverSetupHooks : NodeId → Option (List Nat)

/-- `graph.get_operators().into_iter().filter(|op| op.node_id == self.id)`. -/
def ScheduledGraph.localOperators (graph : ScheduledGraph) (id : NodeId) : List OperatorInfo :=
  graph.operators.filter fun op => op.nodeId == id

/-- The `channels_to_operators` map: operator id to the index of its command channel. -/
abbrev OperatorChannels := AList fun _ : OperatorId => Nat

/-- An operator task spawned by `run_operators`, with the channel whose receiver its runner got. -/
structure Spawned where
  operator : OperatorInfo
  channel : Nat
deriving DecidableEq, Repr

/-- The `channels_to_operators` entry a spawned operator leaves: its id bound to its channel. -/
def Spawned.entry (s : Spawned) : Σ _ : OperatorId, Nat := ⟨s.operator.id, s.channel⟩

/-- The spawn loop from channel index `next` on: each operator gets the next fresh channel, whose
sender is inserted under the operator's id (replacing an earlier binding of the same id) and
whose receiver goes to the operator's runner. -/
def spawnOperatorsFrom : Nat → OperatorChannels → List OperatorInfo →
    OperatorChannels × List Spawned
  | _, channels, [] => (channels, [])
  | next, channels, op :: rest =>
    let (channels', spawned) := spawnOperatorsFrom (next + 1) (channels.insert op.id next) rest
    (channels', ⟨op, next⟩ :: spawned)

/-- The spawn loop of `run_operators` over the local operators, from an empty map. -/
def spawnOperators (localOperators : List OperatorInfo) : OperatorChannels × List Spawned :=
  spawnOperatorsFrom 0 ∅ localOperators

/-- The text of `tokio::sync::mpsc::error::SendError`. -/
def sendErrorText : String := "channel closed"

/-- `for (op_id, tx) in channels_to_operators { tx.send(RunOperator(op_id))? }` over one
iteration order of the map; `alive c` says whether channel `c`'s receiver still exists.  The
result lists the sends made, in order, with the loop's result. -/
def dispatchRunOperators (alive : Nat → Bool) :
    List (Σ _ : OperatorId, Nat) → List (Nat × ControlMessage) × Except String Unit
  | [] => ([], .ok ())
  | ⟨op, channel⟩ :: rest =>
    if alive channel then
      let (sent, result) := dispatchRunOperators alive rest
      ((channel, .runOperator op) :: sent, result)
    else ([], .error ("Error telling operator to run: " ++ sendErrorText))

/-- A dispatch over open channels sends without failing. -/
theorem dispatchRunOperators_all_alive {alive : Nat → Bool} {order : List (Σ _ : OperatorId, Nat)}
    (halive : ∀ e ∈ order, alive e.2 = true) : (dispatchRunOperators alive order).2 = .ok () := by
  induction order with
  | nil => rfl
  | cons e rest ih =>
      simpa [dispatchRunOperators, halive e (List.mem_cons_self _ _)] using
        ih fun e he => halive e (List.mem_cons_of_mem _ he)

/-- Every send of the dispatch carries an entry's id on that entry's channel. -/
theorem mem_dispatchRunOperators {alive : Nat → Bool} {order : List (Σ _ : OperatorId, Nat)}
    {e : Nat × ControlMessage} (he : e ∈ (dispatchRunOperators alive order).1) :
    ∃ x ∈ order, e = (x.2, .runOperator x.1) := by
  induction order with
  | nil => simp [dispatchRunOperators] at he
  | cons x rest ih =>
      by_cases halive : alive x.2
      · simp only [dispatchRunOperators, halive, if_true, List.mem_cons] at he
        rcases he with rfl | he
        · exact ⟨x, List.mem_cons_self _ _, rfl⟩
        · obtain ⟨y, hy, rfl⟩ := ih he
          exact ⟨y, List.mem_cons_of_mem _ hy, rfl⟩
      · simp [dispatchRunOperators, halive] at he

/-- The messages sent on channel `channel`, in order. -/
def sentOn (sent : List (Nat × ControlMessage)) (channel : Nat) : List ControlMessage :=
  (sent.filter fun e => e.1 == channel).map (·.2)

theorem spawnOperatorsFrom_channels (next : Nat) (channels : OperatorChannels)
    (ops : List OperatorInfo) :
    (spawnOperatorsFrom next channels ops).2.map (·.channel) = List.range' next ops.length := by
  induction ops generalizing next channels with
  | nil => rfl
  | cons op rest ih => simp [spawnOperatorsFrom, ih, List.range'_succ]

theorem spawnOperatorsFrom_operators (next : Nat) (channels : OperatorChannels)
    (ops : List OperatorInfo) :
    (spawnOperatorsFrom next channels ops).2.map (·.operator) = ops := by
  induction ops generalizing next channels with
  | nil => rfl
  | cons op rest ih => simp [spawnOperatorsFrom, ih]

/-- With fresh, pairwise distinct ids no insert replaces a binding: the map holds one entry per
spawned operator, its id bound to its own channel. -/
theorem spawnOperatorsFrom_entries_perm (next : Nat) (channels : OperatorChannels)
    (ops : List OperatorInfo) (hnodup : (ops.map (·.id)).Nodup)
    (hfresh : ∀ op ∈ ops, op.id ∉ channels) :
    (spawnOperatorsFrom next channels ops).1.entries.Perm
      ((spawnOperatorsFrom next channels ops).2.map Spawned.entry ++ channels.entries) := by
  induction ops generalizing next channels with
  | nil => simp [spawnOperatorsFrom]
  | cons op rest ih =>
      simp only [List.map_cons, List.nodup_cons, List.mem_map] at hnodup
      have hrest := ih (next + 1) (channels.insert op.id next) hnodup.2 fun o ho => by
        rw [AList.mem_insert]
        rintro (heq | hmem)
        · exact hnodup.1 ⟨o, ho, heq⟩
        · exact hfresh o (List.mem_cons_of_mem _ ho) hmem
      rw [AList.insert_entries_of_neg (hfresh op (List.mem_cons_self _ _))] at hrest
      simpa [spawnOperatorsFrom, Spawned.entry] using hrest.trans List.perm_middle

/-- With pairwise distinct ids the map's entries are the spawned operators' entries. -/
theorem spawnOperators_entries_perm {ops : List OperatorInfo} (hnodup : (ops.map (·.id)).Nodup) :
    (spawnOperators ops).1.entries.Perm ((spawnOperators ops).2.map Spawned.entry) := by
  simpa using spawnOperatorsFrom_entries_perm 0 ∅ ops hnodup fun _ _ => AList.not_mem_empty _

/-- A dispatch in which no send fails sends `RunOperator(op_id)` once on every entry's channel,
in iteration order. -/
theorem dispatchRunOperators_of_ok {alive : Nat → Bool} {order : List (Σ _ : OperatorId, Nat)}
    (hok : (dispatchRunOperators alive order).2 = .ok ()) :
    (dispatchRunOperators alive order).1 = order.map fun e => (e.2, .runOperator e.1) := by
  induction order with
  | nil => rfl
  | cons e rest ih =>
      obtain ⟨op, channel⟩ := e
      by_cases halive : alive channel
      · simp only [dispatchRunOperators, halive, if_true] at hok ⊢
        simp [ih hok]
      · simp [dispatchRunOperators, halive] at hok

theorem sentOn_perm {sent sent' : List (Nat × ControlMessage)} (hperm : sent.Perm sent')
    (channel : Nat) : (sentOn sent channel).Perm (sentOn sent' channel) :=
  (hperm.filter _).map _

theorem sentOn_spawned (spawned : List Spawned) (hnodup : (spawned.map (·.channel)).Nodup)
    {s : Spawned} (hs : s ∈ spawned) :
    sentOn (spawned.map fun s => (s.channel, .runOperator s.operator.id)) s.channel =
      [.runOperator s.operator.id] := by
  induction spawned with
  | nil => simp at hs
  | cons t rest ih =>
      simp only [List.map_cons, List.nodup_cons, List.mem_map] at hnodup
      rcases List.mem_cons.mp hs with rfl | hs
      · have hnone : sentOn (rest.map fun s => (s.channel, .runOperator s.operator.id))
            s.channel = [] := by
          simp only [sentOn, List.map_eq_nil_iff, List.filter_eq_nil_iff, List.mem_map]
          rintro _ ⟨u, hu, rfl⟩
          simpa using fun h => hnodup.1 ⟨u, hu, h⟩
        simpa [sentOn] using hnone
      · have hne : t.channel ≠ s.channel := fun h => hnodup.1 ⟨s, hs, h.symm⟩
        simpa [sentOn, hne] using ih hnodup.2 hs

theorem dispatch_spawned_sentOn {ops : List OperatorInfo} (hnodup : (ops.map (·.id)).Nodup)
    {order : List (Σ _ : OperatorId, Nat)} (hperm : order.Perm (spawnOperators ops).1.entries)
    {alive : Nat → Bool} (hok : (dispatchRunOperators alive order).2 = .ok ()) :
    (dispatchRunOperators alive order).1.Perm
      ((spawnOperators ops).2.map fun s => (s.channel, .runOperator s.operator.id)) := by
  rw [dispatchRunOperators_of_ok hok]
  simpa [Spawned.entry, Function.comp_def] using
    (hperm.trans (spawnOperators_entries_perm hnodup)).map
      fun e : (Σ _ : OperatorId, Nat) => (e.2, ControlMessage.runOperator e.1)

/-- Phase E returns exactly after the shortest prefix of operator messages that reports every
local operator (and never without one); then every local operator has been spawned once, and a
dispatch over open channels succeeds and sends, whatever the map's iteration order, exactly one
`RunOperator` carrying the operator's id on the channel whose receiver its runner holds, and
nothing on any other channel. -/
theorem local_operators_initialized_then_run_once (graph : ScheduledGraph) (node : Node)
    (hnodup : ((graph.localOperators node.id).map (·.id)).Nodup) (msgs : List ControlMessage)
    (hmsgs : ∀ op, .operatorInitialized op ∈ msgs →
      op ∈ (graph.localOperators node.id).map (·.id)) :
    (∀ k, waitForLocalOperatorsInitialized (msgs.map some)
        (graph.localOperators node.id).length = .returned (.ok ()) k ↔
      IsFirstPrefix (CoversOperators ((graph.localOperators node.id).map (·.id))) msgs k) ∧
    ((∀ k, ¬ CoversOperators ((graph.localOperators node.id).map (·.id)) (msgs.take k)) →
      waitForLocalOperatorsInitialized (msgs.map some) (graph.localOperators node.id).length =
        .blocked) ∧
    (spawnOperators (graph.localOperators node.id)).2.map (·.operator) =
      graph.localOperators node.id ∧
    ∀ order : List (Σ _ : OperatorId, Nat),
      order.Perm (spawnOperators (graph.localOperators node.id)).1.entries →
      ∀ alive : Nat → Bool,
        (∀ s ∈ (spawnOperators (graph.localOperators node.id)).2, alive s.channel = true) →
        (dispatchRunOperators alive order).2 = .ok () ∧
        (∀ s ∈ (spawnOperators (graph.localOperators node.id)).2,
          sentOn (dispatchRunOperators alive order).1 s.channel = [.runOperator s.operator.id]) ∧
        ∀ e ∈ (dispatchRunOperators alive order).1,
          ∃ s ∈ (spawnOperators (graph.localOperators node.id)).2, e.1 = s.channel := by
  have hlen : (graph.localOperators node.id).length =
      ((graph.localOperators node.id).map (·.id)).length := (List.length_map _ _).symm
  refine ⟨fun k => hlen ▸ waitForLocalOperatorsInitialized_eq_returned_iff hnodup hmsgs k,
    fun h => hlen ▸ (waitForLocalOperatorsInitialized_eq_blocked_iff hnodup hmsgs).mpr h,
    spawnOperatorsFrom_operators 0 ∅ _, fun order hperm alive halive => ?_⟩
  have hok : (dispatchRunOperators alive order).2 = .ok () :=
    dispatchRunOperators_all_alive fun e he => by
      obtain ⟨s, hs, rfl⟩ :=
        List.mem_map.mp ((hperm.trans (spawnOperators_entries_perm hnodup)).subset he)
      exact halive s hs
  have hsent := dispatch_spawned_sentOn hnodup hperm hok
  have hchannels : ((spawnOperators (graph.localOperators node.id)).2.map (·.channel)).Nodup := by
    rw [spawnOperators, spawnOperatorsFrom_channels]
    exact List.nodup_range' _ _
  refine ⟨hok, fun s hs => ?_, fun e he => ?_⟩
  · rw [← List.perm_singleton, ← sentOn_spawned _ hchannels hs]
    exact sentOn_perm hsent s.channel
  · obtain ⟨s, hs, rfl⟩ := List.mem_map.mp (hsent.subset he)
    exact ⟨s, hs, rfl⟩

/-- Two operators on node 0 and one on node 1. -/
def threeOperatorGraph : ScheduledGraph :=
  ⟨[⟨7, 0⟩, ⟨8, 1⟩, ⟨9, 0⟩], fun _ => none⟩

theorem threeOperatorGraph_local_operators_return_after_four :
    waitForLocalOperatorsInitialized
        ([.operatorInitialized 9, .runOperator 7, .operatorInitialized 9,
          .operatorInitialized 7, .operatorInitialized 9].map some)
        (threeOperatorGraph.localOperators pairNode.id).length = .returned (.ok ()) 4 :=
  ((local_operators_initialized_then_run_once threeOperatorGraph pairNode (by decide)
    [.operatorInitialized 9, .runOperator 7, .operatorInitialized 9, .operatorInitialized 7,
      .operatorInitialized 9]
    (by simp [threeOperatorGraph, ScheduledGraph.localOperators, pairNode, Node.new])).1
    4).mpr (by decide)

/-! ### Repeated operator ids -/

/-- With a repeated id the local operators have fewer distinct ids than there are of them. -/
theorem card_toFinset_ids_lt {ops : List OperatorInfo} (hdup : ¬ (ops.map (·.id)).Nodup) :
    (ops.map (·.id)).toFinset.card < ops.length := by
  rw [← List.length_map ops (·.id)]
  exact lt_of_le_of_ne (List.toFinset_card_le _) fun h =>
    hdup (Multiset.toFinset_card_eq_card_iff_nodup.mp h)

/-- The spawn loop binds only the ids of the map it started from and of the operators it spawned. -/
theorem mem_spawnOperatorsFrom {next : Nat} {channels : OperatorChannels} {ops : List OperatorInfo}
    {k : OperatorId} (hk : k ∈ (spawnOperatorsFrom next channels ops).1) :
    k ∈ channels ∨ k ∈ ops.map (·.id) := by
  induction ops generalizing next channels with
  | nil => exact .inl hk
  | cons op rest ih =>
      rcases ih (by simpa [spawnOperatorsFrom] using hk) with h | h
      · rcases (AList.mem_insert _).mp h with rfl | h
        · exact .inr (List.mem_cons_self _ _)
        · exact .inl h
      · exact .inr (List.mem_cons_of_mem _ h)

/-- The map keeps one channel per distinct id. -/
theorem length_spawnOperators_entries_le (ops : List OperatorInfo) :
    (spawnOperators ops).1.entries.length ≤ (ops.map (·.id)).toFinset.card := by
  have hkeys : ((spawnOperators ops).1.entries.map Sigma.fst).Nodup :=
    (spawnOperators ops).1.nodupKeys
  rw [← List.length_map _ Sigma.fst, ← List.toFinset_card_of_nodup hkeys]
  refine Finset.card_le_card fun k hk => ?_
  have hmem : k ∈ (spawnOperators ops).1 := List.mem_toFinset.mp hk
  rcases mem_spawnOperatorsFrom hmem with h | h
  · exact absurd h (AList.not_mem_empty _)
  · exact List.mem_toFinset.mpr h

/-- Phase E counts distinct ids: with a repeated id among the local operators it never returns on
their reports. -/
theorem waitForLocalOperatorsInitialized_blocked_of_repeated {ops : List OperatorInfo}
    (hdup : ¬ (ops.map (·.id)).Nodup) {msgs : List ControlMessage}
    (hmsgs : ∀ op, .operatorInitialized op ∈ msgs → op ∈ ops.map (·.id)) :
    waitForLocalOperatorsInitialized (msgs.map some) ops.length = .blocked := by
  rw [waitForLocalOperatorsInitialized, waitWhile_map,
    waitWhile_eq_blocked_iff _ _ (fun s msg => recordOperatorInitialized s (some msg)) _ _
      (fun _ _ _ => rfl)]
  intro j
  have hsub : (msgs.take j).foldl (fun s msg => recordOperatorInitialized s (some msg)) ∅ ⊆
      (ops.map (·.id)).toFinset := fun op hop => by
    rcases mem_foldl_recordOperatorInitialized.mp hop with h | h
    · simp at h
    · exact List.mem_toFinset.mpr (hmsgs op (List.mem_of_mem_take h))
  simpa using (Finset.card_le_card hsub).trans_lt (card_toFinset_ids_lt hdup)

/-- With a repeated id the map has fewer channels than were handed out, so some spawned operator's
channel is bound to no id. -/
theorem exists_spawned_unbound {ops : List OperatorInfo} (hdup : ¬ (ops.map (·.id)).Nodup) :
    ∃ sp ∈ (spawnOperators ops).2, sp.channel ∉ (spawnOperators ops).1.entries.map Sigma.snd := by
  by_contra hall
  push_neg at hall
  have hchannels : (spawnOperators ops).2.map (·.channel) = List.range' 0 ops.length :=
    spawnOperatorsFrom_channels 0 ∅ ops
  have hsub : (List.range' 0 ops.length).toFinset ⊆
      ((spawnOperators ops).1.entries.map Sigma.snd).toFinset := fun ch hch => by
    rw [← hchannels, List.mem_toFinset, List.mem_map] at hch
    obtain ⟨sp, hsp, rfl⟩ := hch
    exact List.mem_toFinset.mpr (hall sp hsp)
  have hle := (Finset.card_le_card hsub).trans (List.toFinset_card_le _)
  rw [List.toFinset_card_of_nodup (List.nodup_range' 0 _), List.length_range',
    List.length_map] at hle
  have := length_spawnOperators_entries_le ops
  have := card_toFinset_ids_lt hdup
  omega

/-- Two local operators with one id hang the node in Phase E: the barrier counts distinct ids
against the number of local operators, so whatever reports its operators send it never returns.
The map of command channels also keeps one channel per id, so some spawned operator is never sent
`RunOperator`, whatever the map's iteration order and whichever sends fail. -/
theorem repeated_operator_ids_hang_local_operators (graph : ScheduledGraph) (node : Node)
    (hdup : ¬ ((graph.localOperators node.id).map (·.id)).Nodup) (msgs : List ControlMessage)
    (hmsgs : ∀ op, .operatorInitialized op ∈ msgs →
      op ∈ (graph.localOperators node.id).map (·.id)) :
    waitForLocalOperatorsInitialized (msgs.map some) (graph.localOperators node.id).length =
        .blocked ∧
      ∃ sp ∈ (spawnOperators (graph.localOperators node.id)).2,
        ∀ order : List (Σ _ : OperatorId, Nat),
          order.Perm (spawnOperators (graph.localOperators node.id)).1.entries →
          ∀ alive : Nat → Bool, sentOn (dispatchRunOperators alive order).1 sp.channel = [] := by
  obtain ⟨sp, hsp, hunbound⟩ := exists_spawned_unbound hdup
  refine ⟨waitForLocalOperatorsInitialized_blocked_of_repeated hdup hmsgs, sp, hsp,
    fun order hperm alive => ?_⟩
  simp only [sentOn, List.map_eq_nil_iff, List.filter_eq_nil_iff, beq_iff_eq]
  intro e he heq
  obtain ⟨x, hx, rfl⟩ := mem_dispatchRunOperators he
  exact hunbound (heq ▸ List.mem_map_of_mem _ (hperm.subset hx))

/-- Two operators on node 0 that share id 7. -/
def twinOperatorGraph : ScheduledGraph :=
  ⟨[⟨7, 0⟩, ⟨7, 0⟩], fun _ => none⟩

theorem twinOperatorGraph_local_operators_hang :
    waitForLocalOperatorsInitialized ([.operatorInitialized 7, .operatorInitialized 7].map some)
        (twinOperatorGraph.localOperators pairNode.id).length = .blocked ∧
      ∃ sp ∈ (spawnOperators (twinOperatorGraph.localOperators pairNode.id)).2,
        ∀ order : List (Σ _ : OperatorId, Nat),
          order.Perm (spawnOperators (twinOperatorGraph.localOperators pairNode.id)).1.entries →
          ∀ alive : Nat → Bool, sentOn (dispatchRunOperators alive order).1 sp.channel = [] :=
  repeated_operator_ids_hang_local_operators twinOperatorGraph pairNode (by decide) _
    (by simp [twinOperatorGraph, ScheduledGraph.localOperators, pairNode, Node.new])

end ErdosNode
