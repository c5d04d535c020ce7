import ErdosNode.Discovery
import ErdosNode.Operators

/-
The node thread that `Node::run_async` starts, in TCP and in Zenoh builds, and what its caller
sees: the caller waits until `set_node_initialized` sets the `initialized` flag, so every ending
of the thread before that point leaves it waiting for good.
-/

namespace ErdosNode

/-- The transport feature a build is compiled with; `zenoh_transport` and
`zenoh_zerocopy_transport` compile `async_run` alike. -/
inductive Transport where
  | tcp
  | zenoh
deriving DecidableEq, Repr

/-- Where `run` and `async_run` stand before the futures race. -/
inductive Boot where
  /-- `run` builds the tokio runtime. -/
  | runtime
  /-- `zenoh::net::open(zconfig).await.unwrap()`. -/
  | zenohOpen
  /-- `zrx.recv().await`: the query handler has been spawned and not yet signalled. -/
  | zenohHandler
  /-- `wait_zenoh_nodes_discovered(num_nodes, self.id, zsession).await.unwrap()`. -/
  | zenohDiscovery
  /-- The control and data streams, their senders and their receivers are being built. -/
  | streams
  /-- The futures are built and race: `try_join!` and then `select!` with one node, `select!`
  with more. -/
  | started
deriving DecidableEq, Repr

/-- The stage after the runtime: Zenoh builds open a session first. -/
def Transport.afterRuntime : Transport → Boot
  | .tcp => .streams
  | .zenoh => .zenohOpen

/-- The task spawned on `query_handler` in Zenoh builds. -/
inductive QueryHandler where
  /-- Not spawned (TCP builds, or before the session is open). -/
  | idle
  /-- `declare_queryable(..).await.unwrap()`, before `tx.send(())`. -/
  | declaring
  /-- Answering queries, having signalled `zrx`. -/
  | serving
  /-- The task has finished, by its queryable's stream ending or by a panic. -/
  | ended
deriving DecidableEq, Repr

/-- The calls whose `Err` `run_operators` returns with `?`, in program order. -/
inductive Stage where
  | communicationLayer
  | toDot
  | broadcast
  | allOperators
  | runOperator
deriving DecidableEq, Repr

/-- Where `run_operators` stands: the call it awaits next, or the result it returned. -/
inductive OpsPc where
  | communicationLayer
  | toDot
  | localOperators
  /-- The loop over the setup hooks of the driver on this node. -/
  | setupHooks
  | broadcast
  | allOperators
  | latch
  | runOperators
  | join
  | finished (result : Except (Stage × String) Unit)

/-- Whether `run_operators` has passed `set_node_initialized`. -/
def OpsPc.latched : OpsPc → Bool
  | .runOperators | .join => true
  | .finished (.ok ()) => true
  | .finished (.error (stage, _)) => stage == .runOperator
  | _ => false

/-- One awaited call of `run_operators`, with the outcome its model gives on the environment's
input: the control handler's messages, `to_dot`'s result, the operators' reports, the broadcast's
send result and the operators' channels. -/
inductive OpsStep (node : Node) (graph : ScheduledGraph) : OpsPc → OpsPc → Prop
  | communicationLayer {reads k}
      (h : waitForCommunicationLayerInitialized node reads = .returned (.ok ()) k) :
      OpsStep node graph .communicationLayer .toDot
  | communicationLayerFailed {reads e k}
      (h : waitForCommunicationLayerInitialized node reads = .returned (.error e) k) :
      OpsStep node graph .communicationLayer (.finished (.error (.communicationLayer, e)))
  | toDotSkipped (h : node.config.graphFilename = none) : OpsStep node graph .toDot .localOperators
  | toDot {filename} (h : node.config.graphFilename = some filename) :
      OpsStep node graph .toDot .localOperators
  | toDotFailed {filename e} (h : node.config.graphFilename = some filename) :
      OpsStep node graph .toDot (.finished (.error (.toDot, e)))
  | localOperators {msgs k}
      (h : waitForLocalOperatorsInitialized msgs (graph.localOperators node.id).length =
        .returned (.ok ()) k) :
      OpsStep node graph .localOperators .setupHooks
  | setupHooks : OpsStep node graph .setupHooks .broadcast
  | broadcast {send} (h : broadcastLocalOperatorsInitialized node send = .ok ()) :
      OpsStep node graph .broadcast .allOperators
  | broadcastFailed {send e} (h : broadcastLocalOperatorsInitialized node send = .error e) :
      OpsStep node graph .broadcast (.finished (.error (.broadcast, e)))
  | allOperators {reads k} (h : waitForAllOperatorsInitialized node reads = .returned (.ok ()) k) :
      OpsStep node graph .allOperators .latch
  | allOperatorsFailed {reads e k}
      (h : waitForAllOperatorsInitialized node reads = .returned (.error e) k) :
      OpsStep node graph .allOperators (.finished (.error (.allOperators, e)))
  | runOperators {alive order}
      (horder : order.Perm (spawnOperators (graph.localOperators node.id)).1.entries)
      (h : (dispatchRunOperators alive order).2 = .ok ()) :
      OpsStep node graph .runOperators .join
  | runOperatorsFailed {alive order e}
      (horder : order.Perm (spawnOperators (graph.localOperators node.id)).1.entries)
      (h : (dispatchRunOperators alive order).2 = .error e) :
      OpsStep node graph .runOperators (.finished (.error (.runOperator, e)))
  | join : OpsStep node graph .join (.finished (.ok ()))

/-- No call of `run_operators` crosses `set_node_initialized`: that is the supervisor's own step. -/
theorem OpsStep.latched_eq {node : Node} {graph : ScheduledGraph} {pc pc' : OpsPc}
    (h : OpsStep node graph pc pc') : pc'.latched = pc.latched := by
  cases h <;> rfl

/-- Where the node thread panics. -/
inductive PanicSite where
  /-- The `unwrap` of the runtime builder in `run`. -/
  | runtime
  /-- The `unwrap` of `zenoh::net::open`. -/
  | zenohOpen
  /-- The `unwrap` of `wait_zenoh_nodes_discovered`, or its `total_nodes - 1` with no nodes. -/
  | zenohDiscovery
  /-- `unreachable!()` in Phase B. -/
  | communicationLayer
  /-- A setup hook of the driver on this node. -/
  | setupHook
  /-- Code of other files the thread runs or polls: stream set-up, scheduler, channel manager,
  transport futures. -/
  | library
deriving DecidableEq, Repr

/-- What ended `async_run`: the arm of its `select!` that won, or a panic of the node thread. -/
inductive Exit where
  | opsFailed (stage : Stage) (message : String)
  | transportFailed (transport : Worker) (message : String)
  | shutdown
  /-- Zenoh builds: the `z_handler_fut` arm. -/
  | queryHandlerEnded
  | panicked (site : PanicSite)

/-- The node thread and its caller. -/
structure Supervisor where
  boot : Boot
  queryHandler : QueryHandler
  ops : OpsPc
  /-- The `bool` behind the `initialized` mutex. -/
  initialized : Bool
  /-- The result of each transport future, once it has completed. -/
  transports : Worker → Option (Except String Unit)
  /-- `try_join!` of the transports has finished (one node only). -/
  joined : Bool
  /-- `run_async` has left its wait and returned the `NodeHandle`. -/
  released : Bool
  shutdownSent : Bool
  exit : Option Exit

/-- The thread just spawned: nothing has run and the flag is false. -/
def Supervisor.init : Supervisor where
  boot := .runtime
  queryHandler := .idle
  ops := .communicationLayer
  initialized := false
  transports := fun _ => none
  joined := false
  released := false
  shutdownSent := false
  exit := none

/-- The `select!` polls its arms: at once with more than one node, after `try_join!` with one. -/
def Supervisor.Selecting (node : Node) (s : Supervisor) : Prop :=
  s.boot = .started ∧ (1 < node.numNodes ∨ s.joined = true)

/-- The node thread can panic at `site` in state `s`. -/
def Supervisor.CanPanic (node : Node) (graph : ScheduledGraph) (s : Supervisor) : PanicSite → Prop
  | .runtime => s.boot = .runtime
  | .zenohOpen => s.boot = .zenohOpen
  | .zenohDiscovery => s.boot = .zenohDiscovery ∧ (node.numNodes = 0 ∨
      ∃ outcomes e, (waitZenohNodesDiscovered node.numNodes node.id outcomes).result =
        some (.error e))
  | .communicationLayer => s.Selecting node ∧ s.ops = .communicationLayer ∧
      ∃ reads, waitForCommunicationLayerInitialized node reads = .panicked
  | .setupHook => s.Selecting node ∧ s.ops = .setupHooks ∧
      ∃ hooks, graph.driverSetupHooks node.id = some hooks ∧ hooks ≠ []
  | .library => True

/-- One step of the node thread, of the query handler task, of the caller or of the shutdown
sender, in a build with transport `build`. -/
inductive SupervisorStep (build : Transport) (node : Node) (graph : ScheduledGraph) :
    Supervisor → Supervisor → Prop
  | runtimeBuilt {s} (hexit : s.exit = none) (h : s.boot = .runtime) :
      SupervisorStep build node graph s { s with boot := build.afterRuntime }
  | zenohOpened {s} (hexit : s.exit = none) (h : s.boot = .zenohOpen) :
      SupervisorStep build node graph s
        { s with
          boot := .zenohHandler
          queryHandler := .declaring }
  | queryableDeclared {s} (hexit : s.exit = none) (h : s.queryHandler = .declaring) :
      SupervisorStep build node graph s { s with queryHandler := .serving }
  | queryHandlerEnds {s} (hexit : s.exit = none)
      (h : s.queryHandler = .declaring ∨ s.queryHandler = .serving) :
      SupervisorStep build node graph s { s with queryHandler := .ended }
  | queryHandlerSignalled {s} (hexit : s.exit = none) (h : s.boot = .zenohHandler)
      (hsent : s.queryHandler ≠ .declaring) :
      SupervisorStep build node graph s { s with boot := .zenohDiscovery }
  | discovered {s outcomes ids} (hexit : s.exit = none) (h : s.boot = .zenohDiscovery)
      (hnodes : 0 < node.numNodes)
      (hfound : (waitZenohNodesDiscovered node.numNodes node.id outcomes).result = some (.ok ids)) :
      SupervisorStep build node graph s { s with boot := .streams }
  | streamsBuilt {s} (hexit : s.exit = none) (h : s.boot = .streams) :
      SupervisorStep build node graph s { s with boot := .started }
  | transport {s w r} (hexit : s.exit = none) (hboot : s.boot = .started)
      (hjoin : s.joined = false) (hw : s.transports w = none) :
      SupervisorStep build node graph s
        { s with transports := Function.update s.transports w (some r) }
  | tryJoin {s} (hexit : s.exit = none) (hboot : s.boot = .started) (hone : node.numNodes ≤ 1)
      (hjoin : s.joined = false)
      (hdone : (∀ w, s.transports w = some (.ok ())) ∨ ∃ w e, s.transports w = some (.error e)) :
      SupervisorStep build node graph s { s with joined := true }
  | ops {s pc} (hexit : s.exit = none) (hsel : s.Selecting node) (h : OpsStep node graph s.ops pc) :
      SupervisorStep build node graph s { s with ops := pc }
  | latch {s} (hexit : s.exit = none) (hsel : s.Selecting node) (h : s.ops = .latch) :
      SupervisorStep build node graph s
        { s with
          ops := .runOperators
          initialized := true }
  | release {s} (h : s.initialized = true) (hr : s.released = false) :
      SupervisorStep build node graph s { s with released := true }
  | sendShutdown {s} (hr : s.released = true) (hsent : s.shutdownSent = false) :
      SupervisorStep build node graph s { s with shutdownSent := true }
  | selectOps {s stage e} (hexit : s.exit = none) (hsel : s.Selecting node)
      (h : s.ops = .finished (.error (stage, e))) :
      SupervisorStep build node graph s { s with exit := some (.opsFailed stage e) }
  | selectTransport {s w e} (hexit : s.exit = none) (hboot : s.boot = .started)
      (hmany : 1 < node.numNodes) (h : s.transports w = some (.error e)) :
      SupervisorStep build node graph s { s with exit := some (.transportFailed w e) }
  | selectShutdown {s} (hexit : s.exit = none) (hsel : s.Selecting node)
      (h : s.shutdownSent = true) :
      SupervisorStep build node graph s { s with exit := some .shutdown }
  | selectQueryHandler {s} (hexit : s.exit = none) (hzenoh : build = .zenoh)
      (hsel : s.Selecting node) (h : s.queryHandler = .ended) :
      SupervisorStep build node graph s { s with exit := some .queryHandlerEnded }
  | panic {s site} (hexit : s.exit = none) (h : s.CanPanic node graph site) :
      SupervisorStep build node graph s { s with exit := some (.panicked site) }

/-- The states a run started by `run_async` can reach. -/
def Supervisor.Reachable (build : Transport) (node : Node) (graph : ScheduledGraph)
    (s : Supervisor) : Prop :=
  Relation.ReflTransGen (SupervisorStep build node graph) Supervisor.init s

/-- What holds of every reachable state: the flag is exactly the latch of `run_operators`, which
does not move before the futures race; the caller leaves only once the flag is set and shutdown
needs the caller's handle; and each exit records what won. -/
structure SupervisorInv (build : Transport) (node : Node) (s : Supervisor) : Prop where
  initialized_eq : s.initialized = s.ops.latched
  ops_started : s.boot ≠ .started → s.ops = .communicationLayer
  released_initialized : s.released = true → s.initialized = true
  shutdown_released : s.shutdownSent = true → s.released = true
  exit_ops : ∀ stage e, s.exit = some (.opsFailed stage e) →
    s.ops = .finished (.error (stage, e))
  exit_transport : ∀ w e, s.exit = some (.transportFailed w e) → 1 < node.numNodes
  exit_shutdown : s.exit = some .shutdown → s.shutdownSent = true
  exit_queryHandler : s.exit = some .queryHandlerEnded → build = .zenoh
  exit_panicked : ∀ site, s.exit = some (.panicked site) → site ≠ .library →
    s.ops.latched = false

section Invariant

variable {build : Transport} {node : Node} {graph : ScheduledGraph} {s s' : Supervisor}

theorem SupervisorInv.init : SupervisorInv build node Supervisor.init :=
  ⟨rfl, fun _ => rfl, nofun, nofun, nofun, nofun, nofun, nofun, nofun⟩

/-- A step before the exit that leaves the flag, the caller and the shutdown sender alone, keeps
the latch of `run_operators` and moves it only once the futures race keeps the invariant. -/
theorem SupervisorInv.of_frame (h : SupervisorInv build node s)
    (hops : s'.ops.latched = s.ops.latched) (hinit : s'.initialized = s.initialized)
    (hstarted : s'.boot ≠ .started → s'.ops = .communicationLayer)
    (hrel : s'.released = s.released) (hsent : s'.shutdownSent = s.shutdownSent)
    (hexit' : s'.exit = none) : SupervisorInv build node s' where
  initialized_eq := by rw [hinit, hops, h.initialized_eq]
  ops_started := hstarted
  released_initialized := by rw [hrel, hinit]; exact h.released_initialized
  shutdown_released := by rw [hsent, hrel]; exact h.shutdown_released
  exit_ops := by simp [hexit']
  exit_transport := by simp [hexit']
  exit_shutdown := by simp [hexit']
  exit_queryHandler := by simp [hexit']
  exit_panicked := by simp [hexit']

/-- The panics at the sites of node.rs come before `set_node_initialized`. -/
theorem SupervisorInv.latched_of_canPanic (h : SupervisorInv build node s) {site : PanicSite}
    (hsite : s.CanPanic node graph site) (hlib : site ≠ .library) : s.ops.latched = false := by
  cases site with
  | runtime | zenohOpen => rw [h.ops_started (by rw [hsite]; decide)]; rfl
  | zenohDiscovery => rw [h.ops_started (by rw [hsite.1]; decide)]; rfl
  | communicationLayer | setupHook => rw [hsite.2.1]; rfl
  | library => exact absurd rfl hlib

/-- An exit step records the arm or the site that ended the thread. -/
theorem SupervisorInv.of_exit (h : SupervisorInv build node s) {x : Exit}
    (hx : ∀ stage e, x = .opsFailed stage e → s.ops = .finished (.error (stage, e)))
    (htr : ∀ w e, x = .transportFailed w e → 1 < node.numNodes)
    (hsd : x = .shutdown → s.shutdownSent = true)
    (hqh : x = .queryHandlerEnded → build = .zenoh)
    (hp : ∀ site, x = .panicked site → site ≠ .library → s.ops.latched = false) :
    SupervisorInv build node { s with exit := some x } where
  initialized_eq := h.initialized_eq
  ops_started := h.ops_started
  released_initialized := h.released_initialized
  shutdown_released := h.shutdown_released
  exit_ops stage e he := hx stage e (Option.some.inj he)
  exit_transport w e he := htr w e (Option.some.inj he)
  exit_shutdown he := hsd (Option.some.inj he)
  exit_queryHandler he := hqh (Option.some.inj he)
  exit_panicked site he := hp site (Option.some.inj he)

theorem SupervisorInv.step (h : SupervisorInv build node s)
    (hstep : SupervisorStep build node graph s s') : SupervisorInv build node s' := by
  cases hstep with
  | runtimeBuilt hexit hboot | zenohOpened hexit hboot | queryHandlerSignalled hexit hboot
    | discovered hexit hboot | streamsBuilt hexit hboot =>
      exact h.of_frame rfl rfl (fun _ => h.ops_started (by rw [hboot]; decide)) rfl rfl hexit
  | queryableDeclared hexit | queryHandlerEnds hexit | transport hexit | tryJoin hexit =>
      exact h.of_frame rfl rfl h.ops_started rfl rfl hexit
  | ops hexit hsel hops =>
      exact h.of_frame hops.latched_eq rfl (absurd hsel.1) rfl rfl hexit
  | latch hexit hsel =>
      exact { h with
              initialized_eq := rfl
              ops_started := absurd hsel.1
              released_initialized := fun _ => rfl
              exit_ops := by simp [hexit]
              exit_panicked := by simp [hexit] }
  | release hinit =>
      exact { h with
              released_initialized := fun _ => hinit
              shutdown_released := fun _ => rfl }
  | sendShutdown hrel =>
      exact { h with
              shutdown_released := fun _ => hrel
              exit_shutdown := fun _ => rfl }
  | selectOps _ _ hops => exact h.of_exit (by rintro _ _ ⟨⟩; exact hops) nofun nofun nofun nofun
  | selectTransport _ _ hmany => exact h.of_exit nofun (fun _ _ _ => hmany) nofun nofun nofun
  | selectShutdown _ _ hsent => exact h.of_exit nofun nofun (fun _ => hsent) nofun nofun
  | selectQueryHandler _ hzenoh => exact h.of_exit nofun nofun nofun (fun _ => hzenoh) nofun
  | panic _ hsite =>
      exact h.of_exit nofun nofun nofun nofun fun _ he => by
        cases he
        exact h.latched_of_canPanic hsite

theorem SupervisorInv.reachable (hs : Supervisor.Reachable build node graph s) :
    SupervisorInv build node s := by
  induction hs with
  | refl => exact .init
  | tail _ hstep ih => exact ih.step hstep

/-- Once the thread has ended with the flag unset, nothing can happen any more: the caller of
`run_async` waits forever. -/
theorem SupervisorStep.not_of_exit_unlatched (hexit : s.exit ≠ none)
    (hinit : s.initialized = false) (hrel : s.released = false) :
    ¬ SupervisorStep build node graph s s' := by
  intro hstep
  cases hstep <;> simp_all

end Invariant

/-- Under `run_async`, in TCP and in Zenoh builds, the flag is set exactly when `run_operators`
has passed `set_node_initialized`, and this is how each ending of the thread finds it: a shutdown
only with the flag set; an `Err` of `run_operators` with the flag set exactly when it came from a
`RunOperator` send; a transport's `Err` only with more than one node; the query handler's arm
only in Zenoh builds; and a panic at a site of node.rs always with the flag unset. -/
theorem async_run_exit_flag_set_unless_setup_failed {build : Transport} {node : Node}
    {graph : ScheduledGraph} {s : Supervisor} (hs : Supervisor.Reachable build node graph s) :
    s.initialized = s.ops.latched ∧
    (s.exit = some .shutdown → s.initialized = true) ∧
    (∀ stage e, s.exit = some (.opsFailed stage e) →
      (s.initialized = true ↔ stage = .runOperator)) ∧
    (∀ w e, s.exit = some (.transportFailed w e) → 1 < node.numNodes) ∧
    (s.exit = some .queryHandlerEnded → build = .zenoh) ∧
    (∀ site, s.exit = some (.panicked site) → site ≠ .library → s.initialized = false) := by
  have h := SupervisorInv.reachable hs
  refine ⟨h.initialized_eq, fun hx => h.released_initialized (h.shutdown_released
    (h.exit_shutdown hx)), fun stage e hx => ?_, h.exit_transport, h.exit_queryHandler,
    fun site hx hlib => h.initialized_eq.trans (h.exit_panicked site hx hlib)⟩
  rw [h.initialized_eq, h.exit_ops stage e hx]
  simp [OpsPc.latched]

/-- The text of `Err(CommunicationError::Disconnected)` from the control handler in Phase B. -/
def disconnectedText : String := "Error receiving control message: Disconnected"

/-- Node 0 of the pair in a TCP build, its streams built and the futures racing. -/
def pairStarted : Supervisor := { Supervisor.init with boot := .started }

/-- ... after its control handler reported `Disconnected` in Phase B: `run_operators` has returned
its `Err`. -/
def pairDisconnectedOps : Supervisor :=
  { pairStarted with ops := .finished (.error (.communicationLayer, disconnectedText)) }

/-- ... and its arm has won the `select!`, so `async_run` has returned. -/
def pairDisconnected : Supervisor :=
  { pairDisconnectedOps with exit := some (.opsFailed .communicationLayer disconnectedText) }

theorem pairDisconnected_reachable :
    Supervisor.Reachable .tcp pairNode threeOperatorGraph pairDisconnected := by
  have hwait : waitForCommunicationLayerInitialized pairNode [.error .disconnected] =
      .returned (.error disconnectedText) 1 := rfl
  have hsel : pairStarted.Selecting pairNode := ⟨rfl, Or.inl (by decide)⟩
  have h₁ : SupervisorStep .tcp pairNode threeOperatorGraph Supervisor.init
      { Supervisor.init with boot := .streams } := .runtimeBuilt rfl rfl
  have h₂ : SupervisorStep .tcp pairNode threeOperatorGraph
      { Supervisor.init with boot := .streams } pairStarted := .streamsBuilt rfl rfl
  have h₃ : SupervisorStep .tcp pairNode threeOperatorGraph pairStarted pairDisconnectedOps :=
    .ops rfl hsel (.communicationLayerFailed hwait)
  have h₄ : SupervisorStep .tcp pairNode threeOperatorGraph pairDisconnectedOps pairDisconnected :=
    .selectOps rfl hsel rfl
  exact .tail (.tail (.tail (.single h₁) h₂) h₃) h₄

/-- `async_run` returns with the flag unset, and the caller of `run_async` is never released. -/
theorem pairNode_async_run_returns_with_flag_unset :
    Supervisor.Reachable .tcp pairNode threeOperatorGraph pairDisconnected ∧
      pairDisconnected.exit = some (.opsFailed .communicationLayer disconnectedText) ∧
      pairDisconnected.initialized = false ∧ pairDisconnected.released = false ∧
      ∀ s', ¬ SupervisorStep .tcp pairNode threeOperatorGraph pairDisconnected s' :=
  ⟨pairDisconnected_reachable, rfl, rfl, rfl,
    fun _ => SupervisorStep.not_of_exit_unlatched (by simp [pairDisconnected]) rfl rfl⟩

theorem pairDisconnected_exit_flag :
    pairDisconnected.initialized = pairDisconnected.ops.latched ∧
    (pairDisconnected.exit = some .shutdown → pairDisconnected.initialized = true) ∧
    (∀ stage e, pairDisconnected.exit = some (.opsFailed stage e) →
      (pairDisconnected.initialized = true ↔ stage = .runOperator)) ∧
    (∀ w e, pairDisconnected.exit = some (.transportFailed w e) → 1 < pairNode.numNodes) ∧
    (pairDisconnected.exit = some .queryHandlerEnded → Transport.tcp = .zenoh) ∧
    (∀ site, pairDisconnected.exit = some (.panicked site) → site ≠ .library →
      pairDisconnected.initialized = false) :=
  async_run_exit_flag_set_unless_setup_failed pairDisconnected_reachable

end ErdosNode
