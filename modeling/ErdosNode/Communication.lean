import Mathlib.Data.Fintype.Basic
import Mathlib.Data.Finset.Card
import Mathlib.Tactic.DeriveFintype

/-
The vocabulary shared by the node runtime and its communication layer: ids, control messages,
and the errors of `communication/errors.rs` with their conversions.  Payloads the runtime only
prints are kept as their `Debug` text.
-/

namespace ErdosNode

/-- Unique index for a node (`NodeId = usize`). -/
abbrev NodeId := Nat

/-- Identifier of an operator of the dataflow graph; the runtime only compares and hashes it. -/
abbrev OperatorId := Nat

/-- The four per-peer workers whose readiness gates Phase B. -/
inductive Worker where
  | controlSender
  | controlReceiver
  | dataSender
  | dataReceiver
deriving DecidableEq, Repr, Fintype

/-- The control-lane alphabet. -/
inductive ControlMessage where
  | allOperatorsInitializedOnNode (nodeId : NodeId)
  | operatorInitialized (operatorId : OperatorId)
  | runOperator (operatorId : OperatorId)
  | dataSenderInitialized (nodeId : NodeId)
  | dataReceiverInitialized (nodeId : NodeId)
  | controlSenderInitialized (nodeId : NodeId)
  | controlReceiverInitialized (nodeId : NodeId)
deriving DecidableEq, Repr

/-- The readiness message a worker of kind `worker` emits for peer `nodeId`. -/
def ControlMessage.initialized : Worker → NodeId → ControlMessage
  | .controlSender, n => .controlSenderInitialized n
  | .controlReceiver, n => .controlReceiverInitialized n
  | .dataSender, n => .dataSenderInitialized n
  | .dataReceiver, n => .dataReceiverInitialized n

/-- The four arms of the match in `wait_for_communication_layer_initialized`; every other
variant falls into its `unreachable!()` arm. -/
def ControlMessage.initialized? : ControlMessage → Option (Worker × NodeId)
  | .controlSenderInitialized n => some (.controlSender, n)
  | .controlReceiverInitialized n => some (.controlReceiver, n)
  | .dataSenderInitialized n => some (.dataSender, n)
  | .dataReceiverInitialized n => some (.dataReceiver, n)
  | _ => none

@[simp] theorem ControlMessage.initialized?_initialized (worker : Worker) (n : NodeId) :
    (ControlMessage.initialized worker n).initialized? = some (worker, n) := by
  cases worker <;> rfl

theorem ControlMessage.initialized?_eq_some {msg : ControlMessage} {worker : Worker}
    {n : NodeId} : msg.initialized? = some (worker, n) ↔ msg = .initialized worker n := by
  constructor
  · intro h
    cases msg <;> simp only [ControlMessage.initialized?, Option.some.injEq, Prod.mk.injEq,
      reduceCtorEq] at h <;> obtain ⟨rfl, rfl⟩ := h <;> rfl
  · rintro rfl
    exact ControlMessage.initialized?_initialized worker n

@[simp] theorem ControlMessage.initialized_inj {w w' : Worker} {n n' : NodeId} :
    ControlMessage.initialized w n = .initialized w' n' ↔ w = w' ∧ n = n' := by
  constructor
  · intro h
    simpa using congrArg ControlMessage.initialized? h
  · rintro ⟨rfl, rfl⟩
    rfl

@[simp] theorem ControlMessage.initialized_ne_allOperatorsInitializedOnNode (w : Worker)
    (n m : NodeId) : ControlMessage.initialized w n ≠ .allOperatorsInitializedOnNode m := by
  cases w <;> simp [ControlMessage.initialized]

/-- Error raised by the communication layer. Payload-carrying variants keep the payload's
`Debug` text. -/
inductive CommunicationError where
  | noCapacity
  | disconnected
  | serializeNotImplemented
  | deserializeNotImplemented
  | abomonationError (error : String)
  | bincodeError (error : String)
  | ioError (error : String)
  | zenohError (error : String)
  | sharedMemoryError (error : String)
  | zenohSharedMemoryError (error : String)
deriving DecidableEq, Repr

/-- The derived `Debug` text of a `CommunicationError`. -/
def CommunicationError.debug : CommunicationError → String
  | .noCapacity => "NoCapacity"
  | .disconnected => "Disconnected"
  | .serializeNotImplemented => "SerializeNotImplemented"
  | .deserializeNotImplemented => "DeserializeNotImplemented"
  | .abomonationError e => "AbomonationError(" ++ e ++ ")"
  | .bincodeError e => "BincodeError(" ++ e ++ ")"
  | .ioError e => "IoError(" ++ e ++ ")"
  | .zenohError e => "ZenohError(" ++ e ++ ")"
  | .sharedMemoryError e => "SharedMemoryError(" ++ e ++ ")"
  | .zenohSharedMemoryError e => "ZenohSharedMemoryError(" ++ e ++ ")"

/-- Error raised by the `MessageCodec` when messages cannot be encoded or decoded. -/
inductive CodecError where
  | ioError (error : String)
  | bincodeError (error : String)
  | sharedMemoryError (error : String)
  | zenohSharedMemoryError (error : String)
deriving DecidableEq, Repr

/-- `From<CodecError> for CommunicationError`. -/
def CommunicationError.ofCodecError : CodecError → CommunicationError
  | .ioError e => .ioError e
  | .bincodeError e => .bincodeError e
  | .sharedMemoryError e => .sharedMemoryError e
  | .zenohSharedMemoryError e => .zenohSharedMemoryError e

/-- The two ways `tokio::sync::mpsc::Sender::try_send` can refuse a value. -/
inductive TrySendError where
  | full
  | closed
deriving DecidableEq, Repr

/-- `From<mpsc::error::TrySendError<T>> for CommunicationError`. -/
def CommunicationError.ofTrySendError : TrySendError → CommunicationError
  | .closed => .disconnected
  | .full => .noCapacity

/-- Error of a non-blocking read. -/
inductive TryRecvError where
  | empty
  | disconnected
  | bincodeError (error : String)
deriving DecidableEq, Repr

/-- The two ways `tokio::sync::mpsc::Receiver::try_recv` can fail. -/
inductive MpscTryRecvError where
  | empty
  | closed
deriving DecidableEq, Repr

/-- `From<mpsc::error::TryRecvError> for TryRecvError`. -/
def TryRecvError.ofMpsc : MpscTryRecvError → TryRecvError
  | .closed => .disconnected
  | .empty => .empty

end ErdosNode
