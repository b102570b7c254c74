import Mathlib.Data.BitVec

/-!
# Trace events

The identifiers, event kinds and trace records shared by the runtime and the
verifier.  Payloads are values of the JSON library and stay abstract.
-/

namespace UcoStack

/-- A UUID is a 128-bit number; `as_u128` and the byte order of `Ord` agree. -/
abbrev Uuid := BitVec 128

abbrev NodeId := Uuid
abbrev ActorId := Uuid
abbrev MsgId := Uuid

/-- The largest value of a `u64`. -/
def u64Max : Nat := 2 ^ 64 - 1

/-- Rust's `u64::saturating_add`. -/
def saturatingAdd (a b : Nat) : Nat := min (a + b) u64Max

theorem saturatingAdd_le (a b : Nat) : saturatingAdd a b ≤ u64Max :=
  Nat.min_le_right _ _

theorem saturatingAdd_of_le {a b : Nat} (bound : a + b ≤ u64Max) :
    saturatingAdd a b = a + b :=
  Nat.min_eq_left bound

namespace Runtime

inductive FaultAction where
  | drop
  | delay (steps : Nat)
  | reorder (window : Nat)
  deriving DecidableEq, Repr

/-- Recorded effects, listed in the order of the derived `Ord` instance. -/
inductive EffectKind where
  | log
  | stateRead
  | stateWrite
  | sendLocal
  | sendRemote
  | timerLocal
  | timerRemote
  deriving DecidableEq, Repr

/-- Every effect, in the enumeration order of a `BTreeSet<EffectKind>`. -/
def EffectKind.all : List EffectKind :=
  [.log, .stateRead, .stateWrite, .sendLocal, .sendRemote, .timerLocal, .timerRemote]

inductive EventKind (V : Type) where
  | spawn (node : NodeId) (actor : ActorId) (service : String)
  | send (sender receiver : ActorId) (msgId : MsgId) (payload : V)
  | deliver (node : NodeId) (receiver : ActorId) (msgId : MsgId)
  | timerFired (node : NodeId) (sender : ActorId) (timerId : Uuid)
  | netRecv (node fromNode : NodeId) (receiver : ActorId) (msgId : MsgId) (payload : V)
  | netSend (node toNode : NodeId) (sender : ActorId) (msgId : MsgId) (payload : V)
  | log (node : NodeId) (sender : ActorId) (service text : String)
  | effectObserved (node : NodeId) (actor : ActorId) (service msgType : String)
      (msgId : MsgId) (declared observed : List EffectKind)
  | faultInjected (node fromNode : NodeId) (receiver : ActorId) (msgId : MsgId)
      (action : FaultAction)
  | faultPolicy (node : NodeId) (step : Nat) (dropEvery : Option Nat)
      (delaySteps reorderWindow : Nat)
  deriving DecidableEq, Repr

structure TraceEvent (V : Type) where
  seq : Nat
  seed : Nat
  kind : EventKind V
  deriving DecidableEq, Repr

structure WireEnvelope (V : Type) where
  fromNode : NodeId
  toNode : NodeId
  toActor : ActorId
  msgId : MsgId
  payload : V
  deriving DecidableEq, Repr

end Runtime

end UcoStack
