import Mathlib.Data.Finset.Card

/-!
# Service-language syntax trees

The module grammar of the `lang` crate.  `i64` literals are integers; the
parser only builds values inside the machine range.
-/

namespace UcoStack.Lang

structure StateDecl where
  name : String
  initial : Int
  deriving DecidableEq, Repr

/-- Handler effects, listed in the order of the derived `Ord` instance. -/
inductive HandlerEffect where
  | log
  | stateRead
  | stateWrite
  | sendLocal
  | sendRemote
  | timerLocal
  | timerRemote
  deriving DecidableEq, Repr

namespace HandlerEffect

/-- Every effect, in the enumeration order of a `BTreeSet<HandlerEffect>`. -/
def all : List HandlerEffect :=
  [.log, .stateRead, .stateWrite, .sendLocal, .sendRemote, .timerLocal, .timerRemote]

/-- The spelling of an effect in source programs and in diagnostics. -/
def spelling : HandlerEffect → String
  | .log => "log"
  | .stateRead => "state_read"
  | .stateWrite => "state_write"
  | .sendLocal => "send_local"
  | .sendRemote => "send_remote"
  | .timerLocal => "timer_local"
  | .timerRemote => "timer_remote"

theorem all_nodup : all.Nodup := by decide

end HandlerEffect

inductive RemoteTarget where
  | peers
  | sender
  | node (raw : String)
  deriving DecidableEq, Repr

inductive ActionDecl where
  | log (template : String)
  | setState (key : String) (value : Int)
  | incState (key : String) (amount : Int)
  | timerLocal (steps : Nat) (service message template : String)
  | timerRemote (steps : Nat) (target : RemoteTarget) (service message template : String)
  | sendLocal (service message template : String)
  | sendRemote (target : RemoteTarget) (service message template : String)
  | ifStateEq (key : String) (value : Int) (thenAction : ActionDecl)
  deriving DecidableEq, Repr

structure HandlerDecl where
  on : String
  effects : List HandlerEffect
  actions : List ActionDecl
  deriving DecidableEq, Repr

structure ServiceDecl where
  name : String
  states : List StateDecl
  handlers : List HandlerDecl
  deriving DecidableEq, Repr

structure Module where
  services : List ServiceDecl
  deriving DecidableEq, Repr

end UcoStack.Lang
