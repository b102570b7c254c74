import UcoStack.Lang.Ast

/-!
# The Lean kernel of the service language

The state machine of `semantics-lean`: stores are association lists in which an
absent key counts as zero, integers are unbounded and templates stay unrendered.
-/

namespace UcoStack.Semantics

abbrev StateKey := String
abbrev ServiceName := String
abbrev MsgType := String

structure Message where
  fromService : ServiceName
  msgType : MsgType
  text : String
  deriving Repr, DecidableEq

abbrev Store := List (StateKey × Int)

def lookupState : Store → StateKey → Int
  | [], _ => 0
  | (k, v) :: xs, key => if k = key then v else lookupState xs key

def setState : Store → StateKey → Int → Store
  | [], key, value => [(key, value)]
  | (k, v) :: xs, key, value =>
      if k = key then (key, value) :: xs else (k, v) :: setState xs key value

def incState (s : Store) (key : StateKey) (delta : Int) : Store :=
  let current := lookupState s key
  setState s key (current + delta)

theorem lookup_set_eq (s : Store) (key : StateKey) (value : Int) :
    lookupState (setState s key value) key = value := by
  induction s with
  | nil => simp [setState, lookupState]
  | cons head rest ih =>
      obtain ⟨k, v⟩ := head
      by_cases same : k = key
      · simp [setState, lookupState, same]
      · simp [setState, lookupState, same, ih]

theorem lookup_set_ne (s : Store) {key other : StateKey} (differ : other ≠ key) (value : Int) :
    lookupState (setState s key value) other = lookupState s other := by
  induction s with
  | nil => simp [setState, lookupState, differ.symm]
  | cons head rest ih =>
      obtain ⟨k, v⟩ := head
      by_cases same : k = key
      · subst same
        simp [setState, lookupState, differ.symm]
      · simp [setState, lookupState, same, ih]

inductive Action where
  | log (template : String)
  | set (key : StateKey) (value : Int)
  | inc (key : StateKey) (delta : Int)
  | sendLocal (service : ServiceName) (msgType : MsgType) (template : String)
  | ifStateEq (key : StateKey) (value : Int) (thenAction : Action)
  deriving Repr, DecidableEq

structure ServiceState where
  store : Store
  outbox : List (ServiceName × Message)
  deriving Repr, DecidableEq

def enqueueLocal (st : ServiceState) (target : ServiceName) (msg : Message) : ServiceState :=
  { st with outbox := st.outbox ++ [(target, msg)] }

def applyAction (selfService : ServiceName) (incoming : Message) :
    Action → ServiceState → ServiceState
  | .log _, st => st
  | .set key value, st => { st with store := setState st.store key value }
  | .inc key delta, st => { st with store := incState st.store key delta }
  | .sendLocal target msgType template, st =>
      let msg : Message :=
        { fromService := selfService
          msgType := msgType
          text := template }
      enqueueLocal st target msg
  | .ifStateEq key value thenAction, st =>
      if lookupState st.store key = value then applyAction selfService incoming thenAction st
      else st

def applyActions (selfService : ServiceName) (incoming : Message) (actions : List Action)
    (st : ServiceState) : ServiceState :=
  actions.foldl (fun acc act => applyAction selfService incoming act acc) st

end UcoStack.Semantics
