import UcoStack.Runtime.Effects
import UcoStack.Runtime.Launch
import UcoStack.Runtime.RecordRun

/-!
# Accepted programs do not go wrong

Progress and preservation for handlers.  On a state map with the declared
variables every action of a validated handler runs, except that an increment may
overflow; the variables stay the same, and what is queued can be dispatched in
any state that still holds the actors of the program.
-/

namespace UcoStack.Runtime

open UcoStack.Lang

section Progress

variable {V : Type} (host : Host V) (service : String) (incomingMsgId : Uuid)
  (incoming : RuntimeMessage) (peers : PeerMap)

/-- Running the actions reaches an increment that overflows `i64`. -/
inductive IncOverflows : List ActionDecl → Execution V → Prop where
  | here {key : String} {amount current : Int} {rest : List ActionDecl} {exec : Execution V}
      (found : exec.state.lookup key = some current)
      (overflows : checkedAdd current amount = none) :
      IncOverflows (.incState key amount :: rest) exec
  | nested {key : String} {value : Int} {thenAction : ActionDecl} {rest : List ActionDecl}
      {exec : Execution V} (found : exec.state.lookup key = some value)
      (inside : IncOverflows [thenAction] (observe .stateRead exec)) :
      IncOverflows (.ifStateEq key value thenAction :: rest) exec
  | later {action : ActionDecl} {rest : List ActionDecl} {exec next : Execution V}
      (ran : executeAction host service incomingMsgId incoming peers action exec = .ok next)
      (after : IncOverflows rest next) : IncOverflows (action :: rest) exec

/-- The overflow of one action is that of any list it starts. -/
theorem IncOverflows.cons {action : ActionDecl} {rest : List ActionDecl} {exec : Execution V}
    (overflows : IncOverflows host service incomingMsgId incoming peers [action] exec) :
    IncOverflows host service incomingMsgId incoming peers (action :: rest) exec := by
  cases overflows with
  | here found overflows => exact .here found overflows
  | nested found inside => exact .nested found inside
  | later ran after => cases after

variable {host service incomingMsgId incoming peers}

theorem requireState_found {name msgType key : String} {declared : StateMap}
    (required : requireState name msgType declared key = .ok ()) :
    (declared.lookup key).isSome := by
  unfold requireState at required
  split at required
  · assumption
  · cases required

/-- A validated action runs or overflows. -/
theorem executeAction_progress (incomingMsgId : Uuid) (incoming : RuntimeMessage)
    (peers : PeerMap) {msgType : String} {declared : StateMap} {services : List String}
    {action : ActionDecl} {exec : Execution V}
    (valid : validateAction host service msgType declared services action = .ok ())
    (keys : SameKeys exec.state declared) :
    (∃ after, executeAction host service incomingMsgId incoming peers action exec = .ok after) ∨
      ∃ key, executeAction host service incomingMsgId incoming peers action exec =
          .error (.stateOverflow service key) ∧
        IncOverflows host service incomingMsgId incoming peers [action] exec := by
  induction action generalizing exec with
  | log template => exact .inl ⟨_, rfl⟩
  | timerLocal steps target message template => exact .inl ⟨_, rfl⟩
  | timerRemote steps remote target message template => exact .inl ⟨_, rfl⟩
  | sendLocal target message template => exact .inl ⟨_, rfl⟩
  | sendRemote remote target message template => exact .inl ⟨_, rfl⟩
  | setState key value =>
      obtain ⟨old, found⟩ := Option.isSome_iff_exists.mp
        ((keys key).mpr (requireState_found valid))
      have same : (observe .stateWrite exec).state.lookup key = some old := found
      refine .inl
        ⟨{ observe .stateWrite exec with state := exec.state.insert key value }, ?_⟩
      rw [executeAction, same]
      rfl
  | incState key amount =>
      obtain ⟨old, found⟩ := Option.isSome_iff_exists.mp
        ((keys key).mpr (requireState_found valid))
      have same : (observe .stateWrite exec).state.lookup key = some old := found
      cases sum : checkedAdd old amount with
      | some value =>
          refine .inl
            ⟨{ observe .stateWrite exec with state := exec.state.insert key value }, ?_⟩
          rw [executeAction, same]
          dsimp only
          rw [sum]
          rfl
      | none =>
          refine .inr ⟨key, ?_, .here found sum⟩
          rw [executeAction, same]
          dsimp only
          rw [sum]
  | ifStateEq key value thenAction ih =>
      obtain ⟨declaredKey, nested⟩ := ExceptRun.check_ok.mp valid
      obtain ⟨old, found⟩ := Option.isSome_iff_exists.mp
        ((keys key).mpr (requireState_found declaredKey))
      have same : (observe .stateRead exec).state.lookup key = some old := found
      have unfolded : executeAction host service incomingMsgId incoming peers
          (.ifStateEq key value thenAction) exec =
          if old = value then executeAction host service incomingMsgId incoming peers thenAction
            (observe .stateRead exec)
          else .ok (observe .stateRead exec) := by
        rw [executeAction, same]
      rw [unfolded]
      by_cases equal : old = value
      · subst equal
        rw [if_pos rfl]
        have sameKeys : SameKeys (observe .stateRead exec).state declared := keys
        rcases ih nested sameKeys with ran | ⟨key, failed, inside⟩
        · exact .inl ran
        · exact .inr ⟨key, failed, .nested found inside⟩
      · rw [if_neg equal]
        exact .inl ⟨_, rfl⟩

theorem executeAll_progress {msgType : String} {declared : StateMap} {services : List String}
    {actions : List ActionDecl} {exec : Execution V}
    (valid : ∀ action ∈ actions,
      validateAction host service msgType declared services action = .ok ())
    (keys : SameKeys exec.state declared) :
    (∃ after, executeAll host service incomingMsgId incoming peers actions exec = .ok after) ∨
      ∃ key, executeAll host service incomingMsgId incoming peers actions exec =
          .error (.stateOverflow service key) ∧
        IncOverflows host service incomingMsgId incoming peers actions exec := by
  induction actions generalizing exec with
  | nil => exact .inl ⟨exec, rfl⟩
  | cons action rest ih =>
      rw [executeAll]
      rcases executeAction_progress incomingMsgId incoming peers
        (valid action List.mem_cons_self) keys with
        ⟨middle, ran⟩ | ⟨key, failed, overflows⟩
      · rw [ran]
        have kept := (executeAction_executes host service incomingMsgId incoming peers ran).keys
        rcases ih (fun other member => valid other (List.mem_cons_of_mem action member))
          (kept.trans keys) with done | ⟨key, failed, overflows⟩
        · exact .inl done
        · exact .inr ⟨key, failed, .later ran overflows⟩
      · rw [failed]
        exact .inr ⟨key, rfl, overflows.cons⟩

end Progress

/-! ## States of a service -/

/-- The state maps a service can have: the initial one, and what a delivery leaves. -/
inductive ReachableState {V : Type} (host : Host V) (program : Program) (peers : PeerMap)
    (selfNode : NodeId) (service : String) : StateMap → Prop where
  | initial {state : StateMap}
      (declared : program.serviceInitialState.lookup service = some state) :
      ReachableState host program peers selfNode service state
  | deliver {state : StateMap} (incomingMsgId : Uuid) (incoming : RuntimeMessage)
      {executed : Executed V}
      (reached : ReachableState host program peers selfNode service state)
      (ran : executeActions host service incomingMsgId incoming peers program state
        (.new selfNode) = .ok executed) :
      ReachableState host program peers selfNode service executed.state

section Accepted

variable {V : Type} {host : Host V} {program : Program} {service : String}

theorem executeActions_keys {incomingMsgId : Uuid} {incoming : RuntimeMessage} {peers : PeerMap}
    {state : StateMap} {ctx : ActorContext V} {executed : Executed V}
    (ran : executeActions host service incomingMsgId incoming peers program state ctx =
      .ok executed) : SameKeys executed.state state := by
  unfold executeActions at ran
  split at ran
  · cases ran
    exact .refl _
  · split at ran
    · cases ran
    · rename_i exec execution
      cases ran
      exact (executeAll_executes host service incomingMsgId incoming peers execution).keys

theorem ReachableState.keys {peers : PeerMap} {selfNode : NodeId} {declared state : StateMap}
    (stored : program.serviceInitialState.lookup service = some declared)
    (reached : ReachableState host program peers selfNode service state) :
    SameKeys state declared := by
  induction reached with
  | initial found =>
      rw [stored] at found
      cases found
      exact .refl declared
  | deliver incomingMsgId incoming _ ran ih => exact (executeActions_keys ran).trans ih

theorem requireService_mem {name msgType target : String} {services : List String}
    (required : requireService name msgType services target = .ok ()) : target ∈ services := by
  unfold requireService at required
  split at required
  · assumption
  · cases required

theorem validateAction_queues_service {msgType : String} {declared : StateMap}
    {services : List String} {action : ActionDecl} {out : Outgoing V}
    (valid : validateAction host service msgType declared services action = .ok ())
    (queues : Queues action out) : out.target.service ∈ services := by
  induction action with
  | log template => exact queues.elim
  | setState key value => exact queues.elim
  | incState key amount => exact queues.elim
  | timerLocal steps target message template =>
      obtain ⟨required, _⟩ := ExceptRun.check_ok.mp valid
      rw [queues.2]
      exact requireService_mem required
  | timerRemote steps remote target message template =>
      obtain ⟨required, _⟩ := ExceptRun.check_ok.mp valid
      rw [queues.2]
      exact requireService_mem required
  | sendLocal target message template =>
      rw [queues.2]
      exact requireService_mem valid
  | sendRemote remote target message template =>
      obtain ⟨required, _⟩ := ExceptRun.check_ok.mp valid
      rw [queues.2]
      exact requireService_mem required
  | ifStateEq key value thenAction ih =>
      obtain ⟨_, nested⟩ := ExceptRun.check_ok.mp valid
      exact ih nested queues

/-- Everything a handler queues goes to a declared service. -/
theorem executeActions_targets (accepted : Accepted host program) {incomingMsgId : Uuid}
    {incoming : RuntimeMessage} {peers : PeerMap} {state : StateMap} {selfNode : NodeId}
    {executed : Executed V}
    (ran : executeActions host service incomingMsgId incoming peers program state
      (.new selfNode) = .ok executed) :
    ∀ out ∈ executed.ctx.outbox, out.target.service ∈ program.services := by
  unfold executeActions at ran
  split at ran
  · cases ran
    exact fun _ member => absurd member List.not_mem_nil
  · rename_i plan found
    split at ran
    · cases ran
    · rename_i exec execution
      cases ran
      intro out member
      have executes := executeAll_executes host service incomingMsgId incoming peers execution
      obtain ⟨action, inPlan, queues, _⟩ :=
        (executes.outbox out member).resolve_left List.not_mem_nil
      have checked := accepted.handler_checked service incoming.msgType plan found
      obtain ⟨declared, stored⟩ := accepted.state_of_service service checked.service_mem
      exact validateAction_queues_service
        (checked.actions_valid declared stored action inPlan) queues

end Accepted

end UcoStack.Runtime
