import UcoStack.Runtime.Accepted

/-!
# Declared effects bound a handler

`Executes` says what a handler may have done between two points of its
execution: which effects it observed, when it may have changed the state map or
the logs, and what it queued.  The interpreter meets it action by action; the
effect check of the loader turns it into the statement about declared effects.
-/

namespace UcoStack.Runtime

open UcoStack.Lang

def Target.service : Target → String
  | .localService service => service
  | .remoteService _ service => service

/-- Two state maps with the same variables. -/
def SameKeys (left right : StateMap) : Prop :=
  ∀ key, (left.lookup key).isSome ↔ (right.lookup key).isSome

namespace SameKeys

theorem refl (state : StateMap) : SameKeys state state := fun _ => Iff.rfl

theorem trans {first second third : StateMap} (left : SameKeys first second)
    (right : SameKeys second third) : SameKeys first third :=
  fun key => (left key).trans (right key)

theorem insert {state : StateMap} {key : String} {old : Int}
    (found : state.lookup key = some old) (new : Int) : SameKeys (state.insert key new) state := by
  intro other
  by_cases same : other = key
  · subst same
    simp [found]
  · rw [AList.lookup_insert_ne same]

end SameKeys

/-! ## The static view of an action -/

/-- The effects inferred for one action. -/
def actionEffects (action : ActionDecl) : Finset HandlerEffect := inferActionEffects action ∅

theorem inferActionEffects_eq (action : ActionDecl) (out : Finset HandlerEffect) :
    inferActionEffects action out = out ∪ actionEffects action := by
  induction action generalizing out with
  | ifStateEq key value thenAction ih =>
      simp only [actionEffects, inferActionEffects]
      rw [ih, ih (insert .stateRead ∅)]
      ext effect
      simp only [Finset.mem_union, Finset.mem_insert, Finset.notMem_empty, or_false]
      tauto
  | _ =>
      ext effect
      simp [actionEffects, inferActionEffects]

theorem mem_inferEffects {actions : List ActionDecl} {effect : HandlerEffect} :
    effect ∈ inferEffects actions ↔ ∃ action ∈ actions, effect ∈ actionEffects action := by
  have general (out : Finset HandlerEffect) :
      effect ∈ actions.foldl (fun out action => inferActionEffects action out) out ↔
        effect ∈ out ∨ ∃ action ∈ actions, effect ∈ actionEffects action := by
    induction actions generalizing out with
    | nil => simp
    | cons action rest ih =>
        rw [List.foldl_cons, ih, inferActionEffects_eq]
        simp only [Finset.mem_union, List.mem_cons, exists_eq_or_imp, or_assoc]
  simpa [inferEffects] using general ∅

/-- The outgoing items an action may queue, payload aside. -/
def Queues {V : Type} : ActionDecl → Outgoing V → Prop
  | .timerLocal steps service _ _, out =>
      out.delaySteps = steps ∧ out.target = .localService service
  | .timerRemote steps _ service _ _, out =>
      out.delaySteps = steps ∧ out.target.service = service
  | .sendLocal service _ _, out => out.delaySteps = 0 ∧ out.target = .localService service
  | .sendRemote _ service _ _, out => out.delaySteps = 0 ∧ out.target.service = service
  | .ifStateEq _ _ thenAction, out => Queues thenAction out
  | _, _ => False

/-- The payload is a message the handler built in answer to `incoming`. -/
def BuiltFrom {V : Type} (host : Host V) (selfNode : NodeId) (service : String)
    (incoming : RuntimeMessage) (incomingMsgId : MsgId) (payload : V) : Prop :=
  ∃ msgType text, payload = encodeMsg host
    (buildOutboundMessage host msgType text selfNode service incoming incomingMsgId)

/-! ## What an execution does -/

structure Executes {V : Type} (effects : Finset HandlerEffect) (queued : Outgoing V → Prop)
    (before after : Execution V) : Prop where
  selfNode : after.ctx.selfNode = before.ctx.selfNode
  keys : SameKeys after.state before.state
  state : .stateWrite ∉ effects → after.state = before.state
  logs : .log ∉ effects → after.ctx.logs = before.ctx.logs
  observed : ∀ effect ∈ after.observed, effect ∈ before.observed ∨ effect ∈ effects
  outbox : ∀ out ∈ after.ctx.outbox, out ∈ before.ctx.outbox ∨ queued out

namespace Executes

variable {V : Type} {effects more : Finset HandlerEffect} {queued queuedMore : Outgoing V → Prop}
  {first second third : Execution V}

theorem refl (effects : Finset HandlerEffect) (queued : Outgoing V → Prop)
    (exec : Execution V) : Executes effects queued exec exec where
  selfNode := rfl
  keys := .refl exec.state
  state := fun _ => rfl
  logs := fun _ => rfl
  observed := fun _ member => .inl member
  outbox := fun _ member => .inl member

theorem trans (left : Executes effects queued first second)
    (right : Executes effects queued second third) : Executes effects queued first third where
  selfNode := right.selfNode.trans left.selfNode
  keys := right.keys.trans left.keys
  state := fun absent => (right.state absent).trans (left.state absent)
  logs := fun absent => (right.logs absent).trans (left.logs absent)
  observed := fun effect member => by
    rcases right.observed effect member with old | new
    · exact left.observed effect old
    · exact .inr new
  outbox := fun out member => by
    rcases right.outbox out member with old | new
    · exact left.outbox out old
    · exact .inr new

theorem mono (ran : Executes effects queued first second) (subset : effects ⊆ more)
    (weaker : ∀ out, queued out → queuedMore out) : Executes more queuedMore first second where
  selfNode := ran.selfNode
  keys := ran.keys
  state := fun absent => ran.state fun member => absent (subset member)
  logs := fun absent => ran.logs fun member => absent (subset member)
  observed := fun effect member => (ran.observed effect member).imp_right fun new => subset new
  outbox := fun out member => (ran.outbox out member).imp_right (weaker out)

/-- Observing an effect of the set. -/
theorem observe {effect : HandlerEffect} (member : effect ∈ effects)
    (queued : Outgoing V → Prop) (exec : Execution V) :
    Executes effects queued exec (Runtime.observe effect exec) where
  selfNode := rfl
  keys := .refl exec.state
  state := fun _ => rfl
  logs := fun _ => rfl
  observed := fun other found => by
    rcases Finset.mem_insert.mp found with rfl | old
    · exact .inr member
    · exact .inl old
  outbox := fun _ found => .inl found

theorem write (member : .stateWrite ∈ effects) (queued : Outgoing V → Prop)
    {exec : Execution V} {key : String} {old : Int} (found : exec.state.lookup key = some old)
    (new : Int) :
    Executes effects queued exec { exec with state := exec.state.insert key new } where
  selfNode := rfl
  keys := .insert found new
  state := fun absent => absurd member absent
  logs := fun _ => rfl
  observed := fun _ found => .inl found
  outbox := fun _ found => .inl found

/-- Queueing items changes neither the logs nor the node of the context. -/
theorem queue {exec : Execution V} {ctx : ActorContext V}
    (selfNode : ctx.selfNode = exec.ctx.selfNode) (logs : ctx.logs = exec.ctx.logs)
    (outbox : ∀ out ∈ ctx.outbox, out ∈ exec.ctx.outbox ∨ queued out) :
    Executes effects queued exec { exec with ctx := ctx } where
  selfNode := selfNode
  keys := .refl exec.state
  state := fun _ => rfl
  logs := fun _ => logs
  observed := fun _ found => .inl found
  outbox := outbox

end Executes

/-! ## The interpreter -/

section Interpreter

variable {V : Type}

/-- The context after items of one delay, service and payload were queued. -/
structure Queued (delaySteps : Nat) (service : String) (payload : V)
    (before after : ActorContext V) : Prop where
  selfNode : after.selfNode = before.selfNode
  logs : after.logs = before.logs
  outbox : ∀ out ∈ after.outbox, out ∈ before.outbox ∨
    out.delaySteps = delaySteps ∧ out.target.service = service ∧ out.payload = payload

variable {delaySteps : Nat} {service : String} {payload : V}

theorem Queued.refl (ctx : ActorContext V) : Queued delaySteps service payload ctx ctx :=
  ⟨rfl, rfl, fun _ member => .inl member⟩

theorem Queued.trans {first second third : ActorContext V}
    (left : Queued delaySteps service payload first second)
    (right : Queued delaySteps service payload second third) :
    Queued delaySteps service payload first third := by
  refine ⟨right.selfNode.trans left.selfNode, right.logs.trans left.logs, ?_⟩
  intro out member
  rcases right.outbox out member with old | new
  · exact left.outbox out old
  · exact .inr new

theorem sendLocalServiceAfter_queued (ctx : ActorContext V) :
    Queued delaySteps service payload ctx
      (ctx.sendLocalServiceAfter delaySteps service payload) := by
  refine ⟨rfl, rfl, ?_⟩
  intro out member
  rcases List.mem_append.mp member with old | new
  · exact .inl old
  · cases List.mem_singleton.mp new
    exact .inr ⟨rfl, rfl, rfl⟩

theorem sendNode_queued (ctx : ActorContext V) (node : Uuid) :
    Queued delaySteps service payload ctx (sendNode delaySteps service payload ctx node) := by
  unfold sendNode
  split
  · exact sendLocalServiceAfter_queued ctx
  · refine ⟨rfl, rfl, ?_⟩
    intro out member
    rcases List.mem_append.mp member with old | new
    · exact .inl old
    · cases List.mem_singleton.mp new
      exact .inr ⟨rfl, rfl, rfl⟩

theorem sendNode_foldl_queued (nodes : List Uuid) (ctx : ActorContext V) :
    Queued delaySteps service payload ctx
      (nodes.foldl (sendNode delaySteps service payload) ctx) := by
  induction nodes generalizing ctx with
  | nil => exact .refl ctx
  | cons node rest ih => exact (sendNode_queued ctx node).trans (ih _)

theorem sendTarget_queued (delaySteps : Nat) (service : String) (payload : V) (host : Host V)
    (incoming : RuntimeMessage) (peers : PeerMap) (target : RemoteTarget) (ctx : ActorContext V) :
    Queued delaySteps service payload ctx
      (sendTarget host incoming peers delaySteps target service payload ctx) := by
  cases target with
  | peers =>
      simp only [sendTarget]
      split
      · exact sendLocalServiceAfter_queued ctx
      · exact sendNode_foldl_queued _ ctx
  | sender =>
      simp only [sendTarget]
      split
      · exact .refl ctx
      · exact sendNode_queued ctx _
  | node raw =>
      simp only [sendTarget]
      split
      · exact .refl ctx
      · exact sendNode_queued ctx _

variable (host : Host V) (service : String) (incomingMsgId : Uuid) (incoming : RuntimeMessage)
  (peers : PeerMap)

/-- What one action may queue for this incoming message. -/
def QueuedBy (selfNode : NodeId) (action : ActionDecl) (out : Outgoing V) : Prop :=
  Queues action out ∧ BuiltFrom host selfNode service incoming incomingMsgId out.payload

theorem executeAction_executes {action : ActionDecl} {before after : Execution V}
    (ran : executeAction host service incomingMsgId incoming peers action before = .ok after) :
    Executes (actionEffects action)
      (QueuedBy host service incomingMsgId incoming before.ctx.selfNode action) before after := by
  induction action generalizing before after with
  | log template =>
      cases ran
      have declared : HandlerEffect.log ∈ actionEffects (.log template) := by
        simp [actionEffects, inferActionEffects]
      refine (Executes.observe declared _ before).trans ?_
      exact
        { selfNode := rfl
          keys := .refl _
          state := fun _ => rfl
          logs := fun absent => absurd declared absent
          observed := fun _ found => .inl found
          outbox := fun _ found => .inl found }
  | setState key value =>
      have declared : HandlerEffect.stateWrite ∈ actionEffects (.setState key value) := by
        simp [actionEffects, inferActionEffects]
      simp only [executeAction] at ran
      split at ran
      · cases ran
      · rename_i old found
        cases ran
        exact (Executes.observe declared _ before).trans (Executes.write declared _ found value)
  | incState key amount =>
      have declared : HandlerEffect.stateWrite ∈ actionEffects (.incState key amount) := by
        simp [actionEffects, inferActionEffects]
      simp only [executeAction] at ran
      split at ran
      · cases ran
      · rename_i old found
        split at ran
        · cases ran
        · cases ran
          exact (Executes.observe declared _ before).trans (Executes.write declared _ found _)
  | timerLocal steps targetService message template =>
      cases ran
      have declared : HandlerEffect.timerLocal ∈ actionEffects
          (.timerLocal steps targetService message template) := by
        simp [actionEffects, inferActionEffects]
      refine (Executes.observe declared _ before).trans ?_
      refine Executes.queue rfl rfl ?_
      intro out member
      rcases List.mem_append.mp member with old | new
      · exact .inl old
      · cases List.mem_singleton.mp new
        exact .inr ⟨⟨rfl, rfl⟩, _, _, rfl⟩
  | timerRemote steps target targetService message template =>
      cases ran
      have declared : HandlerEffect.timerRemote ∈ actionEffects
          (.timerRemote steps target targetService message template) := by
        simp [actionEffects, inferActionEffects]
      refine (Executes.observe declared _ before).trans ?_
      have queued := sendTarget_queued steps targetService
        (outboundPayload host service incomingMsgId incoming message template
          (observe .timerRemote before)) host incoming peers target before.ctx
      refine Executes.queue queued.selfNode queued.logs ?_
      intro out member
      refine (queued.outbox out member).imp_right ?_
      rintro ⟨delay, target, payload⟩
      exact ⟨⟨delay, target⟩, _, _, payload⟩
  | sendLocal targetService message template =>
      cases ran
      have declared : HandlerEffect.sendLocal ∈ actionEffects
          (.sendLocal targetService message template) := by
        simp [actionEffects, inferActionEffects]
      refine (Executes.observe declared _ before).trans ?_
      refine Executes.queue rfl rfl ?_
      intro out member
      rcases List.mem_append.mp member with old | new
      · exact .inl old
      · cases List.mem_singleton.mp new
        exact .inr ⟨⟨rfl, rfl⟩, _, _, rfl⟩
  | sendRemote target targetService message template =>
      cases ran
      have declared : HandlerEffect.sendRemote ∈ actionEffects
          (.sendRemote target targetService message template) := by
        simp [actionEffects, inferActionEffects]
      refine (Executes.observe declared _ before).trans ?_
      have queued := sendTarget_queued 0 targetService
        (outboundPayload host service incomingMsgId incoming message template
          (observe .sendRemote before)) host incoming peers target before.ctx
      refine Executes.queue queued.selfNode queued.logs ?_
      intro out member
      refine (queued.outbox out member).imp_right ?_
      rintro ⟨delay, target, payload⟩
      exact ⟨⟨delay, target⟩, _, _, payload⟩
  | ifStateEq key value thenAction ih =>
      have effects : actionEffects (.ifStateEq key value thenAction) =
          insert .stateRead ∅ ∪ actionEffects thenAction := by
        simp only [actionEffects, inferActionEffects]
        exact inferActionEffects_eq thenAction _
      have declared : HandlerEffect.stateRead ∈
          actionEffects (.ifStateEq key value thenAction) := by
        simp [effects]
      have observed := Executes.observe declared
        (QueuedBy host service incomingMsgId incoming before.ctx.selfNode
          (.ifStateEq key value thenAction)) before
      simp only [executeAction] at ran
      split at ran
      · cases ran
      · split at ran
        · refine observed.trans ((ih ran).mono ?_ fun _ queued => queued)
          rw [effects]
          exact Finset.subset_union_right
        · cases ran
          exact observed

theorem executeAll_executes {actions : List ActionDecl} {before after : Execution V}
    (ran : executeAll host service incomingMsgId incoming peers actions before = .ok after) :
    Executes (inferEffects actions)
      (fun out => ∃ action ∈ actions,
        QueuedBy host service incomingMsgId incoming before.ctx.selfNode action out)
      before after := by
  induction actions generalizing before with
  | nil =>
      cases ran
      exact .refl _ _ _
  | cons action rest ih =>
      simp only [executeAll] at ran
      split at ran
      · cases ran
      · rename_i middle first
        have here := executeAction_executes host service incomingMsgId incoming peers first
        have later := ih ran
        rw [here.selfNode] at later
        refine Executes.trans (here.mono ?_ ?_) (later.mono ?_ ?_)
        · intro effect member
          exact mem_inferEffects.mpr ⟨action, List.mem_cons_self, member⟩
        · intro out queued
          exact ⟨action, List.mem_cons_self, queued⟩
        · intro effect member
          obtain ⟨other, found, has⟩ := mem_inferEffects.mp member
          exact mem_inferEffects.mpr ⟨other, List.mem_cons_of_mem action found, has⟩
        · rintro out ⟨other, found, queued⟩
          exact ⟨other, List.mem_cons_of_mem action found, queued⟩

end Interpreter

/-! ## The declared effects of a handler -/

section Declared

variable {V : Type} {host : Host V}

/-- The effect an outgoing item needs.  A remote send may fall back to a local
one, so a local item is covered by either declaration. -/
def Outgoing.Permitted (declared : Finset HandlerEffect) (out : Outgoing V) : Prop :=
  match out.target with
  | .remoteService _ _ =>
      if out.delaySteps = 0 then .sendRemote ∈ declared else .timerRemote ∈ declared
  | .localService _ =>
      if out.delaySteps = 0 then .sendLocal ∈ declared ∨ .sendRemote ∈ declared
      else .timerLocal ∈ declared ∨ .timerRemote ∈ declared

theorem Outgoing.Permitted.mono {less more : Finset HandlerEffect} {out : Outgoing V}
    (permitted : out.Permitted less) (subset : less ⊆ more) : out.Permitted more := by
  unfold Outgoing.Permitted at permitted ⊢
  split at permitted
  · split at permitted
    · rename_i now
      rw [if_pos now]
      exact subset permitted
    · rename_i later
      rw [if_neg later]
      exact subset permitted
  · split at permitted
    · rename_i now
      rw [if_pos now]
      exact permitted.imp (fun found => subset found) fun found => subset found
    · rename_i later
      rw [if_neg later]
      exact permitted.imp (fun found => subset found) fun found => subset found

/-- A validated timer has a positive delay, so delay 0 marks the sends. -/
theorem validateAction_queues_permitted {service msgType : String} {state : StateMap}
    {services : List String} {action : ActionDecl} {out : Outgoing V}
    (valid : validateAction host service msgType state services action = .ok ())
    (queues : Queues action out) : out.Permitted (actionEffects action) := by
  induction action with
  | log template => exact queues.elim
  | setState key value => exact queues.elim
  | incState key amount => exact queues.elim
  | timerLocal steps target message template =>
      obtain ⟨_, positive⟩ := ExceptRun.check_ok.mp valid
      obtain ⟨delay, target⟩ := queues
      have later : out.delaySteps ≠ 0 := by
        intro zero
        rw [requireSteps, if_pos (delay ▸ zero)] at positive
        cases positive
      simp [Outgoing.Permitted, target, later, actionEffects, inferActionEffects]
  | timerRemote steps remote target message template =>
      obtain ⟨_, rest⟩ := ExceptRun.check_ok.mp valid
      obtain ⟨positive, _⟩ := ExceptRun.check_ok.mp rest
      obtain ⟨delay, _⟩ := queues
      have later : out.delaySteps ≠ 0 := by
        intro zero
        rw [requireSteps, if_pos (delay ▸ zero)] at positive
        cases positive
      unfold Outgoing.Permitted
      split <;> simp [later, actionEffects, inferActionEffects]
  | sendLocal target message template =>
      obtain ⟨delay, target⟩ := queues
      simp [Outgoing.Permitted, target, delay, actionEffects, inferActionEffects]
  | sendRemote remote target message template =>
      obtain ⟨delay, _⟩ := queues
      unfold Outgoing.Permitted
      split <;> simp [delay, actionEffects, inferActionEffects]
  | ifStateEq key value thenAction ih =>
      obtain ⟨_, nested⟩ := ExceptRun.check_ok.mp valid
      have permitted := ih nested queues
      have effects : actionEffects thenAction ⊆
          actionEffects (.ifStateEq key value thenAction) := by
        have same : actionEffects (.ifStateEq key value thenAction) =
            insert .stateRead ∅ ∪ actionEffects thenAction :=
          inferActionEffects_eq thenAction _
        rw [same]
        exact Finset.subset_union_right
      exact permitted.mono effects

theorem executeActions_observed {program : Program} (accepted : Accepted host program)
    {service : String} {incomingMsgId : Uuid} {incoming : RuntimeMessage} {peers : PeerMap}
    {state : StateMap} {ctx : ActorContext V} {executed : Executed V}
    (ran : executeActions host service incomingMsgId incoming peers program state ctx =
      .ok executed) : executed.effects.observed ⊆ executed.effects.declared := by
  unfold executeActions at ran
  split at ran
  · cases ran
    exact Finset.Subset.refl _
  · rename_i plan found
    split at ran
    · cases ran
    · rename_i exec execution
      cases ran
      have checked := accepted.handler_checked service incoming.msgType plan found
      have executes := executeAll_executes host service incomingMsgId incoming peers execution
      rw [checked.inferred_eq] at executes
      intro effect member
      exact (executes.observed effect member).resolve_left (Finset.notMem_empty effect)

/-- The declared effects of a handler bound everything its execution does: the
observed effects, writes to the state map, logs and queued messages. -/
theorem executeActions_within_declared {src : String} {program : Program}
    (loaded : loadProgram host src = .ok program) (service : String) (incomingMsgId : Uuid)
    (incoming : RuntimeMessage) (peers : PeerMap) (state : StateMap) (selfNode : NodeId)
    {executed : Executed V}
    (ran : executeActions host service incomingMsgId incoming peers program state
      (.new selfNode) = .ok executed) :
    executed.effects.observed ⊆ executed.effects.declared ∧
      (.stateWrite ∉ executed.effects.declared → executed.state = state) ∧
      (.log ∉ executed.effects.declared → executed.ctx.logs = []) ∧
      ∀ out ∈ executed.ctx.outbox, out.Permitted executed.effects.declared := by
  have accepted := loadProgram_accepted loaded
  refine ⟨executeActions_observed accepted ran, ?_⟩
  unfold executeActions at ran
  split at ran
  · cases ran
    exact ⟨fun _ => rfl, fun _ => rfl, fun out member => absurd member List.not_mem_nil⟩
  · rename_i plan found
    split at ran
    · cases ran
    · rename_i exec execution
      cases ran
      have checked := accepted.handler_checked service incoming.msgType plan found
      obtain ⟨declaredState, stored⟩ := accepted.state_of_service service checked.service_mem
      have executes := executeAll_executes host service incomingMsgId incoming peers execution
      rw [checked.inferred_eq] at executes
      refine ⟨executes.state, executes.logs, ?_⟩
      intro out member
      obtain ⟨action, inPlan, queues, _⟩ :=
        (executes.outbox out member).resolve_left List.not_mem_nil
      have valid := checked.actions_valid declaredState stored action inPlan
      refine (validateAction_queues_permitted valid queues).mono fun effect has => ?_
      rw [← checked.inferred_eq]
      exact mem_inferEffects.mpr ⟨action, inPlan, has⟩

theorem sampleExecution_succeeds :
    (executeActions jsonHost "Gateway" 1 sampleStart ∅ sampleProgram (AList.insert "n" 4 ∅)
      (.new 7)).isOk = true := by
  decide +kernel

theorem executeActions_within_declared_sample :
    ∃ executed : Executed JsonDoc,
      executeActions jsonHost "Gateway" 1 sampleStart ∅ sampleProgram (AList.insert "n" 4 ∅)
        (.new 7) = .ok executed ∧
      executed.effects.observed ⊆ executed.effects.declared ∧
      (.log ∉ executed.effects.declared → executed.ctx.logs = []) ∧
      ∀ out ∈ executed.ctx.outbox, out.Permitted executed.effects.declared := by
  obtain ⟨executed, ran⟩ := ExceptRun.exists_ok sampleExecution_succeeds
  obtain ⟨observed, _, logs, outbox⟩ :=
    executeActions_within_declared sampleProgram_loaded "Gateway" 1 sampleStart ∅ _ 7 ran
  exact ⟨executed, ran, observed, logs, outbox⟩

end Declared

end UcoStack.Runtime
