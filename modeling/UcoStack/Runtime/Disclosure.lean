import UcoStack.Runtime.Effects

/-!
# What a handler reveals of its state

Two executions of one handler on different state maps.  Without `state_read` the
handler has no conditionals, so both take the same actions, and only the texts it
renders can differ: a template may name a state variable without the effect.
-/

namespace UcoStack.Runtime

open UcoStack.Lang

/-! ## Templates -/

section Templates

/-- The templates of an action, also of the ones behind conditionals. -/
def templates : ActionDecl → List String
  | .log template => [template]
  | .timerLocal _ _ _ template => [template]
  | .timerRemote _ _ _ _ template => [template]
  | .sendLocal _ _ template => [template]
  | .sendRemote _ _ _ template => [template]
  | .ifStateEq _ _ thenAction => templates thenAction
  | .setState _ _ => []
  | .incState _ _ => []

variable {V : Type} (host : Host V) (selfNode : NodeId) (service : String)
  (incoming : RuntimeMessage)

/-- The template with its message variables replaced. -/
def messageText (template : String) : String :=
  (messageTokens host selfNode service incoming).foldl
    (fun out token => replace out token.1 token.2) template

/-- Once the message variables are replaced, no variable of the state is left. -/
def StateFree (declared : StateMap) (template : String) : Prop :=
  ∀ key, (declared.lookup key).isSome →
    ¬("$state." ++ key).toList <:+: (messageText host selfNode service incoming template).toList

theorem replaceLoop_of_not_infix {pattern : List Char} (replacement : List Char) {text : List Char}
    (absent : ¬pattern <:+: text) : replaceLoop pattern replacement 0 text = text := by
  induction text with
  | nil => rfl
  | cons c cs ih =>
      have here : ¬pattern.isPrefixOf (c :: cs) = true := by
        intro starts
        exact absent (List.isPrefixOf_iff_prefix.mp starts).isInfix
      have later : ¬pattern <:+: cs := fun inside => absent (inside.trans (List.infix_cons_iff.mpr
        (.inr (List.infix_refl cs))))
      rw [replaceLoop, if_neg here, ih later]

theorem replace_of_not_infix {text pattern : String} (replacement : String)
    (absent : ¬pattern.toList <:+: text.toList) : replace text pattern replacement = text := by
  unfold replace
  rw [ replaceLoop_of_not_infix _ absent, String.ofList_toList]

theorem replaceStates_of_not_infix {state : StateMap} {text : String}
    (absent : ∀ key, (state.lookup key).isSome → ¬("$state." ++ key).toList <:+: text.toList)
    (names : List String) : names.foldl (replaceState state) text = text := by
  induction names with
  | nil => rfl
  | cons key rest ih =>
      have here : replaceState state text key = text := by
        unfold replaceState
        cases found : state.lookup key with
        | none => rfl
        | some value => exact replace_of_not_infix _ (absent key (by rw [found]; rfl))
      rw [List.foldl_cons, here, ih]

variable {host selfNode service incoming}

/-- A template without state variables is rendered the same in every state. -/
theorem StateFree.render {declared state : StateMap} {template : String}
    (free : StateFree host selfNode service incoming declared template)
    (keys : SameKeys state declared) :
    renderTemplate host template selfNode service incoming state =
      messageText host selfNode service incoming template :=
  replaceStates_of_not_infix (fun key stored => free key ((keys key).mp stored)) (sortedKeys state)

end Templates

/-! ## Two executions side by side -/

section Alike

variable {V : Type} (host : Host V) (service : String) (incomingMsgId : Uuid)
  (incoming : RuntimeMessage) (selfNode : NodeId) (R : String → String → Prop)

/-- Two queued items that differ at most in the text of the message. -/
structure AlikeOutgoing (left right : Outgoing V) : Prop where
  target : left.target = right.target
  delaySteps : left.delaySteps = right.delaySteps
  payload : ∃ msgType text text', R text text' ∧
    left.payload = encodeMsg host
      (buildOutboundMessage host msgType text selfNode service incoming incomingMsgId) ∧
    right.payload = encodeMsg host
      (buildOutboundMessage host msgType text' selfNode service incoming incomingMsgId)

structure AlikeLog (left right : LogEmission) : Prop where
  service : left.service = right.service
  text : R left.text right.text

/-- The two handlers queued and logged the same up to texts, and those are related. -/
structure Alike (left right : ActorContext V) : Prop where
  nodes : left.selfNode = selfNode ∧ right.selfNode = selfNode
  outbox : List.Forall₂ (AlikeOutgoing host service incomingMsgId incoming selfNode R)
    left.outbox right.outbox
  logs : List.Forall₂ (AlikeLog R) left.logs right.logs

variable {host service incomingMsgId incoming selfNode R} {left right : ActorContext V}

/-- Executions whose texts agree have the same effect on the outside. -/
theorem Alike.eq (alike : Alike host service incomingMsgId incoming selfNode Eq left right) :
    left.outbox = right.outbox ∧ left.logs = right.logs := by
  constructor
  · refine List.forall₂_eq_eq_eq ▸ alike.outbox.imp fun out out' same => ?_
    obtain ⟨target, delaySteps, msgType, text, _, rfl, payload, payload'⟩ := same
    obtain ⟨_, _, _⟩ := out
    obtain ⟨_, _, _⟩ := out'
    cases target
    cases delaySteps
    cases payload
    cases payload'
    rfl
  · refine List.forall₂_eq_eq_eq ▸ alike.logs.imp fun log log' same => ?_
    obtain ⟨_, _⟩ := log
    obtain ⟨_, _⟩ := log'
    cases same.service
    cases same.text
    rfl

theorem Alike.log (alike : Alike host service incomingMsgId incoming selfNode R left right)
    (name : String) {text text' : String} (related : R text text') :
    Alike host service incomingMsgId incoming selfNode R (left.log name text)
      (right.log name text') where
  nodes := alike.nodes
  outbox := alike.outbox
  logs := List.rel_append alike.logs (.cons ⟨rfl, related⟩ .nil)

section Sending

variable {payload payload' : V} (related : ∃ msgType text text', R text text' ∧
    payload = encodeMsg host
      (buildOutboundMessage host msgType text selfNode service incoming incomingMsgId) ∧
    payload' = encodeMsg host
      (buildOutboundMessage host msgType text' selfNode service incoming incomingMsgId))

include related

theorem Alike.queue (alike : Alike host service incomingMsgId incoming selfNode R left right)
    (target : Target) (delaySteps : Nat) :
    Alike host service incomingMsgId incoming selfNode R
      { left with outbox := left.outbox ++ [⟨target, payload, delaySteps⟩] }
      { right with outbox := right.outbox ++ [⟨target, payload', delaySteps⟩] } where
  nodes := alike.nodes
  outbox := List.rel_append alike.outbox (.cons ⟨rfl, rfl, related⟩ .nil)
  logs := alike.logs

theorem Alike.sendNode (alike : Alike host service incomingMsgId incoming selfNode R left right)
    (delaySteps : Nat) (targetService : String) (node : Uuid) :
    Alike host service incomingMsgId incoming selfNode R
      (sendNode delaySteps targetService payload left node)
      (sendNode delaySteps targetService payload' right node) := by
  obtain ⟨here, here'⟩ := alike.nodes
  unfold Runtime.sendNode
  rw [here, here']
  split
  · exact alike.queue related (.localService targetService) delaySteps
  · exact alike.queue related (.remoteService node targetService) delaySteps

theorem Alike.sendTarget (alike : Alike host service incomingMsgId incoming selfNode R left right)
    (peers : PeerMap) (delaySteps : Nat) (target : RemoteTarget) (targetService : String) :
    Alike host service incomingMsgId incoming selfNode R
      (sendTarget host incoming peers delaySteps target targetService payload left)
      (sendTarget host incoming peers delaySteps target targetService payload' right) := by
  cases target with
  | peers =>
      simp only [Runtime.sendTarget]
      split
      · exact alike.queue related (.localService targetService) delaySteps
      · generalize sortedPeerIds peers = nodes
        induction nodes generalizing left right with
        | nil => exact alike
        | cons node rest ih => exact ih (alike.sendNode related delaySteps targetService node)
  | sender =>
      simp only [Runtime.sendTarget]
      cases host.uuidParse incoming.fromNode with
      | none => exact alike
      | some node => exact alike.sendNode related delaySteps targetService node
  | node raw =>
      simp only [Runtime.sendTarget]
      cases host.uuidParse raw with
      | none => exact alike
      | some node => exact alike.sendNode related delaySteps targetService node

end Sending

/-! ## The interpreter -/

/-- Both executions are on the variables of the service. -/
structure AlikeExecution (host : Host V) (service : String) (incomingMsgId : Uuid)
    (incoming : RuntimeMessage) (selfNode : NodeId) (R : String → String → Prop)
    (declared : StateMap) (left right : Execution V) : Prop where
  ctx : Alike host service incomingMsgId incoming selfNode R left.ctx right.ctx
  keys : SameKeys left.state declared
  keys' : SameKeys right.state declared

/-- Renderings of one template in any two states are related. -/
def Relates (host : Host V) (service : String) (incoming : RuntimeMessage) (selfNode : NodeId)
    (R : String → String → Prop) (declared : StateMap) (template : String) : Prop :=
  ∀ state state', SameKeys state declared → SameKeys state' declared →
    R (renderTemplate host template selfNode service incoming state)
      (renderTemplate host template selfNode service incoming state')

variable {declared : StateMap} {peers : PeerMap}

theorem AlikeExecution.observe {first second : Execution V}
    (alike : AlikeExecution host service incomingMsgId incoming selfNode R declared first second)
    (effect : HandlerEffect) :
    AlikeExecution host service incomingMsgId incoming selfNode R declared
      (observe effect first) (observe effect second) :=
  ⟨alike.ctx, alike.keys, alike.keys'⟩

theorem AlikeExecution.payload {first second : Execution V}
    (alike : AlikeExecution host service incomingMsgId incoming selfNode R declared first second)
    (msgType : String) {template : String}
    (relates : Relates host service incoming selfNode R declared template) :
    ∃ msgType' text text', R text text' ∧
      outboundPayload host service incomingMsgId incoming msgType template first =
        encodeMsg host
          (buildOutboundMessage host msgType' text selfNode service incoming incomingMsgId) ∧
      outboundPayload host service incomingMsgId incoming msgType template second =
        encodeMsg host
          (buildOutboundMessage host msgType' text' selfNode service incoming incomingMsgId) := by
  obtain ⟨here, here'⟩ := alike.ctx.nodes
  refine ⟨msgType, _, _, relates first.state second.state alike.keys alike.keys', ?_, ?_⟩
  · unfold outboundPayload
    rw [here]
  · unfold outboundPayload
    rw [here']

/-- The step lemma: an action without a conditional does the same in both states. -/
theorem executeAction_alike {action : ActionDecl} {first second first' second' : Execution V}
    (silent : .stateRead ∉ actionEffects action)
    (relates : ∀ template ∈ templates action,
      Relates host service incoming selfNode R declared template)
    (alike : AlikeExecution host service incomingMsgId incoming selfNode R declared first second)
    (ran : executeAction host service incomingMsgId incoming peers action first = .ok first')
    (ran' : executeAction host service incomingMsgId incoming peers action second = .ok second') :
    AlikeExecution host service incomingMsgId incoming selfNode R declared first' second' := by
  obtain ⟨here, here'⟩ := alike.ctx.nodes
  cases action with
  | log template =>
      cases ran
      cases ran'
      have related := relates template List.mem_cons_self _ _ alike.keys alike.keys'
      refine ⟨?_, alike.keys, alike.keys'⟩
      change Alike host service incomingMsgId incoming selfNode R
        (first.ctx.log service (renderTemplate host template first.ctx.selfNode service incoming
          first.state))
        (second.ctx.log service (renderTemplate host template second.ctx.selfNode service incoming
          second.state))
      rw [here, here']
      exact alike.ctx.log service related
  | setState key value =>
      simp only [executeAction] at ran ran'
      split at ran
      · cases ran
      · rename_i old found
        split at ran'
        · cases ran'
        · rename_i old' found'
          cases ran
          cases ran'
          exact ⟨alike.ctx, (SameKeys.insert found value).trans alike.keys,
            (SameKeys.insert found' value).trans alike.keys'⟩
  | incState key amount =>
      simp only [executeAction] at ran ran'
      split at ran
      · cases ran
      · rename_i old found
        split at ran
        · cases ran
        · split at ran'
          · cases ran'
          · rename_i old' found'
            split at ran'
            · cases ran'
            · cases ran
              cases ran'
              exact ⟨alike.ctx, (SameKeys.insert found _).trans alike.keys,
                (SameKeys.insert found' _).trans alike.keys'⟩
  | timerLocal steps targetService message template =>
      cases ran
      cases ran'
      have related := (alike.observe .timerLocal).payload message
        (relates template List.mem_cons_self)
      exact ⟨alike.ctx.queue related (.localService targetService) steps, alike.keys, alike.keys'⟩
  | timerRemote steps target targetService message template =>
      cases ran
      cases ran'
      have related := (alike.observe .timerRemote).payload message
        (relates template List.mem_cons_self)
      exact ⟨alike.ctx.sendTarget related peers steps target targetService, alike.keys,
        alike.keys'⟩
  | sendLocal targetService message template =>
      cases ran
      cases ran'
      have related := (alike.observe .sendLocal).payload message
        (relates template List.mem_cons_self)
      exact ⟨alike.ctx.queue related (.localService targetService) 0, alike.keys, alike.keys'⟩
  | sendRemote target targetService message template =>
      cases ran
      cases ran'
      have related := (alike.observe .sendRemote).payload message
        (relates template List.mem_cons_self)
      exact ⟨alike.ctx.sendTarget related peers 0 target targetService, alike.keys, alike.keys'⟩
  | ifStateEq key value thenAction =>
      refine absurd ?_ silent
      unfold actionEffects
      rw [inferActionEffects, inferActionEffects_eq]
      exact Finset.mem_union_left _ (Finset.mem_insert_self _ _)

theorem executeAll_alike {actions : List ActionDecl} {first second first' second' : Execution V}
    (silent : ∀ action ∈ actions, .stateRead ∉ actionEffects action)
    (relates : ∀ action ∈ actions, ∀ template ∈ templates action,
      Relates host service incoming selfNode R declared template)
    (alike : AlikeExecution host service incomingMsgId incoming selfNode R declared first second)
    (ran : executeAll host service incomingMsgId incoming peers actions first = .ok first')
    (ran' : executeAll host service incomingMsgId incoming peers actions second = .ok second') :
    AlikeExecution host service incomingMsgId incoming selfNode R declared first' second' := by
  induction actions generalizing first second with
  | nil =>
      cases ran
      cases ran'
      exact alike
  | cons action rest ih =>
      rw [executeAll] at ran ran'
      split at ran
      · cases ran
      · rename_i middle here
        split at ran'
        · cases ran'
        · rename_i middle' here'
          have after := executeAction_alike (silent action List.mem_cons_self)
            (relates action List.mem_cons_self) alike here here'
          exact ih (fun other member => silent other (List.mem_cons_of_mem action member))
            (fun other member => relates other (List.mem_cons_of_mem action member)) after ran ran'

end Alike

/-! ## Handlers -/

section Handlers

variable {V : Type} {host : Host V} {program : Program}

/-- The texts are renderings of one template of the handler. -/
def RenderedAlike (host : Host V) (service : String) (incoming : RuntimeMessage)
    (selfNode : NodeId) (declared : StateMap) (plan : HandlerPlan) (text text' : String) : Prop :=
  ∃ template ∈ plan.actions.flatMap templates,
    ∃ state state', SameKeys state declared ∧ SameKeys state' declared ∧
      text = renderTemplate host template selfNode service incoming state ∧
      text' = renderTemplate host template selfNode service incoming state'

/-- Without `state_read`, what a handler queues and logs depends on its state only through
state variables in the templates it renders. -/
theorem silent_handler_reveals_templates {src : String}
    (loaded : loadProgram host src = .ok program) {service : String} {incoming : RuntimeMessage}
    {plan : HandlerPlan} (handler : program.handlers.lookup (service, incoming.msgType) = some plan)
    (silent : .stateRead ∉ plan.declaredEffects) {declared state state' : StateMap}
    (keys : SameKeys state declared) (keys' : SameKeys state' declared) (peers : PeerMap)
    (incomingMsgId : Uuid) (selfNode : NodeId) {executed executed' : Executed V}
    (ran : executeActions host service incomingMsgId incoming peers program state
      (.new selfNode) = .ok executed)
    (ran' : executeActions host service incomingMsgId incoming peers program state'
      (.new selfNode) = .ok executed') :
    Alike host service incomingMsgId incoming selfNode
        (RenderedAlike host service incoming selfNode declared plan) executed.ctx executed'.ctx ∧
      ((∀ template ∈ plan.actions.flatMap templates,
          StateFree host selfNode service incoming declared template) →
        executed.ctx.outbox = executed'.ctx.outbox ∧ executed.ctx.logs = executed'.ctx.logs) := by
  have checked :=
    (loadProgram_accepted loaded).handler_checked service incoming.msgType plan handler
  have quiet : ∀ action ∈ plan.actions, .stateRead ∉ actionEffects action := by
    intro action member reads
    have inferred := mem_inferEffects.mpr ⟨action, member, reads⟩
    rw [checked.inferred_eq] at inferred
    exact silent (List.mem_toFinset.mp inferred)
  have alike (R : String → String → Prop)
      (relates : ∀ action ∈ plan.actions, ∀ template ∈ templates action,
        Relates host service incoming selfNode R declared template) :
      Alike host service incomingMsgId incoming selfNode R executed.ctx executed'.ctx := by
    have start : AlikeExecution host service incomingMsgId incoming selfNode R declared
        ⟨state, .new selfNode, ∅⟩ ⟨state', .new selfNode, ∅⟩ :=
      ⟨⟨⟨rfl, rfl⟩, .nil, .nil⟩, keys, keys'⟩
    unfold executeActions at ran ran'
    rw [handler] at ran ran'
    dsimp only at ran ran'
    split at ran
    · cases ran
    · rename_i final finished
      split at ran'
      · cases ran'
      · rename_i final' finished'
        cases ran
        cases ran'
        exact (executeAll_alike quiet relates start finished finished').ctx
  constructor
  · refine alike _ fun action member template used => ?_
    intro state state' keys keys'
    exact ⟨template, List.mem_flatMap.mpr ⟨action, member, used⟩, state, state', keys, keys', rfl,
      rfl⟩
  · intro free
    refine (alike Eq fun action member template used => ?_).eq
    intro state state' keys keys'
    have stateless := free template (List.mem_flatMap.mpr ⟨action, member, used⟩)
    rw [stateless.render keys, stateless.render keys']

def samplePing : RuntimeMessage := { sampleStart with msgType := "ping" }

def tellingSource : String :=
  "service Gateway\nstate n = 0\non start\neffects send_local log\n" ++
    "send local Gateway pong \"n is $state.n\"\nlog \"n=$state.n\"\n"

def tellingPlan : HandlerPlan :=
  { actions := [.sendLocal "Gateway" "pong" "n is $state.n", .log "n=$state.n"]
    declaredEffects := [.sendLocal, .log] }

def tellingProgram : Program :=
  { services := ["Gateway"]
    serviceInitialState := AList.insert "Gateway" (AList.insert "n" 0 ∅) ∅
    handlers := AList.insert ("Gateway", "start") tellingPlan ∅ }

theorem tellingProgram_loaded : loadProgram jsonHost tellingSource = .ok tellingProgram := by
  decide +kernel

/-- A handler that sends and logs its state, in two states: what it emits is alike, and
differs where the templates show the state. -/
theorem silent_handler_reveals_templates_sample :
    ∃ executed executed' : Executed JsonDoc,
      executeActions jsonHost "Gateway" 1 sampleStart ∅ tellingProgram (AList.insert "n" 0 ∅)
        (.new 7) = .ok executed ∧
      executeActions jsonHost "Gateway" 1 sampleStart ∅ tellingProgram
        ((AList.insert "n" 0 ∅).insert "n" 1) (.new 7) = .ok executed' ∧
      Alike jsonHost "Gateway" 1 sampleStart 7
        (RenderedAlike jsonHost "Gateway" sampleStart 7 (AList.insert "n" 0 ∅) tellingPlan)
        executed.ctx executed'.ctx ∧
      ((∀ template ∈ tellingPlan.actions.flatMap templates,
          StateFree jsonHost 7 "Gateway" sampleStart (AList.insert "n" 0 ∅) template) →
        executed.ctx.outbox = executed'.ctx.outbox ∧ executed.ctx.logs = executed'.ctx.logs) ∧
      executed.ctx.outbox ≠ executed'.ctx.outbox ∧ executed.ctx.logs ≠ executed'.ctx.logs := by
  let ran (state : StateMap) : Except ActionError (Executed JsonDoc) :=
    executeActions jsonHost "Gateway" 1 sampleStart ∅ tellingProgram state (.new 7)
  let zero : StateMap := AList.insert "n" 0 ∅
  have first : (ran zero).isOk = true := by decide +kernel
  have second : (ran (zero.insert "n" 1)).isOk = true := by decide +kernel
  obtain ⟨executed, runs⟩ := ExceptRun.exists_ok first
  obtain ⟨executed', runs'⟩ := ExceptRun.exists_ok second
  obtain ⟨alike, free⟩ := silent_handler_reveals_templates tellingProgram_loaded rfl (by decide)
    (.refl zero) (.insert (AList.lookup_insert _) 1) ∅ 1 7 runs runs'
  have outboxes : (ran zero).map (·.ctx.outbox) ≠ (ran (zero.insert "n" 1)).map (·.ctx.outbox) := by
    decide +kernel
  have logs : (ran zero).map (·.ctx.logs) ≠ (ran (zero.insert "n" 1)).map (·.ctx.logs) := by
    decide +kernel
  rw [runs, runs'] at outboxes logs
  exact ⟨executed, executed', runs, runs', alike, free,
    fun same => outboxes (congrArg Except.ok same), fun same => logs (congrArg Except.ok same)⟩

def revealingSource : String :=
  "service Gateway\nstate n = 0\non start\neffects log\nlog \"n=$state.n\"\n"

def revealingPlan : HandlerPlan := { actions := [.log "n=$state.n"], declaredEffects := [.log] }

def revealingProgram : Program :=
  { services := ["Gateway"]
    serviceInitialState := AList.insert "Gateway" (AList.insert "n" 0 ∅) ∅
    handlers := AList.insert ("Gateway", "start") revealingPlan ∅ }

/-- A log template shows a state variable without the effect `state_read`. -/
theorem silent_handler_reveals_state :
    loadProgram jsonHost revealingSource = .ok revealingProgram ∧
      revealingProgram.handlers.lookup ("Gateway", "start") = some revealingPlan ∧
      .stateRead ∉ revealingPlan.declaredEffects ∧
      (executeActions jsonHost "Gateway" 1 sampleStart ∅ revealingProgram (AList.insert "n" 0 ∅)
        (.new 7)).map (fun executed => executed.ctx.logs) = .ok [⟨"Gateway", "n=0"⟩] ∧
      (executeActions jsonHost "Gateway" 1 sampleStart ∅ revealingProgram (AList.insert "n" 1 ∅)
        (.new 7)).map (fun executed => executed.ctx.logs) = .ok [⟨"Gateway", "n=1"⟩] := by
  refine ⟨?_, ?_, ?_, ?_, ?_⟩
  · decide +kernel
  · decide +kernel
  · decide
  · decide +kernel
  · decide +kernel

end Handlers

end UcoStack.Runtime
