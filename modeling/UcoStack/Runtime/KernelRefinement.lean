import UcoStack.Lang.Kernel
import UcoStack.Runtime.Progress

/-!
# The interpreter refines the kernel

Actions that the kernel knows are run side by side in the interpreter and in the
kernel.  The state map and the store agree on the declared variables after every
action, and what is queued corresponds item by item; only texts are not compared.
-/

namespace UcoStack.Runtime

open UcoStack.Lang

/-! ## Actions of the kernel -/

/-- The action as the kernel has it; timers and remote sends are none of its actions. -/
def kernelAction : ActionDecl → Option Semantics.Action
  | .log template => some (.log template)
  | .setState key value => some (.set key value)
  | .incState key amount => some (.inc key amount)
  | .sendLocal service message template => some (.sendLocal service message template)
  | .ifStateEq key value thenAction => (kernelAction thenAction).map (.ifStateEq key value)
  | .timerLocal _ _ _ _ => none
  | .timerRemote _ _ _ _ _ => none
  | .sendRemote _ _ _ _ => none

def kernelMessage (msg : RuntimeMessage) : Semantics.Message :=
  { fromService := msg.fromService
    msgType := msg.msgType
    text := msg.text }

/-! ## The simulation relation -/

section Simulation

variable {V : Type}

/-- The store has the values of the declared variables. -/
def Agrees (declared state : StateMap) (store : Semantics.Store) : Prop :=
  ∀ key, (declared.lookup key).isSome →
    state.lookup key = some (Semantics.lookupState store key)

/-- A queued item and a message in the outbox of the kernel, texts aside. -/
structure CorrespondsTo (host : Host V) (out : Outgoing V)
    (sent : Semantics.ServiceName × Semantics.Message) : Prop where
  target : out.target = .localService sent.1
  delaySteps : out.delaySteps = 0
  payload : ∃ msg : RuntimeMessage, out.payload = encodeMsg host msg ∧
    msg.fromService = sent.2.fromService ∧ msg.msgType = sent.2.msgType

structure Simulates (host : Host V) (declared : StateMap) (exec : Execution V)
    (st : Semantics.ServiceState) : Prop where
  state : Agrees declared exec.state st.store
  outbox : List.Forall₂ (CorrespondsTo host) exec.ctx.outbox st.outbox

theorem Agrees.set {declared state : StateMap} {store : Semantics.Store}
    (agrees : Agrees declared state store) (key : String) (value : Int) :
    Agrees declared (state.insert key value) (Semantics.setState store key value) := by
  intro other stored
  by_cases same : other = key
  · subst same
    rw [AList.lookup_insert, Semantics.lookup_set_eq]
  · rw [AList.lookup_insert_ne same, Semantics.lookup_set_ne store same]
    exact agrees other stored

theorem checkedAdd_some {a b value : Int} (added : checkedAdd a b = some value) : value = a + b := by
  unfold checkedAdd at added
  split at added
  · exact (Option.some.inj added).symm
  · cases added

variable {host : Host V} {service : String} {incomingMsgId : Uuid} {incoming : RuntimeMessage}
  {peers : PeerMap} {declared : StateMap}

/-- The step lemma; the variables that an action names are declared. -/
theorem executeAction_simulates {action : ActionDecl} {kernel : Semantics.Action}
    (known : kernelAction action = some kernel) {msgType : String} {services : List String}
    (valid : validateAction host service msgType declared services action = .ok ())
    {exec exec' : Execution V} {st : Semantics.ServiceState}
    (simulates : Simulates host declared exec st)
    (ran : executeAction host service incomingMsgId incoming peers action exec = .ok exec') :
    Simulates host declared exec'
      (Semantics.applyAction service (kernelMessage incoming) kernel st) := by
  induction action generalizing kernel exec exec' st with
  | log template =>
      cases known
      cases ran
      exact ⟨simulates.state, simulates.outbox⟩
  | setState key value =>
      cases known
      simp only [executeAction] at ran
      split at ran
      · cases ran
      · cases ran
        exact ⟨simulates.state.set key value, simulates.outbox⟩
  | incState key amount =>
      cases known
      have stored : (declared.lookup key).isSome := requireState_found valid
      have current : (observe .stateWrite exec).state.lookup key =
          some (Semantics.lookupState st.store key) := simulates.state key stored
      simp only [executeAction] at ran
      rw [current] at ran
      dsimp only at ran
      split at ran
      · cases ran
      · rename_i value added
        cases ran
        rw [checkedAdd_some added]
        exact ⟨simulates.state.set key _, simulates.outbox⟩
  | sendLocal targetService message template =>
      cases known
      cases ran
      refine ⟨simulates.state, List.rel_append simulates.outbox (.cons ⟨rfl, rfl, ?_⟩ .nil)⟩
      exact ⟨_, rfl, rfl, rfl⟩
  | ifStateEq key value thenAction ih =>
      obtain ⟨nested, knownNested, rfl⟩ := Option.map_eq_some_iff.mp known
      obtain ⟨declaredKey, validNested⟩ := ExceptRun.check_ok.mp valid
      have current : (observe .stateRead exec).state.lookup key =
          some (Semantics.lookupState st.store key) :=
        simulates.state key (requireState_found declaredKey)
      have observed : Simulates host declared (observe .stateRead exec) st :=
        ⟨simulates.state, simulates.outbox⟩
      simp only [executeAction] at ran
      rw [current] at ran
      dsimp only at ran
      rw [Semantics.applyAction]
      split at ran
      · rename_i equal
        rw [if_pos equal]
        exact ih knownNested validNested observed ran
      · rename_i differ
        cases ran
        rw [if_neg differ]
        exact observed
  | timerLocal steps targetService message template => cases known
  | timerRemote steps target targetService message template => cases known
  | sendRemote target targetService message template => cases known

theorem executeAll_simulates {actions : List ActionDecl} {kernel : List Semantics.Action}
    (known : actions.mapM kernelAction = some kernel) {msgType : String} {services : List String}
    (valid : ∀ action ∈ actions,
      validateAction host service msgType declared services action = .ok ())
    {exec exec' : Execution V} {st : Semantics.ServiceState}
    (simulates : Simulates host declared exec st)
    (ran : executeAll host service incomingMsgId incoming peers actions exec = .ok exec') :
    Simulates host declared exec'
      (Semantics.applyActions service (kernelMessage incoming) kernel st) := by
  induction actions generalizing kernel exec st with
  | nil =>
      cases known
      cases ran
      exact simulates
  | cons action rest ih =>
      rw [List.mapM_cons] at known
      obtain ⟨first, knownFirst, known⟩ := Option.bind_eq_some_iff.mp known
      obtain ⟨later, knownLater, known⟩ := Option.bind_eq_some_iff.mp known
      cases known
      rw [executeAll] at ran
      split at ran
      · cases ran
      · rename_i middle here
        have step := executeAction_simulates knownFirst (valid action List.mem_cons_self) simulates
          here
        exact ih knownLater (fun other member => valid other (List.mem_cons_of_mem action member))
          step ran

end Simulation

/-! ## Handlers -/

section Handlers

variable {V : Type} {host : Host V} {program : Program}

/-- The interpreter refines the kernel on every handler that the kernel can express. -/
theorem executeActions_refines_kernel {src : String} (loaded : loadProgram host src = .ok program)
    {service : String} {incoming : RuntimeMessage} {plan : HandlerPlan}
    (handler : program.handlers.lookup (service, incoming.msgType) = some plan)
    {kernel : List Semantics.Action} (known : plan.actions.mapM kernelAction = some kernel)
    {declared state : StateMap}
    (initial : program.serviceInitialState.lookup service = some declared)
    {store : Semantics.Store} (agrees : Agrees declared state store) (incomingMsgId : Uuid)
    (peers : PeerMap) (selfNode : NodeId) {executed : Executed V}
    (ran : executeActions host service incomingMsgId incoming peers program state
      (.new selfNode) = .ok executed) :
    Agrees declared executed.state
        (Semantics.applyActions service (kernelMessage incoming) kernel ⟨store, []⟩).store ∧
      List.Forall₂ (CorrespondsTo host) executed.ctx.outbox
        (Semantics.applyActions service (kernelMessage incoming) kernel ⟨store, []⟩).outbox := by
  have checked := (loadProgram_accepted loaded).handler_checked service incoming.msgType plan handler
  have start : Simulates host declared ⟨state, .new selfNode, ∅⟩ ⟨store, []⟩ := ⟨agrees, .nil⟩
  unfold executeActions at ran
  rw [handler] at ran
  dsimp only at ran
  split at ran
  · cases ran
  · rename_i final finished
    cases ran
    have simulates := executeAll_simulates known (checked.actions_valid declared initial) start
      finished
    exact ⟨simulates.state, simulates.outbox⟩

def kernelSource : String :=
  "service Gateway\nstate n = 0\non start\neffects log state_read state_write send_local\n" ++
    "inc n 2\nif n == 2 send local Gateway tick \"n=$state.n\"\nset n 7\nlog \"done\"\n"

def kernelSample : List Semantics.Action :=
  [.inc "n" 2, .ifStateEq "n" 2 (.sendLocal "Gateway" "tick" "n=$state.n"), .set "n" 7,
    .log "done"]

def kernelPlan : HandlerPlan :=
  { actions :=
      [.incState "n" 2, .ifStateEq "n" 2 (.sendLocal "Gateway" "tick" "n=$state.n"),
        .setState "n" 7, .log "done"]
    declaredEffects := [.log, .stateRead, .stateWrite, .sendLocal] }

def kernelProgram : Program :=
  { services := ["Gateway"]
    serviceInitialState := AList.insert "Gateway" (AList.insert "n" 0 ∅) ∅
    handlers := AList.insert ("Gateway", "start") kernelPlan ∅ }

theorem executeActions_refines_kernel_sample :
    ∃ executed : Executed JsonDoc,
      executeActions jsonHost "Gateway" 1 sampleStart ∅ kernelProgram (AList.insert "n" 0 ∅)
        (.new 7) = .ok executed ∧
      Agrees (AList.insert "n" 0 ∅) executed.state
        (Semantics.applyActions "Gateway" (kernelMessage sampleStart) kernelSample
          ⟨[("n", 0)], []⟩).store ∧
      List.Forall₂ (CorrespondsTo jsonHost) executed.ctx.outbox
        (Semantics.applyActions "Gateway" (kernelMessage sampleStart) kernelSample
          ⟨[("n", 0)], []⟩).outbox := by
  have loaded : loadProgram jsonHost kernelSource = .ok kernelProgram := by
    decide +kernel
  have succeeds : (executeActions jsonHost "Gateway" 1 sampleStart ∅ kernelProgram
      (AList.insert "n" 0 ∅) (.new 7)).isOk = true := by
    decide +kernel
  have found : kernelProgram.handlers.lookup ("Gateway", sampleStart.msgType) =
      some kernelPlan := by
    decide +kernel
  have agrees : Agrees (AList.insert "n" 0 ∅) (AList.insert "n" 0 ∅) [("n", 0)] := by
    intro key stored
    by_cases same : key = "n"
    · subst same
      rw [AList.lookup_insert]
      rfl
    · rw [AList.lookup_insert_ne same] at stored
      simp at stored
  obtain ⟨executed, ran⟩ := ExceptRun.exists_ok succeeds
  exact ⟨executed, ran, executeActions_refines_kernel loaded found (by decide)
    (AList.lookup_insert _) agrees 1 ∅ 7 ran⟩

end Handlers

end UcoStack.Runtime
