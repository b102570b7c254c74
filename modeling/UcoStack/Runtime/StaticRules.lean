import Mathlib.Data.List.Duplicate
import UcoStack.Lang.WellFormed
import UcoStack.Library.Reading
import UcoStack.Runtime.Effects

/-!
# The static rules of the language

Which modules are programs, said without the loader.  The loader accepts exactly these
and returns the program that the module describes; each of its rejections names a fault
of the module, in whatever order the handlers are checked.
-/

namespace UcoStack.Runtime

open UcoStack.Lang ExceptRun

/-! ## The rules -/

section Rules

variable {V : Type} (host : Host V)

/-- The names a handler may refer to. -/
structure Scope where
  states : List String
  services : List String

/-- A node target is an identifier. -/
def TargetOk (target : RemoteTarget) : Prop :=
  ∀ raw, target = .node raw → (host.uuidParse raw).isSome

/-- The rules for actions. -/
inductive ActionOk (scope : Scope) : ActionDecl → Prop where
  | log (template : String) : ActionOk scope (.log template)
  | setState {key : String} (declared : key ∈ scope.states) (value : Int) :
      ActionOk scope (.setState key value)
  | incState {key : String} (declared : key ∈ scope.states) (amount : Int) :
      ActionOk scope (.incState key amount)
  | sendLocal {service : String} (known : service ∈ scope.services) (message template : String) :
      ActionOk scope (.sendLocal service message template)
  | sendRemote {service : String} (known : service ∈ scope.services) {target : RemoteTarget}
      (node : TargetOk host target) (message template : String) :
      ActionOk scope (.sendRemote target service message template)
  | timerLocal {service : String} (known : service ∈ scope.services) {steps : Nat}
      (later : steps ≠ 0) (message template : String) :
      ActionOk scope (.timerLocal steps service message template)
  | timerRemote {service : String} (known : service ∈ scope.services) {steps : Nat}
      (later : steps ≠ 0) {target : RemoteTarget} (node : TargetOk host target)
      (message template : String) :
      ActionOk scope (.timerRemote steps target service message template)
  | ifStateEq {key : String} (declared : key ∈ scope.states) (value : Int)
      {thenAction : ActionDecl} (inner : ActionOk scope thenAction) :
      ActionOk scope (.ifStateEq key value thenAction)

/-- The effects an action may have. -/
inductive HasEffect : ActionDecl → HandlerEffect → Prop where
  | log (template : String) : HasEffect (.log template) .log
  | setState (key : String) (value : Int) : HasEffect (.setState key value) .stateWrite
  | incState (key : String) (amount : Int) : HasEffect (.incState key amount) .stateWrite
  | sendLocal (service message template : String) :
      HasEffect (.sendLocal service message template) .sendLocal
  | sendRemote (target : RemoteTarget) (service message template : String) :
      HasEffect (.sendRemote target service message template) .sendRemote
  | timerLocal (steps : Nat) (service message template : String) :
      HasEffect (.timerLocal steps service message template) .timerLocal
  | timerRemote (steps : Nat) (target : RemoteTarget) (service message template : String) :
      HasEffect (.timerRemote steps target service message template) .timerRemote
  | condition (key : String) (value : Int) (thenAction : ActionDecl) :
      HasEffect (.ifStateEq key value thenAction) .stateRead
  | inner (key : String) (value : Int) {thenAction : ActionDecl} {effect : HandlerEffect}
      (has : HasEffect thenAction effect) : HasEffect (.ifStateEq key value thenAction) effect

def serviceNames (module : Lang.Module) : List String := module.services.map ServiceDecl.name

def stateNames (service : ServiceDecl) : List String := service.states.map StateDecl.name

def handledTypesOf (service : ServiceDecl) : List String := service.handlers.map HandlerDecl.on

def scopeOf (module : Lang.Module) (service : ServiceDecl) : Scope :=
  ⟨stateNames service, serviceNames module⟩

structure HandlerOk (scope : Scope) (handler : HandlerDecl) : Prop where
  actions : ∀ action ∈ handler.actions, ActionOk host scope action
  effects : ∀ effect,
    effect ∈ handler.effects ↔ ∃ action ∈ handler.actions, HasEffect action effect

/-- The module is a program. -/
structure ModuleOk (module : Lang.Module) : Prop where
  services : (serviceNames module).Nodup
  states : ∀ service ∈ module.services, (stateNames service).Nodup
  handlers : ∀ service ∈ module.services, (handledTypesOf service).Nodup
  handler : ∀ service ∈ module.services, ∀ handler ∈ service.handlers,
    HandlerOk host (scopeOf module service) handler

/-! ## What the loader builds -/

/-- The initial states of a service. -/
def stateBindings (service : ServiceDecl) : List (String × Int) :=
  service.states.map fun state => (state.name, state.initial)

def handlerBinding (service : String) (handler : HandlerDecl) :
    (String × String) × HandlerPlan :=
  ((service, handler.on), ⟨handler.actions, handler.effects⟩)

def handlerBindings (service : ServiceDecl) : List ((String × String) × HandlerPlan) :=
  service.handlers.map (handlerBinding service.name)

/-- The program holds the declarations of these services and nothing else. -/
structure Holds (program : Program) (decls : List ServiceDecl) : Prop where
  services : program.services = decls.map ServiceDecl.name
  nodup : program.services.Nodup
  states : ∀ service ∈ decls, ∃ state,
    program.serviceInitialState.lookup service.name = some state ∧
      state.Binds (stateBindings service)
  known : ∀ name, (program.serviceInitialState.lookup name).isSome ↔ name ∈ program.services
  handlers : program.handlers.Binds (decls.flatMap handlerBindings)

/-! ## Faults -/

/-- What is wrong with an action in a handler of `service` on `msgType`. -/
inductive ActionFault (scope : Scope) (service msgType : String) :
    ActionDecl → LoadError → Prop where
  | setState {key : String} (undeclared : key ∉ scope.states) (value : Int) :
      ActionFault scope service msgType (.setState key value)
        (.undeclaredState service msgType key)
  | incState {key : String} (undeclared : key ∉ scope.states) (amount : Int) :
      ActionFault scope service msgType (.incState key amount)
        (.undeclaredState service msgType key)
  | condition {key : String} (undeclared : key ∉ scope.states) (value : Int)
      (thenAction : ActionDecl) :
      ActionFault scope service msgType (.ifStateEq key value thenAction)
        (.undeclaredState service msgType key)
  | inner (key : String) (value : Int) {thenAction : ActionDecl} {error : LoadError}
      (fault : ActionFault scope service msgType thenAction error) :
      ActionFault scope service msgType (.ifStateEq key value thenAction) error
  | sendLocal {target : String} (unknown : target ∉ scope.services) (message template : String) :
      ActionFault scope service msgType (.sendLocal target message template)
        (.unknownService service msgType target)
  | sendRemote {target : String} (unknown : target ∉ scope.services) (node : RemoteTarget)
      (message template : String) :
      ActionFault scope service msgType (.sendRemote node target message template)
        (.unknownService service msgType target)
  | sendRemoteNode {raw : String} (invalid : host.uuidParse raw = none)
      (target message template : String) :
      ActionFault scope service msgType (.sendRemote (.node raw) target message template)
        (.invalidNodeTarget service msgType raw)
  | timerLocal {target : String} (unknown : target ∉ scope.services) (steps : Nat)
      (message template : String) :
      ActionFault scope service msgType (.timerLocal steps target message template)
        (.unknownService service msgType target)
  | timerLocalSteps (target message template : String) :
      ActionFault scope service msgType (.timerLocal 0 target message template)
        (.zeroSteps service msgType)
  | timerRemote {target : String} (unknown : target ∉ scope.services) (steps : Nat)
      (node : RemoteTarget) (message template : String) :
      ActionFault scope service msgType (.timerRemote steps node target message template)
        (.unknownService service msgType target)
  | timerRemoteSteps (node : RemoteTarget) (target message template : String) :
      ActionFault scope service msgType (.timerRemote 0 node target message template)
        (.zeroSteps service msgType)
  | timerRemoteNode {raw : String} (invalid : host.uuidParse raw = none) (steps : Nat)
      (target message template : String) :
      ActionFault scope service msgType (.timerRemote steps (.node raw) target message template)
        (.invalidTimerNodeTarget service msgType raw)

/-- The list has exactly the effects with a property, in the order of the enumeration. -/
structure Lists (effects : List HandlerEffect) (Has : HandlerEffect → Prop) : Prop where
  mem : ∀ effect, effect ∈ effects ↔ Has effect
  inOrder : effects = HandlerEffect.all.filter (· ∈ effects)

/-- What is wrong with a module. -/
inductive Fault (module : Lang.Module) : LoadError → Prop where
  | service {name : String} (twice : List.Duplicate name (serviceNames module)) :
      Fault module (.duplicateService name)
  | state {service : ServiceDecl} (inModule : service ∈ module.services) {name : String}
      (twice : List.Duplicate name (stateNames service)) :
      Fault module (.duplicateState name service.name)
  | handler {service : ServiceDecl} (inModule : service ∈ module.services) {on : String}
      (twice : List.Duplicate on (handledTypesOf service)) :
      Fault module (.effectsTwice service.name on)
  | action {service : ServiceDecl} (inModule : service ∈ module.services)
      {handler : HandlerDecl} (inService : handler ∈ service.handlers) {action : ActionDecl}
      (inHandler : action ∈ handler.actions) {error : LoadError}
      (fault : ActionFault host (scopeOf module service) service.name handler.on action error) :
      Fault module error
  | effects {service : ServiceDecl} (inModule : service ∈ module.services)
      {handler : HandlerDecl} (inService : handler ∈ service.handlers)
      {declared inferred : List HandlerEffect} (declares : Lists declared (· ∈ handler.effects))
      (infers : Lists inferred fun effect =>
        ∃ action ∈ handler.actions, HasEffect action effect)
      (differ : declared ≠ inferred) :
      Fault module (.effectMismatch service.name handler.on declared inferred)

variable {host}

theorem Lists.unique {Has : HandlerEffect → Prop} {first second : List HandlerEffect}
    (one : Lists first Has) (other : Lists second Has) : first = second := by
  rw [one.inOrder, other.inOrder]
  refine List.filter_congr fun effect _ => ?_
  rw [decide_eq_decide, one.mem, other.mem]

/-- A faulty action breaks the rules. -/
theorem ActionFault.not_ok {scope : Scope} {service msgType : String} {action : ActionDecl}
    {error : LoadError} (fault : ActionFault host scope service msgType action error) :
    ¬ActionOk host scope action := by
  induction fault with
  | setState undeclared value =>
      intro ok
      cases ok with
      | setState declared => exact undeclared declared
  | incState undeclared amount =>
      intro ok
      cases ok with
      | incState declared => exact undeclared declared
  | condition undeclared value thenAction =>
      intro ok
      cases ok with
      | ifStateEq declared => exact undeclared declared
  | inner key value fault ih =>
      intro ok
      cases ok with
      | ifStateEq _ _ inner => exact ih inner
  | sendLocal unknown message template =>
      intro ok
      cases ok with
      | sendLocal known => exact unknown known
  | sendRemote unknown node message template =>
      intro ok
      cases ok with
      | sendRemote known => exact unknown known
  | sendRemoteNode invalid target message template =>
      intro ok
      cases ok with
      | sendRemote known node =>
          have valid := node _ rfl
          rw [invalid] at valid
          cases valid
  | timerLocal unknown steps message template =>
      intro ok
      cases ok with
      | timerLocal known => exact unknown known
  | timerLocalSteps target message template =>
      intro ok
      cases ok with
      | timerLocal known later => exact later rfl
  | timerRemote unknown steps node message template =>
      intro ok
      cases ok with
      | timerRemote known => exact unknown known
  | timerRemoteSteps node target message template =>
      intro ok
      cases ok with
      | timerRemote known later => exact later rfl
  | timerRemoteNode invalid steps target message template =>
      intro ok
      cases ok with
      | timerRemote known later node =>
          have valid := node _ rfl
          rw [invalid] at valid
          cases valid

/-- A faulty module is not a program. -/
theorem Fault.not_ok {module : Lang.Module} {error : LoadError} (fault : Fault host module error) :
    ¬ModuleOk host module := by
  intro ok
  cases fault with
  | service twice => exact twice.not_nodup ok.services
  | state inModule twice => exact twice.not_nodup (ok.states _ inModule)
  | handler inModule twice => exact twice.not_nodup (ok.handlers _ inModule)
  | action inModule inService inHandler fault =>
      exact fault.not_ok ((ok.handler _ inModule _ inService).actions _ inHandler)
  | effects inModule inService declares infers differ =>
      have same := (ok.handler _ inModule _ inService).effects
      have declares' : Lists _ fun effect => ∃ action ∈ _, HasEffect action effect :=
        ⟨fun effect => (declares.mem effect).trans (same effect), declares.inOrder⟩
      exact differ (declares'.unique infers)

end Rules

/-! ## The checks of one handler -/

section Checks

variable {V : Type} {host : Host V} {service msgType : String} {Fault : LoadError → Prop}

theorem requireState_yields {scope : Scope} {state : StateMap}
    (declares : ∀ key, (state.lookup key).isSome ↔ key ∈ scope.states) {key : String}
    (fault : key ∉ scope.states → Fault (.undeclaredState service msgType key)) :
    Yields (requireState service msgType state key) (fun _ => key ∈ scope.states) Fault := by
  unfold requireState
  by_cases declared : (state.lookup key).isSome
  · rw [if_pos declared]
    exact .ok ((declares key).mp declared)
  · rw [if_neg declared]
    exact .error (fault (mt (declares key).mpr declared))

theorem requireService_yields {services : List String} {target : String}
    (fault : target ∉ services → Fault (.unknownService service msgType target)) :
    Yields (requireService service msgType services target) (fun _ => target ∈ services)
      Fault := by
  unfold requireService
  by_cases known : target ∈ services
  · rw [if_pos known]
    exact .ok known
  · rw [if_neg known]
    exact .error (fault known)

theorem requireSteps_yields {steps : Nat}
    (fault : steps = 0 → Fault (.zeroSteps service msgType)) :
    Yields (requireSteps service msgType steps) (fun _ => steps ≠ 0) Fault := by
  unfold requireSteps
  by_cases zero : steps = 0
  · rw [if_pos zero]
    exact .error (fault zero)
  · rw [if_neg zero]
    exact .ok zero

theorem requireNode_yields {rejection : String → LoadError} {target : RemoteTarget}
    (fault : ∀ raw, target = .node raw → host.uuidParse raw = none → Fault (rejection raw)) :
    Yields (requireNode host rejection target) (fun _ => TargetOk host target) Fault := by
  cases target with
  | node raw =>
      rw [requireNode]
      by_cases valid : (host.uuidParse raw).isSome
      · rw [if_pos valid]
        refine .ok ?_
        rintro _ ⟨⟩
        exact valid
      · rw [if_neg valid]
        exact .error (fault raw rfl (Option.not_isSome_iff_eq_none.mp valid))
  | peers => exact .ok fun raw same => by cases same
  | sender => exact .ok fun raw same => by cases same

/-- The loader checks exactly the rules for actions. -/
theorem validateAction_yields {scope : Scope} {state : StateMap}
    (declares : ∀ key, (state.lookup key).isSome ↔ key ∈ scope.states) (action : ActionDecl) :
    Yields (validateAction host service msgType state scope.services action)
      (fun _ => ActionOk host scope action) (ActionFault host scope service msgType action) := by
  induction action with
  | log template => exact .ok (.log template)
  | setState key value =>
      exact (requireState_yields declares (.setState · value)).mono
        (fun _ declared => .setState declared value) fun _ fault => fault
  | incState key amount =>
      exact (requireState_yields declares (.incState · amount)).mono
        (fun _ declared => .incState declared amount) fun _ fault => fault
  | sendLocal target message template =>
      exact (requireService_yields (.sendLocal · message template)).mono
        (fun _ known => .sendLocal known message template) fun _ fault => fault
  | sendRemote node target message template =>
      refine (requireService_yields (.sendRemote · node message template)).check fun known => ?_
      refine (requireNode_yields ?_).mono
        (fun _ valid => .sendRemote known valid message template) fun _ fault => fault
      rintro raw rfl invalid
      exact .sendRemoteNode invalid target message template
  | timerLocal steps target message template =>
      refine (requireService_yields (.timerLocal · steps message template)).check fun known => ?_
      refine (requireSteps_yields ?_).mono
        (fun _ later => .timerLocal known later message template) fun _ fault => fault
      rintro rfl
      exact .timerLocalSteps target message template
  | timerRemote steps node target message template =>
      refine (requireService_yields (.timerRemote · steps node message template)).check
        fun known => ?_
      refine (requireSteps_yields ?_).check fun later => (requireNode_yields ?_).mono
        (fun _ valid => .timerRemote known later valid message template) fun _ fault => fault
      · rintro rfl
        exact .timerRemoteSteps node target message template
      · rintro raw rfl invalid
        exact .timerRemoteNode invalid steps target message template
  | ifStateEq key value thenAction ih =>
      refine (requireState_yields declares (.condition · value thenAction)).check
        fun declared => ?_
      exact ih.mono (fun _ inner => .ifStateEq declared value inner)
        fun _ fault => .inner key value fault

theorem mem_actionEffects {action : ActionDecl} {effect : HandlerEffect} :
    effect ∈ actionEffects action ↔ HasEffect action effect := by
  induction action with
  | ifStateEq key value thenAction ih =>
      have split : actionEffects (.ifStateEq key value thenAction) =
          insert .stateRead (actionEffects thenAction) := by
        rw [actionEffects, inferActionEffects, inferActionEffects_eq]
        rfl
      rw [split, Finset.mem_insert, ih]
      constructor
      · rintro (rfl | has)
        · exact .condition key value thenAction
        · exact .inner key value has
      · intro has
        cases has with
        | condition => exact .inl rfl
        | inner _ _ has => exact .inr has
  | _ =>
      simp only [actionEffects, inferActionEffects, Finset.mem_insert, Finset.notMem_empty,
        or_false]
      constructor
      · rintro rfl
        constructor
      · intro has
        cases has
        rfl

theorem lists_sortedEffects (effects : Finset HandlerEffect) :
    Lists (sortedEffects effects) (· ∈ effects) where
  mem := fun effect => by
    rw [sortedEffects, List.mem_filter, decide_eq_true_eq]
    exact and_iff_right (by cases effect <;> decide)
  inOrder := by
    unfold sortedEffects
    refine List.filter_congr fun effect member => ?_
    rw [decide_eq_decide, List.mem_filter, decide_eq_true_eq]
    exact (and_iff_right member).symm

theorem Lists.congr {effects : List HandlerEffect} {Has Has' : HandlerEffect → Prop}
    (lists : Lists effects Has) (same : ∀ effect, Has effect ↔ Has' effect) :
    Lists effects Has' :=
  ⟨fun effect => (lists.mem effect).trans (same effect), lists.inOrder⟩

end Checks

/-! ## Collecting the declarations -/

section Collecting

theorem duplicate_of_mem {α β : Type} {f : α → β} {past later : List α} {item : α}
    (seen : f item ∈ past.map f) : List.Duplicate (f item) ((past ++ item :: later).map f) := by
  rw [List.duplicate_iff_sublist, List.map_append, List.map_cons]
  exact (List.singleton_sublist.mpr seen).append
    (List.singleton_sublist.mpr List.mem_cons_self)

/-- The states are declared one after the other. -/
theorem declareStates_yields {service : String} (past rest : List StateDecl) {state : StateMap}
    (binds : state.Binds (past.map fun decl => (decl.name, decl.initial))) :
    Yields (declareStates service rest state)
      (fun final => final.Binds ((past ++ rest).map fun decl => (decl.name, decl.initial)))
      fun error => ∃ name, error = .duplicateState name service ∧
        List.Duplicate name ((past ++ rest).map StateDecl.name) := by
  have keys (decls : List StateDecl) :
      (decls.map fun decl => (decl.name, decl.initial)).map Prod.fst =
        decls.map StateDecl.name := by
    rw [List.map_map]
    rfl
  induction rest generalizing past state with
  | nil =>
      rw [List.append_nil]
      exact .ok binds
  | cons decl rest ih =>
      have stored := binds.isSome_iff decl.name
      rw [keys] at stored
      rw [declareStates]
      by_cases seen : decl.name ∈ past.map StateDecl.name
      · rw [if_pos (stored.mpr seen)]
        exact .error ⟨decl.name, rfl, duplicate_of_mem seen⟩
      · rw [if_neg (mt stored.mp seen), List.append_cons]
        apply ih
        rw [List.map_append]
        exact binds.insert (by rwa [keys]) decl.initial

/-- A handler that was declared before has effects, so it is not declared again. -/
theorem declareHandlers_yields {service : String} (past rest : List HandlerDecl)
    {earlier : List ((String × String) × HandlerPlan)} {handlers : Handlers}
    (foreign : ∀ entry ∈ earlier, entry.1.1 ≠ service)
    (nonempty : ∀ handler ∈ past ++ rest, handler.effects ≠ [])
    (binds : handlers.Binds (earlier ++ past.map (handlerBinding service))) :
    Yields (declareHandlers service rest handlers)
      (fun final => final.Binds (earlier ++ (past ++ rest).map (handlerBinding service)))
      fun error => ∃ on, error = .effectsTwice service on ∧
        List.Duplicate on ((past ++ rest).map HandlerDecl.on) := by
  induction rest generalizing past handlers with
  | nil =>
      rw [List.append_nil]
      exact .ok binds
  | cons handler rest ih =>
      have declared (found : (service, handler.on) ∈
          (earlier ++ past.map (handlerBinding service)).map Prod.fst) :
          ∃ before ∈ past, before.on = handler.on := by
        obtain ⟨entry, member, key⟩ := List.mem_map.mp found
        rcases List.mem_append.mp member with other | own
        · exact absurd (congrArg Prod.fst key) (foreign entry other)
        · obtain ⟨before, inPast, rfl⟩ := List.mem_map.mp own
          exact ⟨before, inPast, (Prod.mk.inj key).2⟩
      rw [declareHandlers]
      cases found : handlers.lookup (service, handler.on) with
      | none =>
          have fresh := binds.lookup_eq_none.mp found
          simp only [Option.getD_none, List.isEmpty_nil, Bool.not_true, Bool.false_eq_true,
            if_false, List.nil_append]
          rw [List.append_cons]
          apply ih
          · rwa [← List.append_cons]
          · rw [List.map_append, ← List.append_assoc]
            exact binds.insert fresh _
      | some plan =>
          have member := (binds.lookup _ _).mp found
          obtain ⟨before, inPast, same⟩ := declared (List.mem_map_of_mem member)
          have effects : plan.declaredEffects ≠ [] := by
            rcases List.mem_append.mp member with other | own
            · exact absurd rfl (foreign _ other)
            · obtain ⟨owner, inOwn, same⟩ := List.mem_map.mp own
              rw [← (Prod.mk.inj same).2]
              exact nonempty owner (List.mem_append_left _ inOwn)
          simp only [Option.getD_some, Bool.not_eq_true', List.isEmpty_eq_false_iff]
          rw [if_pos effects]
          refine .error ⟨handler.on, rfl, duplicate_of_mem ?_⟩
          exact List.mem_map.mpr ⟨before, inPast, same⟩

variable {V : Type} {host : Host V}

/-- The services are declared one after the other. -/
theorem declareServices_yields {module : Lang.Module} {past rest : List ServiceDecl}
    {program : Program} (split : module.services = past ++ rest)
    (nonempty : ∀ service ∈ module.services, ∀ handler ∈ service.handlers, handler.effects ≠ [])
    (holds : Holds program past) :
    Yields (declareServices rest program) (fun final => Holds final module.services)
      (Fault host module) := by
  induction rest generalizing past program with
  | nil =>
      rw [List.append_nil] at split
      rw [split]
      exact .ok holds
  | cons service rest ih =>
      have inModule : service ∈ module.services := by
        rw [split]
        exact List.mem_append_right _ List.mem_cons_self
      rw [declareServices, holds.services]
      by_cases seen : service.name ∈ past.map ServiceDecl.name
      · rw [if_pos seen]
        refine .error (.service ?_)
        rw [serviceNames, split]
        exact duplicate_of_mem seen
      rw [if_neg seen]
      have foreign : ∀ entry ∈ past.flatMap handlerBindings, entry.1.1 ≠ service.name := by
        intro entry member same
        obtain ⟨other, inPast, own⟩ := List.mem_flatMap.mp member
        obtain ⟨handler, _, rfl⟩ := List.mem_map.mp own
        exact seen (List.mem_map.mpr ⟨other, inPast, same⟩)
      have states : Yields (declareStates service.name service.states ∅)
          (fun state => state.Binds (stateBindings service)) (Fault host module) := by
        refine (declareStates_yields [] service.states .empty).mono (fun _ bound => bound) ?_
        rintro _ ⟨name, rfl, twice⟩
        exact .state inModule twice
      have handlers : Yields (declareHandlers service.name service.handlers program.handlers)
          (fun handlers => handlers.Binds (past.flatMap handlerBindings ++ handlerBindings service))
          (Fault host module) := by
        refine (declareHandlers_yields [] service.handlers foreign (nonempty service inModule)
          ?_).mono (fun _ bound => bound) ?_
        · rw [List.map_nil, List.append_nil]
          exact holds.handlers
        · rintro _ ⟨on, rfl, twice⟩
          exact .handler inModule twice
      refine states.bind fun state bound => handlers.bind fun collected declared => ?_
      rw [List.append_cons] at split
      refine ih split ⟨?_, ?_, ?_, ?_, ?_⟩
      · rw [List.map_append]
        rfl
      · refine List.nodup_append.mpr ⟨holds.services ▸ holds.nodup, List.nodup_singleton _, ?_⟩
        rintro _ member _ last rfl
        cases List.mem_singleton.mp last
        exact seen member
      · intro other member
        rcases List.mem_append.mp member with before | last
        · obtain ⟨stored, found, bindings⟩ := holds.states other before
          have differ : other.name ≠ service.name :=
            fun same => seen (same ▸ List.mem_map_of_mem before)
          exact ⟨stored, (AList.lookup_insert_ne differ).trans found, bindings⟩
        · cases List.mem_singleton.mp last
          exact ⟨state, AList.lookup_insert _, bound⟩
      · intro name
        rw [List.mem_append, List.mem_singleton]
        by_cases same : name = service.name
        · subst same
          simp
        · rw [AList.lookup_insert_ne same, holds.known, holds.services]
          exact (or_iff_left same).symm
      · rw [List.flatMap_append, List.flatMap_singleton]
        exact declared

theorem Holds.empty : Holds .empty [] where
  services := rfl
  nodup := List.nodup_nil
  states := fun _ member => absurd member List.not_mem_nil
  known := fun name => by simp [Program.empty]
  handlers := .empty

theorem Holds.handler_nodup {module : Lang.Module} {program : Program}
    (holds : Holds program module.services) {service : ServiceDecl}
    (inModule : service ∈ module.services) : (handledTypesOf service).Nodup := by
  have keys := holds.handlers.keys
  rw [List.map_flatMap] at keys
  have own := (List.nodup_flatMap.mp keys).1 service inModule
  have names : (handlerBindings service).map Prod.fst =
      (handledTypesOf service).map fun on => (service.name, on) := by
    rw [handlerBindings, handledTypesOf, List.map_map, List.map_map]
    rfl
  rw [names] at own
  exact own.of_map

end Collecting

/-! ## The loader -/

section Order

variable {V : Type} (host : Host V)
  (handlers : Reading (Sigma fun _ : String × String => HandlerPlan))

/-- `load_program` after parsing, with the handlers checked in the order in which the
hash map gives them. -/
def loadModuleIn (module : Lang.Module) : Except LoadError Program := do
  let program ← declareServices module.services .empty
  (handlers.read program.handlers.entries).forM fun entry =>
    checkHandler host program entry.1.1 entry.1.2 entry.2
  pure program

def loadProgramIn (src : String) : Except LoadError Program :=
  match parseModule src with
  | .error error => .error (.parse error)
  | .ok module => loadModuleIn host handlers module

end Order

section Loader

variable {V : Type} {host : Host V} {module : Lang.Module} {program : Program}
  {handlers : Reading (Sigma fun _ : String × String => HandlerPlan)}

/-- The order of the handlers decides which fault is reported, not what is loaded. -/
theorem loadModuleIn_ok : loadModuleIn host handlers module = .ok program ↔
    loadModule host module = .ok program := by
  rw [loadModuleIn, loadModule, bind_ok, bind_ok]
  refine exists_congr fun declared => and_congr_right fun _ => ?_
  rw [bind_ok, bind_ok]
  refine exists_congr fun _ => and_congr_left fun _ => ?_
  rw [forM_ok, forM_ok]
  exact forall_congr' fun entry => imp_congr_left (handlers.perm _).mem_iff

theorem loadProgramIn_ok {src : String} : loadProgramIn host handlers src = .ok program ↔
    loadProgram host src = .ok program := by
  rw [loadProgramIn, loadProgram]
  cases parseModule src with
  | error error => rfl
  | ok module => exact loadModuleIn_ok

theorem checkHandler_yields (holds : Holds program module.services) {service : ServiceDecl}
    (inModule : service ∈ module.services) {handler : HandlerDecl}
    (inService : handler ∈ service.handlers) :
    Yields (checkHandler host program service.name handler.on ⟨handler.actions, handler.effects⟩)
      (fun _ => HandlerOk host (scopeOf module service) handler) (Fault host module) := by
  obtain ⟨state, found, bound⟩ := holds.states service inModule
  have declares (key : String) :
      (state.lookup key).isSome ↔ key ∈ (scopeOf module service).states := by
    rw [bound.isSome_iff, stateBindings, List.map_map]
    rfl
  have scope : (scopeOf module service).services = program.services := holds.services.symm
  unfold checkHandler
  simp only [found]
  have actions : Yields (handler.actions.forM
      (validateAction host service.name handler.on state program.services))
      (fun _ => ∀ action ∈ handler.actions, ActionOk host (scopeOf module service) action)
      (Fault host module) := by
    rw [← scope]
    exact .forM fun action member => (validateAction_yields declares action).mono
      (fun _ ok => ok) fun _ fault => .action inModule inService member fault
  refine actions.check fun valid => ?_
  have declaredEffects (effect : HandlerEffect) :
      effect ∈ declaredSet ⟨handler.actions, handler.effects⟩ ↔ effect ∈ handler.effects :=
    List.mem_toFinset
  have inferredEffects (effect : HandlerEffect) :
      effect ∈ inferEffects handler.actions ↔
        ∃ action ∈ handler.actions, HasEffect action effect := by
    rw [mem_inferEffects]
    exact exists_congr fun action => and_congr_right fun _ => mem_actionEffects
  by_cases same : inferEffects handler.actions = declaredSet ⟨handler.actions, handler.effects⟩
  · rw [if_neg (not_not_intro same)]
    refine .ok ⟨valid, fun effect => ?_⟩
    rw [← inferredEffects, same, declaredEffects]
  · rw [if_pos same]
    have declares := (lists_sortedEffects (declaredSet ⟨handler.actions, handler.effects⟩)).congr
      declaredEffects
    have infers := (lists_sortedEffects (inferEffects handler.actions)).congr inferredEffects
    refine .error (.effects inModule inService declares infers fun equal => same ?_)
    ext effect
    rw [inferredEffects, ← infers.mem, ← equal, declares.mem, declaredEffects]

/-- The loader returns the program that a module describes, or names one of its faults. -/
theorem loadModuleIn_yields (wellFormed : module.WellFormed) :
    Yields (loadModuleIn host handlers module)
      (fun program => ModuleOk host module ∧ Holds program module.services)
      (Fault host module) := by
  have nonempty : ∀ service ∈ module.services, ∀ handler ∈ service.handlers,
      handler.effects ≠ [] := fun service inModule handler inService =>
    ((wellFormed.services service inModule).handlers handler inService).effects_nonempty
  refine (declareServices_yields (List.nil_append _).symm nonempty .empty).bind
    fun program holds => ?_
  have known {service : ServiceDecl} (inModule : service ∈ module.services)
      {other : ServiceDecl} (inModule' : other ∈ module.services)
      (same : service.name = other.name) : service = other :=
    List.inj_on_of_nodup_map (holds.services ▸ holds.nodup) inModule inModule' same
  let Good (entry : Sigma fun _ : String × String => HandlerPlan) : Prop :=
    ∃ service ∈ module.services, ∃ handler ∈ service.handlers,
      handlerBinding service.name handler = (entry.1, entry.2) ∧
        HandlerOk host (scopeOf module service) handler
  have order := handlers.perm program.handlers.entries
  have checks : Yields ((handlers.read program.handlers.entries).forM fun entry =>
      checkHandler host program entry.1.1 entry.1.2 entry.2)
      (fun _ => ∀ entry ∈ handlers.read program.handlers.entries, Good entry)
      (Fault host module) := by
    refine .forM fun entry read => ?_
    obtain ⟨key, plan⟩ := entry
    have stored := AList.mem_lookup_iff.mpr (order.mem_iff.mp read)
    have bound := (holds.handlers.lookup key plan).mp stored
    obtain ⟨service, inModule, own⟩ := List.mem_flatMap.mp bound
    obtain ⟨handler, inService, same⟩ := List.mem_map.mp own
    cases same
    exact (checkHandler_yields holds inModule inService).mono
      (fun _ ok => ⟨service, inModule, handler, inService, rfl, ok⟩) fun _ fault => fault
  refine checks.check fun good => .ok ⟨⟨?_, ?_, ?_, ?_⟩, holds⟩
  · rw [serviceNames, ← holds.services]
    exact holds.nodup
  · intro service inModule
    obtain ⟨state, _, bound⟩ := holds.states service inModule
    have keys := bound.keys
    rw [stateBindings, List.map_map] at keys
    exact keys
  · exact fun service inModule => holds.handler_nodup inModule
  · intro service inModule handler inService
    have bound : handlerBinding service.name handler ∈ module.services.flatMap handlerBindings :=
      List.mem_flatMap.mpr ⟨service, inModule, List.mem_map_of_mem inService⟩
    have stored := AList.mem_lookup_iff.mp ((holds.handlers.lookup _ _).mpr bound)
    obtain ⟨other, inModule', own, inService', same, ok⟩ := good _ (order.mem_iff.mpr stored)
    obtain ⟨key, _⟩ := Prod.mk.inj same
    obtain ⟨name, on⟩ := Prod.mk.inj key
    obtain rfl := known inModule' inModule name
    obtain rfl := List.inj_on_of_nodup_map (holds.handler_nodup inModule) inService' inService on
    exact ok

/-- The loader accepts exactly the texts of programs, and returns what they declare. -/
theorem loadProgram_exact (host : Host V) (src : String) :
    (∀ program, loadProgram host src = .ok program →
      ∃ module, parseModule src = .ok module ∧ ModuleOk host module ∧
        Holds program module.services) ∧
    ∀ module, parseModule src = .ok module → ModuleOk host module →
      ∃ program, loadProgram host src = .ok program := by
  unfold loadProgram
  cases parsed : parseModule src with
  | error error =>
      constructor
      · rintro _ ⟨⟩
      · rintro _ ⟨⟩
  | ok module =>
      have yields : Yields (loadModuleIn host .stored module) _ (Fault host module) :=
        loadModuleIn_yields (parseModule_wellFormed parsed)
      constructor
      · intro program loaded
        exact ⟨module, rfl, yields.1 program loaded⟩
      · rintro _ ⟨⟩ ok
        exact yields.succeeds (fun _ fault => fault.not_ok) ok

/-- A rejection is a parse error or names a fault of the module, whichever handler is
checked first.  In particular the state map of a service is never missing. -/
theorem loadProgram_rejects (host : Host V)
    (handlers : Reading (Sigma fun _ : String × String => HandlerPlan)) (src : String)
    {error : LoadError} (rejected : loadProgramIn host handlers src = .error error) :
    (∃ parseError, error = .parse parseError ∧ parseModule src = .error parseError) ∨
      ∃ module, parseModule src = .ok module ∧ Fault host module error := by
  rw [loadProgramIn] at rejected
  cases parsed : parseModule src with
  | error parseError =>
      rw [parsed] at rejected
      cases rejected
      exact .inl ⟨parseError, rfl, rfl⟩
  | ok module =>
      rw [parsed] at rejected
      have faults := (loadModuleIn_yields (parseModule_wellFormed parsed)).2 error rejected
      exact .inr ⟨module, rfl, faults⟩

/-- Two handlers write state variables that their service does not declare. -/
def faultySource : String :=
  "service A\non x\neffects state_write\ninc n\non y\neffects state_write\ninc m\n"

/-- Either fault may be reported. -/
theorem loadProgram_rejects_sample :
    ∃ module, parseModule faultySource = .ok module ∧
      Fault jsonHost module (.undeclaredState "A" "x" "n") ∧
      Fault jsonHost module (.undeclaredState "A" "y" "m") := by
  have forwards : loadProgramIn jsonHost .backwards faultySource =
      .error (.undeclaredState "A" "x" "n") := by decide +kernel
  have backwards : loadProgramIn jsonHost .stored faultySource =
      .error (.undeclaredState "A" "y" "m") := by decide +kernel
  rcases loadProgram_rejects jsonHost .backwards faultySource forwards with
    ⟨parseError, same, _⟩ | ⟨module, parsed, fault⟩
  · cases same
  rcases loadProgram_rejects jsonHost .stored faultySource backwards with
    ⟨parseError, same, _⟩ | ⟨other, again, later⟩
  · cases same
  cases parsed.symm.trans again
  exact ⟨module, parsed, fault, later⟩

end Loader

end UcoStack.Runtime
