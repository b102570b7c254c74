import Mathlib.Data.Finset.Insert
import UcoStack.Lang.Parser
import UcoStack.Library.AssocMap
import UcoStack.Runtime.Message

/-!
# Loading a program

`loadProgram` parses a program text, collects its services, initial states and
handlers, validates every action and compares the declared effects of every
handler with the inferred ones.
-/

namespace UcoStack.Runtime

open UcoStack.Lang

/-- The rejections of `load_program` and `validate_action`. -/
inductive LoadError where
  | parse (error : ParseError)
  | duplicateService (name : String)
  | duplicateState (state service : String)
  | effectsTwice (service on : String)
  | missingState (service : String)
  | undeclaredState (service msgType key : String)
  | unknownService (service msgType target : String)
  | zeroSteps (service msgType : String)
  | invalidNodeTarget (service msgType raw : String)
  | invalidTimerNodeTarget (service msgType raw : String)
  | effectMismatch (service msgType : String) (declared inferred : List HandlerEffect)
  deriving DecidableEq, Repr

def formatEffects (effects : List HandlerEffect) : String :=
  ", ".intercalate (effects.map HandlerEffect.spelling)

def LoadError.message : LoadError → String
  | .parse error => error.text
  | .duplicateService name => s!"duplicate service `{name}` in program"
  | .duplicateState state service => s!"duplicate state `{state}` in service `{service}`"
  | .effectsTwice service on =>
      s!"service `{service}` handler `on {on}` declares effects more than once"
  | .missingState service => s!"internal error: missing state for `{service}`"
  | .undeclaredState service msgType key =>
      s!"service `{service}` handler `on {msgType}` references undeclared state `{key}`"
  | .unknownService service msgType target =>
      s!"service `{service}` handler `on {msgType}` sends to unknown service `{target}`"
  | .zeroSteps service msgType =>
      s!"service `{service}` handler `on {msgType}` has timer with zero steps"
  | .invalidNodeTarget service msgType raw =>
      s!"service `{service}` handler `on {msgType}` has invalid node target `{raw}`"
  | .invalidTimerNodeTarget service msgType raw =>
      s!"service `{service}` handler `on {msgType}` has invalid timer node target `{raw}`"
  | .effectMismatch service msgType declared inferred =>
      s!"service `{service}` handler `on {msgType}` effect contract mismatch: declared [" ++
        formatEffects declared ++ "], inferred [" ++ formatEffects inferred ++ "]"

structure HandlerPlan where
  actions : List ActionDecl
  declaredEffects : List HandlerEffect
  deriving DecidableEq, Repr

/-- A service's state variables with their current values. -/
abbrev StateMap := HashMap String Int

abbrev Handlers := HashMap (String × String) HandlerPlan

structure Program where
  services : List String
  serviceInitialState : HashMap String StateMap
  handlers : Handlers
  deriving DecidableEq

def Program.empty : Program := ⟨[], ∅, ∅⟩

/-! ## Collecting declarations -/

def declareStates (service : String) : List StateDecl → StateMap → Except LoadError StateMap
  | [], state => .ok state
  | decl :: rest, state =>
      if (state.lookup decl.name).isSome then .error (.duplicateState decl.name service)
      else declareStates service rest (state.insert decl.name decl.initial)

def declareHandlers (service : String) :
    List HandlerDecl → Handlers → Except LoadError Handlers
  | [], handlers => .ok handlers
  | handler :: rest, handlers =>
      let plan := (handlers.lookup (service, handler.on)).getD ⟨[], []⟩
      if !plan.declaredEffects.isEmpty then .error (.effectsTwice service handler.on)
      else
        declareHandlers service rest
          (handlers.insert (service, handler.on)
            ⟨plan.actions ++ handler.actions, handler.effects⟩)

/-- The first loop of `load_program`.  The set `seen` always holds the names in
`services`, so it is not kept apart. -/
def declareServices : List ServiceDecl → Program → Except LoadError Program
  | [], program => .ok program
  | service :: rest, program =>
      if service.name ∈ program.services then .error (.duplicateService service.name)
      else do
        let state ← declareStates service.name service.states ∅
        let handlers ← declareHandlers service.name service.handlers program.handlers
        declareServices rest
          { services := program.services ++ [service.name]
            serviceInitialState := program.serviceInitialState.insert service.name state
            handlers := handlers }

/-! ## Validation and effect inference -/

section Validation

variable {V : Type} (host : Host V) (serviceName msgType : String)

def requireState (state : StateMap) (key : String) : Except LoadError Unit :=
  if (state.lookup key).isSome then .ok () else .error (.undeclaredState serviceName msgType key)

def requireService (serviceNames : List String) (target : String) : Except LoadError Unit :=
  if target ∈ serviceNames then .ok () else .error (.unknownService serviceName msgType target)

def requireSteps (steps : Nat) : Except LoadError Unit :=
  if steps = 0 then .error (.zeroSteps serviceName msgType) else .ok ()

def requireNode (rejection : String → LoadError) : RemoteTarget → Except LoadError Unit
  | .node raw => if (host.uuidParse raw).isSome then .ok () else .error (rejection raw)
  | _ => .ok ()

def validateAction (state : StateMap) (serviceNames : List String) :
    ActionDecl → Except LoadError Unit
  | .log _ => .ok ()
  | .setState key _ => requireState serviceName msgType state key
  | .incState key _ => requireState serviceName msgType state key
  | .sendLocal target _ _ => requireService serviceName msgType serviceNames target
  | .timerLocal steps target _ _ => do
      requireService serviceName msgType serviceNames target
      requireSteps serviceName msgType steps
  | .timerRemote steps remote target _ _ => do
      requireService serviceName msgType serviceNames target
      requireSteps serviceName msgType steps
      requireNode host (.invalidTimerNodeTarget serviceName msgType) remote
  | .sendRemote remote target _ _ => do
      requireService serviceName msgType serviceNames target
      requireNode host (.invalidNodeTarget serviceName msgType) remote
  | .ifStateEq key _ thenAction => do
      requireState serviceName msgType state key
      validateAction state serviceNames thenAction

end Validation

def inferActionEffects : ActionDecl → Finset HandlerEffect → Finset HandlerEffect
  | .log _, out => insert .log out
  | .setState _ _, out => insert .stateWrite out
  | .incState _ _, out => insert .stateWrite out
  | .timerLocal _ _ _ _, out => insert .timerLocal out
  | .timerRemote _ _ _ _ _, out => insert .timerRemote out
  | .sendLocal _ _ _, out => insert .sendLocal out
  | .sendRemote _ _ _ _, out => insert .sendRemote out
  | .ifStateEq _ _ thenAction, out => inferActionEffects thenAction (insert .stateRead out)

def inferEffects (actions : List ActionDecl) : Finset HandlerEffect :=
  actions.foldl (fun out action => inferActionEffects action out) ∅

/-- The elements of an effect set in `BTreeSet` order. -/
def sortedEffects (effects : Finset HandlerEffect) : List HandlerEffect :=
  HandlerEffect.all.filter (· ∈ effects)

def declaredSet (plan : HandlerPlan) : Finset HandlerEffect := plan.declaredEffects.toFinset

section Loading

variable {V : Type} (host : Host V)

/-- The body of the second loop of `load_program`: one handler is checked. -/
def checkHandler (program : Program) (serviceName msgType : String) (plan : HandlerPlan) :
    Except LoadError Unit :=
  match program.serviceInitialState.lookup serviceName with
  | none => .error (.missingState serviceName)
  | some state => do
      plan.actions.forM (validateAction host serviceName msgType state program.services)
      let inferred := inferEffects plan.actions
      if inferred ≠ declaredSet plan then
        .error (.effectMismatch serviceName msgType (sortedEffects (declaredSet plan))
          (sortedEffects inferred))
      else .ok ()

/-- `load_program` after parsing. -/
def loadModule (module : Lang.Module) : Except LoadError Program := do
  let program ← declareServices module.services .empty
  program.handlers.entries.forM fun entry =>
    checkHandler host program entry.1.1 entry.1.2 entry.2
  pure program

def loadProgram (src : String) : Except LoadError Program :=
  match parseModule src with
  | .error error => .error (.parse error)
  | .ok module => loadModule host module

end Loading

end UcoStack.Runtime
