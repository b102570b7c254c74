import UcoStack.Library.ExceptRun
import UcoStack.Runtime.Execute
import UcoStack.Runtime.JsonHost

/-!
# What an accepted program satisfies

`Accepted` collects the facts that `load_program` establishes about the program
it returns; the later modules use these facts and never unfold the loader.
-/

namespace UcoStack.Runtime

open UcoStack.Lang

/-- The static checks of one handler. -/
structure HandlerChecked {V : Type} (host : Host V) (program : Program) (service msgType : String)
    (plan : HandlerPlan) : Prop where
  service_mem : service ∈ program.services
  actions_valid : ∀ state, program.serviceInitialState.lookup service = some state →
    ∀ action ∈ plan.actions,
      validateAction host service msgType state program.services action = .ok ()
  inferred_eq : inferEffects plan.actions = declaredSet plan

structure Accepted {V : Type} (host : Host V) (program : Program) : Prop where
  services_nodup : program.services.Nodup
  state_of_service : ∀ service ∈ program.services,
    ∃ state, program.serviceInitialState.lookup service = some state
  service_of_state : ∀ service state,
    program.serviceInitialState.lookup service = some state → service ∈ program.services
  handler_checked : ∀ service msgType plan,
    program.handlers.lookup (service, msgType) = some plan →
      HandlerChecked host program service msgType plan

/-- The services of a program are distinct and are exactly the keys of its
initial states. -/
structure Collected (program : Program) : Prop where
  services_nodup : program.services.Nodup
  state_iff : ∀ service,
    (program.serviceInitialState.lookup service).isSome ↔ service ∈ program.services

theorem Collected.empty : Collected .empty where
  services_nodup := List.nodup_nil
  state_iff := fun service => by simp [Program.empty]

theorem Collected.declare {program : Program} (collected : Collected program) {name : String}
    (fresh : name ∉ program.services) (state : StateMap) (handlers : Handlers) :
    Collected
      { services := program.services ++ [name]
        serviceInitialState := program.serviceInitialState.insert name state
        handlers := handlers } where
  services_nodup := by
    refine List.nodup_append.mpr ⟨collected.services_nodup, List.nodup_singleton name, ?_⟩
    rintro left member right last rfl
    exact fresh (List.mem_singleton.mp last ▸ member)
  state_iff := fun service => by
    by_cases same : service = name
    · subst same
      simp
    · rw [AList.lookup_insert_ne same, collected.state_iff service]
      simp [same]

theorem declareServices_collected {services : List ServiceDecl} {program final : Program}
    (collected : Collected program) (declared : declareServices services program = .ok final) :
    Collected final := by
  induction services generalizing program with
  | nil =>
      cases declared
      exact collected
  | cons service rest ih =>
      rw [declareServices] at declared
      split at declared
      · cases declared
      · rename_i fresh
        obtain ⟨state, _, declared⟩ := ExceptRun.bind_ok.mp declared
        obtain ⟨handlers, _, declared⟩ := ExceptRun.bind_ok.mp declared
        exact ih (collected.declare fresh state handlers) declared

section

variable {V : Type} {host : Host V}

theorem checkHandler_checked {program : Program} (collected : Collected program)
    {service msgType : String} {plan : HandlerPlan}
    (checked : checkHandler host program service msgType plan = .ok ()) :
    HandlerChecked host program service msgType plan := by
  unfold checkHandler at checked
  split at checked
  · cases checked
  · rename_i state found
    rw [ExceptRun.check_ok] at checked
    obtain ⟨valid, effects⟩ := checked
    refine ⟨?_, ?_, ?_⟩
    · exact (collected.state_iff service).mp (by simp [found])
    · intro other same
      cases found.symm.trans same
      exact ExceptRun.forM_ok.mp valid
    · by_contra differ
      rw [if_pos differ] at effects
      cases effects

theorem loadModule_accepted {module : Lang.Module} {program : Program}
    (loaded : loadModule host module = .ok program) : Accepted host program := by
  obtain ⟨declared, collecting, loaded⟩ := ExceptRun.bind_ok.mp loaded
  obtain ⟨checks, same⟩ := ExceptRun.check_ok.mp loaded
  cases same
  have collected := declareServices_collected .empty collecting
  refine ⟨collected.services_nodup, ?_, ?_, ?_⟩
  · intro service member
    exact Option.isSome_iff_exists.mp ((collected.state_iff service).mpr member)
  · intro service state found
    exact (collected.state_iff service).mp (by simp [found])
  · intro service msgType plan found
    have entry := AList.mem_lookup_iff.mp found
    exact checkHandler_checked collected (ExceptRun.forM_ok.mp checks _ entry)

theorem loadProgram_accepted {src : String} {program : Program}
    (loaded : loadProgram host src = .ok program) : Accepted host program := by
  unfold loadProgram at loaded
  split at loaded
  · cases loaded
  · exact loadModule_accepted loaded

end

/-! ## A sample program -/

def sampleSource : String :=
  "service Gateway\nstate n = 0\non start\neffects state_write send_remote timer_local\n" ++
    "inc n\nsend remote peers Gateway ping \"$text\"\ntimer 1 Gateway tick \"t\"\n" ++
    "on ping\neffects log\nlog \"pong\"\n"

def sampleProgram : Program :=
  { services := ["Gateway"]
    serviceInitialState :=
      AList.insert "Gateway" (AList.insert "n" 0 ∅) ∅
    handlers :=
      AList.insert ("Gateway", "ping") { actions := [.log "pong"], declaredEffects := [.log] }
        (AList.insert ("Gateway", "start")
          { actions :=
              [.incState "n" 1, .sendRemote .peers "Gateway" "ping" "$text",
                .timerLocal 1 "Gateway" "tick" "t"]
            declaredEffects := [.stateWrite, .sendRemote, .timerLocal] } ∅) }

/-- A message that starts the sample program. -/
def sampleStart : RuntimeMessage :=
  { msgType := "start"
    fromNode := UuidText.print 7
    fromService := "System"
    text := "hi"
    provenance := none }

theorem sampleProgram_loaded : loadProgram jsonHost sampleSource = .ok sampleProgram := by
  decide +kernel

end UcoStack.Runtime
