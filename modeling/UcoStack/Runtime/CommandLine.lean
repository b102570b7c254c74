import UcoStack.Lang.Writer
import UcoStack.Runtime.FaultPhases
import UcoStack.Runtime.JsonHost

/-!
# The command line of the runtime

`parse_config` reads options one after the other into the settings of a run, then sorts
and validates the fault phases.  The settings that some command line yields are exactly
the valid ones: `Settings.options` writes a command line for each of them.
-/

namespace UcoStack.Runtime

open UcoStack.Lang ExceptRun

/-- All settings, with those that only concern files, sockets and waiting. -/
structure Settings extends Config where
  mode : Mode
  tracePath : String
  programPath : String
  listen : Option String
  idleSleepMs : Nat
  startupWaitMs : Nat

/-- The rejections of `parse_config`. -/
inductive ConfigError where
  | unknownArgument (argument : String)
  | missingValue (option : String)
  | invalidValue (option value : String)
  | belowOne (option : String)
  | peerFormat (spec : String)
  | peerNode (node : String)
  | phaseFormat (spec : String)
  | phaseField (field value : String)
  | phases (error : PhaseError)
  deriving DecidableEq, Repr

def ConfigError.message : ConfigError → String
  | .unknownArgument argument => s!"unknown argument: {argument}"
  | .missingValue option => s!"missing value for {option}"
  | .invalidValue option value => s!"invalid {option} value `{value}`"
  | .belowOne option => s!"{option} must be >= 1"
  | .peerFormat spec => s!"invalid peer format `{spec}`, expected <uuid=host:port>"
  | .peerNode node => s!"invalid peer node id `{node}`"
  | .phaseFormat spec =>
      s!"invalid --fault-phase `{spec}`; " ++
        "expected <start:end:drop_every:delay_steps:reorder_window>"
  | .phaseField field value => s!"invalid --fault-phase {field} `{value}`"
  | .phases error => error.message

/-! ## Values -/

/-- Rust's `split_once` at a character. -/
def splitOnce (separator : Char) (text : String) : Option (String × String) :=
  match text.toList.span (· ≠ separator) with
  | (_, []) => none
  | (before, _ :: after) => some (String.ofList before, String.ofList after)

/-- A `u64`; a `usize` has the same range. -/
def parseNumber (rejection : ConfigError) (value : String) : Except ConfigError Nat :=
  match parseU64 value with
  | some n => .ok n
  | none => .error rejection

def requireOne (option : String) (n : Nat) : Except ConfigError Nat :=
  if n = 0 then .error (.belowOne option) else .ok n

/-- Zero switches the drops off. -/
def dropEveryOf (n : Nat) : Option Nat := if n = 0 then none else some n

section Parsing

variable {V : Type} (host : Host V)

def parsePeerSpec (spec : String) : Except ConfigError (Uuid × String) :=
  match splitOnce '=' spec with
  | none => .error (.peerFormat spec)
  | some (node, addr) =>
      match host.uuidParse node with
      | none => .error (.peerNode node)
      | some node => .ok (node, addr)

def parseEndStep (value : String) : Except ConfigError (Option Nat) :=
  if value = "*" then .ok none
  else (parseNumber (.phaseField "end step" value) value).map some

def parseFaultPhaseSpec (spec : String) : Except ConfigError FaultPhase :=
  match (spec.toList.splitOn ':').map String.ofList with
  | [start, last, drop, delay, window] => do
      let startStep ← parseNumber (.phaseField "start step" start) start
      let endStep ← parseEndStep last
      let dropEveryRaw ← parseNumber (.phaseField "drop_every" drop) drop
      let delaySteps ← parseNumber (.phaseField "delay_steps" delay) delay
      let reorderWindow ← parseNumber (.phaseField "reorder_window" window) window
      let reorderWindow ← requireOne "--fault-phase reorder_window" reorderWindow
      pure ⟨startStep, endStep, dropEveryOf dropEveryRaw, delaySteps, reorderWindow⟩
  | _ => .error (.phaseFormat spec)

/-! ## Options -/

/-- The settings before the first option; `fresh` is the random node id. -/
def Settings.default (fresh : Uuid) : Settings where
  nodeId := fresh
  peers := ∅
  bootstrapHello := false
  bootstrapBurst := 1
  steps := 40
  fault := .default
  mode := .record
  tracePath := "trace.jsonl"
  programPath := "programs/distributed_services.uco"
  listen := none
  idleSleepMs := 0
  startupWaitMs := 0

/-- What an option does with its value, for the options that take one. -/
def valueOption (cfg : Settings) : String → Option (String → Except ConfigError Settings)
  | "--program" => some fun value => .ok { cfg with programPath := value }
  | "--trace" => some fun value => .ok { cfg with tracePath := value }
  | "--node-id" => some fun value =>
      match host.uuidParse value with
      | none => .error (.invalidValue "--node-id" value)
      | some nodeId => .ok { cfg with nodeId := nodeId }
  | "--listen" => some fun value => .ok { cfg with listen := some value }
  | "--peer" => some fun value => do
      let (peerId, addr) ← parsePeerSpec host value
      pure { cfg with peers := cfg.peers.insert peerId addr }
  | "--bootstrap-burst" => some fun value => do
      let parsed ← parseNumber (.invalidValue "--bootstrap-burst" value) value
      let burst ← requireOne "--bootstrap-burst" parsed
      pure { cfg with bootstrapBurst := burst }
  | "--steps" => some fun value => do
      let parsed ← parseNumber (.invalidValue "--steps" value) value
      pure { cfg with steps := parsed }
  | "--idle-sleep-ms" => some fun value => do
      let parsed ← parseNumber (.invalidValue "--idle-sleep-ms" value) value
      pure { cfg with idleSleepMs := parsed }
  | "--startup-wait-ms" => some fun value => do
      let parsed ← parseNumber (.invalidValue "--startup-wait-ms" value) value
      pure { cfg with startupWaitMs := parsed }
  | "--fault-drop-every" => some fun value => do
      let parsed ← parseNumber (.invalidValue "--fault-drop-every" value) value
      pure { cfg with fault := { cfg.fault with dropEvery := dropEveryOf parsed } }
  | "--fault-delay-steps" => some fun value => do
      let parsed ← parseNumber (.invalidValue "--fault-delay-steps" value) value
      pure { cfg with fault := { cfg.fault with delaySteps := parsed } }
  | "--fault-reorder-window" => some fun value => do
      let parsed ← parseNumber (.invalidValue "--fault-reorder-window" value) value
      let window ← requireOne "--fault-reorder-window" parsed
      pure { cfg with fault := { cfg.fault with reorderWindow := window } }
  | "--fault-phase" => some fun value => do
      let phase ← parseFaultPhaseSpec value
      pure { cfg with fault := { cfg.fault with phases := cfg.fault.phases ++ [phase] } }
  | _ => none

/-- The loop over the arguments.  The result is `none` if the usage is printed instead. -/
def parseArgs : List String → Settings → Except ConfigError (Option Settings)
  | [], cfg => .ok (some cfg)
  | "--help" :: _, _ => .ok none
  | "-h" :: _, _ => .ok none
  | "--replay" :: rest, cfg => parseArgs rest { cfg with mode := .replay }
  | "--bootstrap-hello" :: rest, cfg => parseArgs rest { cfg with bootstrapHello := true }
  | option :: rest, cfg =>
      match valueOption host cfg option with
      | none => .error (.unknownArgument option)
      | some set =>
          match rest with
          | [] => .error (.missingValue option)
          | value :: rest => do
              let cfg ← set value
              parseArgs rest cfg

/-- The first argument is the name of the program. -/
def parseConfig (fresh : Uuid) (args : List String) : Except ConfigError (Option Settings) := do
  match ← parseArgs host (args.drop 1) (.default fresh) with
  | none => pure none
  | some cfg =>
      let fault ← cfg.fault.sortAndValidatePhases.mapError .phases
      pure (some { cfg with fault := fault })

end Parsing

/-! ## Valid settings -/

def IsU64 (n : Nat) : Prop := n < 2 ^ 64

def IsCount (n : Nat) : Prop := 1 ≤ n ∧ IsU64 n

instance (n : Nat) : Decidable (IsU64 n) := inferInstanceAs (Decidable (n < 2 ^ 64))

instance (n : Nat) : Decidable (IsCount n) := inferInstanceAs (Decidable (1 ≤ n ∧ IsU64 n))

structure FaultPolicy.Valid (policy : FaultPolicy) : Prop where
  dropEvery : ∀ n, policy.dropEvery = some n → IsCount n
  delaySteps : IsU64 policy.delaySteps
  reorderWindow : IsCount policy.reorderWindow

structure FaultPhase.Valid (phase : FaultPhase) : Prop where
  startStep : IsU64 phase.startStep
  endStep : ∀ last, phase.endStep = some last → IsU64 last
  policy : phase.policy.Valid

/-- What every option keeps. -/
structure Settings.InRange (cfg : Settings) : Prop where
  bootstrapBurst : IsCount cfg.bootstrapBurst
  steps : IsU64 cfg.steps
  idleSleepMs : IsU64 cfg.idleSleepMs
  startupWaitMs : IsU64 cfg.startupWaitMs
  basePolicy : cfg.fault.basePolicy.Valid
  phases : ∀ phase ∈ cfg.fault.phases, phase.Valid

/-- The settings a run may have. -/
structure Settings.Valid (cfg : Settings) : Prop extends Settings.InRange cfg where
  timetable : Timetable cfg.fault.phases
  sorted : cfg.fault.phases.Pairwise fun left right => left.startStep ≤ right.startStep

section Reading

variable {V : Type} {host : Host V}

theorem parseNumber_eq_ok {rejection : ConfigError} {value : String} {n : Nat} :
    parseNumber rejection value = .ok n ↔ parseU64 value = some n := by
  unfold parseNumber
  cases parseU64 value with
  | none => exact ⟨fun failed => (by cases failed), fun failed => (by cases failed)⟩
  | some read => exact ⟨fun same => (by cases same; rfl), fun same => (by cases same; rfl)⟩

theorem parseNumber_yields (rejection : ConfigError) (value : String) :
    Yields (parseNumber rejection value) IsU64 fun _ => True := by
  unfold parseNumber
  cases reads : parseU64 value with
  | none => exact .error trivial
  | some n => exact .ok (parseU64_range reads)

theorem requireOne_yields (option : String) {n : Nat} (range : IsU64 n) :
    Yields (requireOne option n) IsCount fun _ => True := by
  unfold requireOne
  by_cases zero : n = 0
  · rw [if_pos zero]
    exact .error trivial
  · rw [if_neg zero]
    exact .ok ⟨Nat.one_le_iff_ne_zero.mpr zero, range⟩

theorem dropEveryOf_count {raw : Nat} (range : IsU64 raw) :
    ∀ n, dropEveryOf raw = some n → IsCount n := by
  intro n same
  unfold dropEveryOf at same
  split at same
  · cases same
  · rename_i nonzero
    cases same
    exact ⟨Nat.one_le_iff_ne_zero.mpr nonzero, range⟩

theorem parseEndStep_yields (value : String) :
    Yields (parseEndStep value) (fun endStep => ∀ last, endStep = some last → IsU64 last)
      fun _ => True := by
  unfold parseEndStep
  split
  · refine .ok ?_
    rintro _ ⟨⟩
  · refine ⟨?_, fun _ _ => trivial⟩
    intro endStep read
    have reads := (parseNumber_yields (.phaseField "end step" value) value).1
    cases parsed : parseNumber (.phaseField "end step" value) value with
    | error error =>
        rw [parsed] at read
        cases read
    | ok n =>
        rw [parsed] at read
        cases read
        rintro _ ⟨⟩
        exact reads n parsed

theorem parseFaultPhaseSpec_yields (spec : String) :
    Yields (parseFaultPhaseSpec spec) FaultPhase.Valid fun _ => True := by
  unfold parseFaultPhaseSpec
  split
  · refine (parseNumber_yields _ _).bind fun startStep startRange => ?_
    refine (parseEndStep_yields _).bind fun endStep endRange => ?_
    refine (parseNumber_yields _ _).bind fun dropEveryRaw dropRange => ?_
    refine (parseNumber_yields _ _).bind fun delaySteps delayRange => ?_
    refine (parseNumber_yields _ _).bind fun window windowRange => ?_
    refine (requireOne_yields _ windowRange).bind fun reorderWindow count => ?_
    exact .ok ⟨startRange, endRange, dropEveryOf_count dropRange, delayRange, count⟩
  · exact .error trivial

theorem Settings.default_inRange (fresh : Uuid) : (Settings.default fresh).InRange := by
  have numbers : IsCount 1 ∧ IsU64 40 ∧ IsU64 0 := by decide
  obtain ⟨one, forty, zero⟩ := numbers
  refine ⟨one, forty, zero, zero, ⟨?_, zero, one⟩, ?_⟩
  · rintro _ ⟨⟩
  · rintro _ ⟨⟩

/-- The step lemma. -/
theorem valueOption_inRange {cfg : Settings} (inRange : cfg.InRange) {option : String}
    {set : String → Except ConfigError Settings} (known : valueOption host cfg option = some set)
    (value : String) : Yields (set value) Settings.InRange fun _ => True := by
  obtain ⟨burst, steps, idle, startup, base, phases⟩ := inRange
  unfold valueOption at known
  split at known
  · cases known
    exact .ok ⟨burst, steps, idle, startup, base, phases⟩
  · cases known
    exact .ok ⟨burst, steps, idle, startup, base, phases⟩
  · cases known
    dsimp only
    split
    · exact .error trivial
    · exact .ok ⟨burst, steps, idle, startup, base, phases⟩
  · cases known
    exact .ok ⟨burst, steps, idle, startup, base, phases⟩
  · cases known
    have peer : Yields (parsePeerSpec host value) (fun _ => True) fun _ => True :=
      ⟨fun _ _ => trivial, fun _ _ => trivial⟩
    exact peer.bind fun _ _ => .ok ⟨burst, steps, idle, startup, base, phases⟩
  · cases known
    refine (parseNumber_yields _ _).bind fun parsed range => ?_
    exact (requireOne_yields _ range).bind fun _ count =>
      .ok ⟨count, steps, idle, startup, base, phases⟩
  · cases known
    exact (parseNumber_yields _ _).bind fun _ range =>
      .ok ⟨burst, range, idle, startup, base, phases⟩
  · cases known
    exact (parseNumber_yields _ _).bind fun _ range =>
      .ok ⟨burst, steps, range, startup, base, phases⟩
  · cases known
    exact (parseNumber_yields _ _).bind fun _ range =>
      .ok ⟨burst, steps, idle, range, base, phases⟩
  · cases known
    exact (parseNumber_yields _ _).bind fun _ range => .ok ⟨burst, steps, idle, startup,
      ⟨dropEveryOf_count range, base.delaySteps, base.reorderWindow⟩, phases⟩
  · cases known
    exact (parseNumber_yields _ _).bind fun _ range => .ok ⟨burst, steps, idle, startup,
      ⟨base.dropEvery, range, base.reorderWindow⟩, phases⟩
  · cases known
    refine (parseNumber_yields _ _).bind fun parsed range => ?_
    exact (requireOne_yields _ range).bind fun _ count => .ok ⟨burst, steps, idle, startup,
      ⟨base.dropEvery, base.delaySteps, count⟩, phases⟩
  · cases known
    refine (parseFaultPhaseSpec_yields _).bind fun phase valid => ?_
    refine .ok ⟨burst, steps, idle, startup, base, fun other member => ?_⟩
    rcases List.mem_append.mp member with before | last
    · exact phases other before
    · cases List.mem_singleton.mp last
      exact valid
  · cases known

/-- The run lemma. -/
theorem parseArgs_inRange {args : List String} {cfg final : Settings} (inRange : cfg.InRange)
    (parsed : parseArgs host args cfg = .ok (some final)) : final.InRange := by
  induction args, cfg using parseArgs.induct host with
  | case1 cfg =>
      cases parsed
      exact inRange
  | case2 => cases parsed
  | case3 => cases parsed
  | case4 rest cfg ih =>
      obtain ⟨burst, steps, idle, startup, base, phases⟩ := inRange
      exact ih ⟨burst, steps, idle, startup, base, phases⟩ parsed
  | case5 rest cfg ih =>
      obtain ⟨burst, steps, idle, startup, base, phases⟩ := inRange
      exact ih ⟨burst, steps, idle, startup, base, phases⟩ parsed
  | case6 option rest cfg noHelp noShort noReplay noHello unknown =>
      rw [parseArgs, unknown] at parsed
      · cases parsed
      all_goals assumption
  | case7 option cfg noHelp noShort noReplay noHello set known =>
      rw [parseArgs, known] at parsed
      · cases parsed
      all_goals assumption
  | case8 option cfg noHelp noShort noReplay noHello set known value rest ih =>
      rw [parseArgs, known] at parsed
      · obtain ⟨next, sets, later⟩ := bind_ok.mp parsed
        exact ih next ((valueOption_inRange inRange known value).1 next sets) later
      all_goals assumption

theorem parseConfig_valid {fresh : Uuid} {args : List String} {cfg : Settings}
    (parsed : parseConfig host fresh args = .ok (some cfg)) : cfg.Valid := by
  obtain ⟨result, read, parsed⟩ := bind_ok.mp parsed
  cases result with
  | none => cases parsed
  | some before =>
      obtain ⟨fault, checks, same⟩ := bind_ok.mp parsed
      cases same
      have inRange := parseArgs_inRange (Settings.default_inRange fresh) read
      have sortable : before.fault.sortAndValidatePhases = .ok fault := by
        cases sorts : before.fault.sortAndValidatePhases with
        | error error =>
            rw [sorts] at checks
            cases checks
        | ok sorted =>
            rw [sorts] at checks
            cases checks
            rfl
      obtain ⟨timetable, rfl⟩ := FaultConfig.sortAndValidatePhases_eq_ok.mp sortable
      have perm := before.fault.sortedPhases_perm
      exact
        { bootstrapBurst := inRange.bootstrapBurst
          steps := inRange.steps
          idleSleepMs := inRange.idleSleepMs
          startupWaitMs := inRange.startupWaitMs
          basePolicy := inRange.basePolicy
          phases := fun phase member => inRange.phases phase (perm.mem_iff.mp member)
          timetable := timetable.perm perm
          sorted := before.fault.sortedPhases_sorted }

end Reading

/-! ## Writing settings -/

section Writing

variable {V : Type} (host : Host V)

def writeNumber (n : Nat) : String := toString (Int.ofNat n)

def writePeer (peer : Sigma fun _ : Uuid => String) : String :=
  host.uuidToString peer.1 ++ "=" ++ peer.2

def FaultPhase.fields (phase : FaultPhase) : List String :=
  [writeNumber phase.startStep, (phase.endStep.map writeNumber).getD "*",
    writeNumber (phase.policy.dropEvery.getD 0), writeNumber phase.policy.delaySteps,
    writeNumber phase.policy.reorderWindow]

def FaultPhase.spec (phase : FaultPhase) : String :=
  String.ofList ([':'].intercalate (phase.fields.map String.toList))

/-- The options without a value. -/
def Settings.flags (cfg : Settings) : List String :=
  (if cfg.mode = .replay then ["--replay"] else []) ++
    if cfg.bootstrapHello then ["--bootstrap-hello"] else []

/-- The options with their values. -/
def Settings.options (cfg : Settings) : List (String × String) :=
  [("--program", cfg.programPath), ("--trace", cfg.tracePath),
    ("--node-id", host.uuidToString cfg.nodeId)] ++
  cfg.listen.toList.map (fun addr => ("--listen", addr)) ++
  cfg.peers.entries.reverse.map (fun peer => ("--peer", writePeer host peer)) ++
  [("--bootstrap-burst", writeNumber cfg.bootstrapBurst), ("--steps", writeNumber cfg.steps),
    ("--idle-sleep-ms", writeNumber cfg.idleSleepMs),
    ("--startup-wait-ms", writeNumber cfg.startupWaitMs),
    ("--fault-drop-every", writeNumber (cfg.fault.dropEvery.getD 0)),
    ("--fault-delay-steps", writeNumber cfg.fault.delaySteps),
    ("--fault-reorder-window", writeNumber cfg.fault.reorderWindow)] ++
  cfg.fault.phases.map fun phase => ("--fault-phase", phase.spec)

/-- A command line for these settings. -/
def Settings.commandLine (cfg : Settings) : List String :=
  "runtime" :: cfg.flags ++ (cfg.options host).flatMap fun entry => [entry.1, entry.2]

/-- One option with its value. -/
def setOption (cfg : Settings) (entry : String × String) : Except ConfigError Settings :=
  match valueOption host cfg entry.1 with
  | none => .error (.unknownArgument entry.1)
  | some set => set entry.2

variable {host}

theorem parseNumber_write {n : Nat} (range : IsU64 n) (rejection : ConfigError) :
    parseNumber rejection (writeNumber n) = .ok n := by
  rw [parseNumber, writeNumber, parseU64_toString range]

theorem requireOne_count {n : Nat} (count : IsCount n) (option : String) :
    requireOne option n = .ok n :=
  if_neg (Nat.one_le_iff_ne_zero.mp count.1)

theorem dropEveryOf_getD {every : Option Nat} (counts : ∀ n, every = some n → IsCount n) :
    dropEveryOf (every.getD 0) = every := by
  cases every with
  | none => rfl
  | some n => exact if_neg (Nat.one_le_iff_ne_zero.mp (counts n rfl).1)

theorem getD_isU64 {every : Option Nat} (counts : ∀ n, every = some n → IsCount n) :
    IsU64 (every.getD 0) := by
  cases every with
  | none =>
      unfold IsU64
      decide
  | some n => exact (counts n rfl).2

/-- A written number has only digits. -/
theorem writeNumber_digits (n : Nat) : ∀ c ∈ (writeNumber n).toList, c.isDigit = true := by
  intro c member
  rw [writeNumber, chars_ofNat] at member
  exact Nat.isDigit_of_mem_toDigits (by decide) (by decide) member

theorem parseEndStep_write {endStep : Option Nat}
    (range : ∀ last, endStep = some last → IsU64 last) :
    parseEndStep ((endStep.map writeNumber).getD "*") = .ok endStep := by
  cases endStep with
  | none => rfl
  | some last =>
      have digits : writeNumber last ≠ "*" := by
        intro same
        have digit := writeNumber_digits last '*' (by rw [same]; decide)
        cases digit
      rw [Option.map_some, Option.getD_some, parseEndStep, if_neg digits,
        parseNumber_write (range last rfl)]
      rfl

/-- A phase is read back. -/
theorem parseFaultPhaseSpec_spec {phase : FaultPhase} (valid : phase.Valid) :
    parseFaultPhaseSpec phase.spec = .ok phase := by
  have plain : ∀ field ∈ phase.fields.map String.toList, ':' ∉ field := by
    have number (n : Nat) : ':' ∉ (writeNumber n).toList := by
      intro member
      cases writeNumber_digits n ':' member
    have last : ':' ∉ ((phase.endStep.map writeNumber).getD "*").toList := by
      cases phase.endStep with
      | none => decide
      | some n => exact number n
    intro field member
    simp only [FaultPhase.fields, List.map_cons, List.map_nil, List.mem_cons, List.not_mem_nil,
      or_false] at member
    rcases member with rfl | rfl | rfl | rfl | rfl
    · exact number _
    · exact last
    · exact number _
    · exact number _
    · exact number _
  have fields : (phase.spec.toList.splitOn ':').map String.ofList = phase.fields := by
    rw [FaultPhase.spec, String.toList_ofList, List.splitOn_intercalate ':' plain (by simp
      [FaultPhase.fields]), List.map_map]
    exact (List.map_congr_left fun text _ => String.ofList_toList).trans (List.map_id _)
  unfold parseFaultPhaseSpec
  rw [fields, FaultPhase.fields]
  dsimp only
  rw [parseNumber_write valid.startStep, parseEndStep_write valid.endStep,
    parseNumber_write (getD_isU64 valid.policy.dropEvery),
    parseNumber_write valid.policy.delaySteps, parseNumber_write valid.policy.reorderWindow.2]
  change (requireOne _ phase.policy.reorderWindow >>= fun reorderWindow => _) = _
  rw [requireOne_count valid.policy.reorderWindow, dropEveryOf_getD valid.policy.dropEvery]
  rfl

/-- A peer is read back, as identifiers are written without an equals sign. -/
theorem parsePeerSpec_write (lawful : host.Lawful)
    (plain : ∀ id, '=' ∉ (host.uuidToString id).toList)
    (peer : Sigma fun _ : Uuid => String) :
    parsePeerSpec host (writePeer host peer) = .ok (peer.1, peer.2) := by
  have split : splitOnce '=' (writePeer host peer) =
      some (host.uuidToString peer.1, peer.2) := by
    have text : (writePeer host peer).toList =
        (host.uuidToString peer.1).toList ++ '=' :: peer.2.toList := by
      rw [writePeer, String.toList_append, String.toList_append, List.append_assoc]
      rfl
    have keep : ∀ c ∈ (host.uuidToString peer.1).toList, decide (c ≠ '=') = true := by
      intro c member
      refine decide_eq_true ?_
      rintro rfl
      exact plain peer.1 member
    rw [splitOnce, text, List.span_eq_takeWhile_dropWhile, List.takeWhile_append_of_pos keep,
      List.dropWhile_append_of_pos keep]
    simp
  rw [parsePeerSpec, split]
  dsimp only
  rw [lawful.parse_toString]

/-- The options that take no value. -/
def flagNames : List String := ["--help", "-h", "--replay", "--bootstrap-hello"]

/-- One iteration on an option with its value. -/
theorem parseArgs_option {entry : String × String} (valued : entry.1 ∉ flagNames)
    (rest : List String) (cfg : Settings) :
    parseArgs host (entry.1 :: entry.2 :: rest) cfg =
      setOption host cfg entry >>= parseArgs host rest := by
  obtain ⟨option, value⟩ := entry
  have other (flag : String) (isFlag : flag ∈ flagNames) : option = flag → False := by
    rintro rfl
    exact valued isFlag
  rw [parseArgs, setOption]
  · cases known : valueOption host cfg option with
    | none => rfl
    | some set => rfl
  all_goals
    apply other
    decide

theorem parseArgs_options {entries : List (String × String)}
    (valued : ∀ entry ∈ entries, entry.1 ∉ flagNames) (cfg : Settings) :
    parseArgs host (entries.flatMap fun entry => [entry.1, entry.2]) cfg =
      (entries.foldlM (setOption host) cfg).map some := by
  induction entries generalizing cfg with
  | nil => rfl
  | cons entry rest ih =>
      obtain ⟨first, others⟩ := List.forall_mem_cons.mp valued
      change parseArgs host (entry.1 :: entry.2 :: rest.flatMap _) cfg = _
      rw [parseArgs_option first, List.foldlM_cons]
      cases setOption host cfg entry with
      | error error => rfl
      | ok next => exact ih others next

theorem setOption_cons {entry : String × String} {rest : List (String × String)}
    {cfg next final : Settings} (first : setOption host cfg entry = .ok next)
    (others : rest.foldlM (setOption host) next = .ok final) :
    (entry :: rest).foldlM (setOption host) cfg = .ok final := by
  rw [List.foldlM_cons]
  exact bind_ok.mpr ⟨next, first, others⟩

theorem setOption_append {entries rest : List (String × String)} {cfg next final : Settings}
    (first : entries.foldlM (setOption host) cfg = .ok next)
    (others : rest.foldlM (setOption host) next = .ok final) :
    (entries ++ rest).foldlM (setOption host) cfg = .ok final := by
  rw [List.foldlM_append]
  exact bind_ok.mpr ⟨next, first, others⟩

theorem setOption_peers (lawful : host.Lawful)
    (plain : ∀ id, '=' ∉ (host.uuidToString id).toList) {cfg : Settings} (none : cfg.peers = ∅)
    (peers : PeerMap) :
    (peers.entries.reverse.map fun peer => ("--peer", writePeer host peer)).foldlM
      (setOption host) cfg = .ok { cfg with peers := peers } := by
  induction peers using AList.insertRec with
  | H0 =>
      obtain ⟨⟨nodeId, peers, hello, burst, steps, fault⟩, mode, trace, program, listen, idle,
        startup⟩ := cfg
      cases none
      rfl
  | IH id addr before fresh ih =>
      rw [AList.entries_insert_of_notMem fresh, List.reverse_cons, List.map_append]
      refine setOption_append ih (setOption_cons ?_ rfl)
      change (parsePeerSpec host (writePeer host ⟨id, addr⟩) >>= fun peer => _) = _
      rw [parsePeerSpec_write lawful plain]
      rfl

theorem setOption_phases {phases : List FaultPhase} (valid : ∀ phase ∈ phases, phase.Valid)
    (cfg : Settings) :
    (phases.map fun phase => ("--fault-phase", phase.spec)).foldlM (setOption host) cfg =
      .ok { cfg with fault := { cfg.fault with phases := cfg.fault.phases ++ phases } } := by
  induction phases generalizing cfg with
  | nil =>
      rw [List.append_nil]
      rfl
  | cons phase rest ih =>
      obtain ⟨first, others⟩ := List.forall_mem_cons.mp valid
      let next : Settings :=
        { cfg with fault := { cfg.fault with phases := cfg.fault.phases ++ [phase] } }
      have step : setOption host cfg ("--fault-phase", phase.spec) = .ok next := by
        change (parseFaultPhaseSpec phase.spec >>= fun phase => _) = _
        rw [parseFaultPhaseSpec_spec first]
        rfl
      rw [List.append_cons]
      exact setOption_cons step (ih others next)

/-- An option whose value is a number. -/
theorem setOption_number {n : Nat} (range : IsU64 n) {option : String}
    {use : Nat → Except ConfigError Settings} {cfg next : Settings}
    (known : valueOption host cfg option =
      some fun value => parseNumber (.invalidValue option value) value >>= use)
    (used : use n = .ok next) : setOption host cfg (option, writeNumber n) = .ok next := by
  rw [setOption, known]
  exact bind_ok.mpr ⟨n, parseNumber_write range _, used⟩

theorem setOption_numbers {cfg : Settings} (inRange : cfg.InRange) (base : Settings) :
    [("--bootstrap-burst", writeNumber cfg.bootstrapBurst), ("--steps", writeNumber cfg.steps),
      ("--idle-sleep-ms", writeNumber cfg.idleSleepMs),
      ("--startup-wait-ms", writeNumber cfg.startupWaitMs),
      ("--fault-drop-every", writeNumber (cfg.fault.dropEvery.getD 0)),
      ("--fault-delay-steps", writeNumber cfg.fault.delaySteps),
      ("--fault-reorder-window", writeNumber cfg.fault.reorderWindow)].foldlM
      (setOption host) base =
    .ok { base with
      bootstrapBurst := cfg.bootstrapBurst
      steps := cfg.steps
      idleSleepMs := cfg.idleSleepMs
      startupWaitMs := cfg.startupWaitMs
      fault := { cfg.fault with phases := base.fault.phases } } := by
  obtain ⟨burst, steps, idle, startup, ⟨every, delay, window⟩, _⟩ := inRange
  have fault : { cfg.fault with phases := base.fault.phases } =
      (⟨dropEveryOf (cfg.fault.dropEvery.getD 0), cfg.fault.delaySteps, cfg.fault.reorderWindow,
        base.fault.phases⟩ : FaultConfig) := by
    have everyth : dropEveryOf (cfg.fault.dropEvery.getD 0) = cfg.fault.dropEvery :=
      dropEveryOf_getD every
    rw [everyth]
  rw [fault]
  refine setOption_cons (setOption_number burst.2 rfl
    (bind_ok.mpr ⟨_, requireOne_count burst _, rfl⟩)) ?_
  refine setOption_cons (setOption_number steps rfl rfl) ?_
  refine setOption_cons (setOption_number idle rfl rfl) ?_
  refine setOption_cons (setOption_number startup rfl rfl) ?_
  refine setOption_cons (setOption_number (getD_isU64 every) rfl rfl) ?_
  refine setOption_cons (setOption_number delay rfl rfl) ?_
  refine setOption_cons (setOption_number window.2 rfl
    (bind_ok.mpr ⟨_, requireOne_count window _, rfl⟩)) ?_
  rfl

theorem setOption_options (lawful : host.Lawful)
    (plain : ∀ id, '=' ∉ (host.uuidToString id).toList) {cfg : Settings} (inRange : cfg.InRange)
    (fresh : Uuid) :
    (cfg.options host).foldlM (setOption host)
      { Settings.default fresh with mode := cfg.mode, bootstrapHello := cfg.bootstrapHello } =
        .ok cfg := by
  let start : Settings :=
    { Settings.default fresh with mode := cfg.mode, bootstrapHello := cfg.bootstrapHello }
  let traced : Settings :=
    { start with programPath := cfg.programPath, tracePath := cfg.tracePath }
  let named : Settings := { traced with nodeId := cfg.nodeId }
  have program : setOption host start ("--program", cfg.programPath) =
      .ok { start with programPath := cfg.programPath } := rfl
  have trace : setOption host { start with programPath := cfg.programPath }
      ("--trace", cfg.tracePath) = .ok traced := rfl
  have node : setOption host traced ("--node-id", host.uuidToString cfg.nodeId) = .ok named := by
    rw [setOption, valueOption]
    dsimp only
    rw [lawful.parse_toString]
  have names : [("--program", cfg.programPath), ("--trace", cfg.tracePath),
      ("--node-id", host.uuidToString cfg.nodeId)].foldlM (setOption host) start = .ok named :=
    setOption_cons program (setOption_cons trace (setOption_cons node rfl))
  have listens : (cfg.listen.toList.map fun addr => ("--listen", addr)).foldlM (setOption host)
      named = .ok { named with listen := cfg.listen } := by
    cases cfg.listen with
    | none => rfl
    | some addr => rfl
  have peers := setOption_append (setOption_append names listens)
    (setOption_peers lawful plain rfl cfg.peers)
  exact setOption_append (setOption_append peers (setOption_numbers inRange _))
    (setOption_phases inRange.phases _)

theorem parseArgs_flags (cfg : Settings) (fresh : Uuid) (rest : List String) :
    parseArgs host (cfg.flags ++ rest) (.default fresh) =
      parseArgs host rest { Settings.default fresh with
        mode := cfg.mode, bootstrapHello := cfg.bootstrapHello } := by
  obtain ⟨⟨nodeId, peers, hello, burst, steps, fault⟩, mode, trace, program, listen, idle,
    startup⟩ := cfg
  cases mode with
  | record =>
      cases hello with
      | false => rfl
      | true => rfl
  | replay =>
      cases hello with
      | false => rfl
      | true => rfl

theorem options_valued (cfg : Settings) : ∀ entry ∈ cfg.options host, entry.1 ∉ flagNames := by
  have names : ∀ option ∈ ["--program", "--trace", "--node-id", "--listen", "--peer",
      "--bootstrap-burst", "--steps", "--idle-sleep-ms", "--startup-wait-ms",
      "--fault-drop-every", "--fault-delay-steps", "--fault-reorder-window", "--fault-phase"],
      option ∉ flagNames := by decide
  intro entry member
  refine names entry.1 ?_
  simp only [Settings.options, List.mem_append, List.mem_map, List.mem_cons, List.not_mem_nil,
    or_false] at member
  rcases member with ((((rfl | rfl | rfl) | ⟨_, _, rfl⟩) | ⟨_, _, rfl⟩) |
    (rfl | rfl | rfl | rfl | rfl | rfl | rfl)) | ⟨_, _, rfl⟩
  all_goals simp

/-- Valid settings are read back from their command line. -/
theorem parseConfig_commandLine (lawful : host.Lawful)
    (plain : ∀ id, '=' ∉ (host.uuidToString id).toList) (fresh : Uuid) {cfg : Settings}
    (valid : cfg.Valid) : parseConfig host fresh (cfg.commandLine host) = .ok (some cfg) := by
  have read : parseArgs host ((cfg.commandLine host).drop 1) (.default fresh) =
      .ok (some cfg) := by
    change parseArgs host (cfg.flags ++ (cfg.options host).flatMap _) _ = _
    rw [parseArgs_flags, parseArgs_options (options_valued cfg),
      setOption_options lawful plain valid.toInRange fresh]
    rfl
  have checks : cfg.fault.sortAndValidatePhases = .ok cfg.fault := by
    refine FaultConfig.sortAndValidatePhases_eq_ok.mpr ⟨valid.timetable, ?_⟩
    have same : cfg.fault.sortedPhases = cfg.fault.phases :=
      List.Pairwise.insertionSort_eq valid.sorted
    rw [same]
  rw [parseConfig, read]
  change (cfg.fault.sortAndValidatePhases.mapError ConfigError.phases >>= fun fault => _) = _
  rw [checks]
  rfl

/-- The settings that some command line yields are exactly the valid ones. -/
theorem parseConfig_image (lawful : host.Lawful)
    (plain : ∀ id, '=' ∉ (host.uuidToString id).toList) (fresh : Uuid) (cfg : Settings) :
    (∃ args, parseConfig host fresh args = .ok (some cfg)) ↔ cfg.Valid :=
  ⟨fun ⟨_, parsed⟩ => parseConfig_valid parsed,
    fun valid => ⟨_, parseConfig_commandLine lawful plain fresh valid⟩⟩

theorem print_plain (id : Uuid) : '=' ∉ (UuidText.print id).toList := by
  intro member
  rcases (UuidText.parse_chars (UuidText.parse_print id)).2 _ member with same | digit
  · cases same
  · exact absurd digit (by decide)

/-- The defaults with a peer and a fault phase. -/
def phasedSettings : Settings :=
  { Settings.default 7 with
    peers := AList.insert 9 "127.0.0.1:7002" ∅
    fault := ⟨none, 0, 1, [⟨2, some 5, some 3, 1, 2⟩]⟩ }

theorem phasedSettings_valid : phasedSettings.Valid := by
  have usual := Settings.default_inRange 7
  have policy : (⟨some 3, 1, 2⟩ : FaultPolicy).Valid := by
    refine ⟨?_, by decide, by decide⟩
    rintro _ ⟨⟩
    decide
  refine ⟨⟨usual.bootstrapBurst, usual.steps, usual.idleSleepMs, usual.startupWaitMs,
    usual.basePolicy, ?_⟩, ⟨?_, List.pairwise_singleton _ _⟩, List.pairwise_singleton _ _⟩
  · intro phase member
    rw [List.mem_singleton.mp member]
    refine ⟨by decide, ?_, policy⟩
    rintro _ ⟨⟩
    decide
  · intro phase member
    rw [List.mem_singleton.mp member]
    exact ⟨2, by decide⟩

theorem parseConfig_image_sample :
    phasedSettings.Valid ∧ ∃ args, parseConfig jsonHost 7 args = .ok (some phasedSettings) :=
  ⟨phasedSettings_valid,
    (parseConfig_image jsonHost_lawful print_plain 7 phasedSettings).mpr phasedSettings_valid⟩

end Writing

end UcoStack.Runtime
