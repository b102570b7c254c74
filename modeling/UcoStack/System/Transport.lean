import UcoStack.Runtime.JsonText
import UcoStack.System.Actors

/-!
# Connections between the nodes

The steps of a cluster one at a time: a node takes one envelope after the other from the
channel of its listener until the channel is empty, computes, and opens a connection for
each envelope it sends.  A connection ends early or late, and its reader passes on what
the codec makes of the bytes.  Nodes take such steps in any order, and still every
process gets no further than in a cluster whose iterations are atomic.
-/

namespace UcoStack.System

open UcoStack.Runtime StateRun

/-! ## Single steps -/

/-- Nodes between two system calls, and the connections between them. -/
structure Transport (ι V : Type) where
  process : ι → Process V
  /-- What the current drain has taken from the channel so far. -/
  taken : ι → List (WireEnvelope V)
  /-- What the listener has read and the node has not taken. -/
  channel : ι → List (WireEnvelope V)
  /-- What the node still has to send before it goes on. -/
  pending : ι → List (WireEnvelope V)
  /-- The connections that were opened and not read to their end, by address. -/
  connections : List (String × WireEnvelope V)

section Steps

variable {ι V : Type}

def Transport.initial (host : Host V) (program : Program) (cfgs : ι → Config) : Transport ι V :=
  { process := fun i => .launch host program (cfgs i)
    taken := fun _ => []
    channel := fun _ => []
    pending := fun _ => []
    connections := [] }

variable [DecidableEq ι]

/-- Node `i` is done with a drain and becomes `next`; what it sends is pending. -/
def Transport.finish (t : Transport ι V) (i : ι) (next : Process V) : Transport ι V :=
  { t with
    process := Function.update t.process i next
    taken := Function.update t.taken i []
    pending := Function.update t.pending i
      (t.pending i ++ next.state.sent.drop (t.process i).state.sent.length) }

@[simp] theorem Transport.finish_process_self (t : Transport ι V) (i : ι) (next : Process V) :
    (t.finish i next).process i = next := by
  simp [finish]

theorem Transport.finish_process_of_ne (t : Transport ι V) {i j : ι} (other : j ≠ i)
    (next : Process V) : (t.finish i next).process j = t.process j := by
  simp [finish, other]

/-- `try_recv` hands over the first envelope of the channel. -/
def Transport.take (t : Transport ι V) (i : ι) (env : WireEnvelope V)
    (rest : List (WireEnvelope V)) : Transport ι V :=
  { t with
    taken := Function.update t.taken i (t.taken i ++ [env])
    channel := Function.update t.channel i rest }

/-- `send_envelope` is done with the first pending envelope, and left these connections. -/
def Transport.sendTo (t : Transport ι V) (i : ι) (rest : List (WireEnvelope V))
    (opened : List (String × WireEnvelope V)) : Transport ι V :=
  { t with
    pending := Function.update t.pending i rest
    connections := t.connections ++ opened }

/-- `read_stream` at node `j` is done with a connection. -/
def Transport.pass (t : Transport ι V) (j : ι) (envs : List (WireEnvelope V))
    (others : List (String × WireEnvelope V)) : Transport ι V :=
  { t with
    channel := Function.update t.channel j (t.channel j ++ envs)
    connections := others }

variable [DecidableEq V] (host : Host V) (cfgs : ι → Config) (listens : ι → Option String)
  (codec : JsonCodec (WireEnvelope V))

inductive TransportStep : Transport ι V → Transport ι V → Prop where
  | start {t : Transport ι V} (i : ι) (launched : Launch V) (st : MainState V)
      (starting : t.process i = .starting launched st) :
      TransportStep t (t.finish i (.after launched 0
        (startup host launched.site .record (cfgs i) launched.entryService st)))
  | take {t : Transport ι V} (i : ι) (launched : Launch V) (step : Nat) (st : MainState V)
      (running : t.process i = .running launched step st) (unfinished : step < (cfgs i).steps)
      (allSent : t.pending i = []) (env : WireEnvelope V) (rest : List (WireEnvelope V))
      (front : t.channel i = env :: rest) : TransportStep t (t.take i env rest)
  | iterate {t : Transport ι V} (i : ι) (launched : Launch V) (step : Nat) (st : MainState V)
      (running : t.process i = .running launched step st) (unfinished : step < (cfgs i).steps)
      (allSent : t.pending i = []) (drained : t.channel i = []) :
      TransportStep t (t.finish i (.after launched (step + 1)
        (recordStep host launched.site step (t.taken i) st)))
  | connect {t : Transport ι V} (i : ι) (env : WireEnvelope V) (rest : List (WireEnvelope V))
      (first : t.pending i = env :: rest) (addr : String)
      (known : (cfgs i).peers.lookup env.toNode = some addr) :
      TransportStep t (t.sendTo i rest [(addr, env)])
  | giveUp {t : Transport ι V} (i : ι) (env : WireEnvelope V) (rest : List (WireEnvelope V))
      (first : t.pending i = env :: rest) : TransportStep t (t.sendTo i rest [])
  | read {t : Transport ι V} (j : ι) (addr : String) (env : WireEnvelope V)
      (before after : List (String × WireEnvelope V))
      (opened : t.connections = before ++ (addr, env) :: after) (accepts : listens j = some addr)
      (stream : List UInt8) (cut : stream <+: envelopeBytes codec env) :
      TransportStep t (t.pass j (readStream codec stream).1 (before ++ after))

/-- The states that the nodes and connections can get into. -/
inductive Transport.Reachable (program : Program) : Transport ι V → Prop where
  | initial : Transport.Reachable program (.initial host program cfgs)
  | step {t t' : Transport ι V} (reached : Transport.Reachable program t)
      (next : TransportStep host cfgs listens codec t t') : Transport.Reachable program t'

end Steps

/-! ## A drain ignores the envelopes of others -/

section Drains

variable {V : Type}

/-- A drain ingests the envelopes for the node. -/
theorem ingest_own (nodeId : NodeId) (step : Nat) (batch : List (WireEnvelope V)) :
    (batch.forM fun env => if env.toNode ≠ nodeId then pure () else ingest nodeId step env) =
      ((ownEnvelopes nodeId batch).forM fun env =>
        if env.toNode ≠ nodeId then pure () else ingest nodeId step env : MainM V Unit) := by
  induction batch with
  | nil => rfl
  | cons env rest ih =>
      rw [List.forM, ih]
      by_cases own : env.toNode = nodeId
      · have keeps : ownEnvelopes nodeId (env :: rest) = env :: ownEnvelopes nodeId rest :=
          List.filter_cons_of_pos (decide_eq_true own)
        rw [keeps, List.forM]
      · have skips : ownEnvelopes nodeId (env :: rest) = ownEnvelopes nodeId rest :=
          List.filter_cons_of_neg (mt of_decide_eq_true own)
        rw [skips, if_pos own]
        rfl

theorem recordStep_own [DecidableEq V] (host : Host V) (site : Site) (step : Nat)
    (batch : List (WireEnvelope V)) :
    recordStep host site step batch =
      recordStep host site step (ownEnvelopes site.nodeId batch) := by
  rw [recordStep, recordStep, drainNetwork, drainNetwork, ingest_own]

end Drains

/-! ## The processes -/

section Processes

variable {V : Type} [DecidableEq V] {host : Host V} {program : Program} {cfg : Config}
  {arrived : List (WireEnvelope V)} {launched : Launch V} {step : Nat} {st : MainState V}

theorem Process.Ok.started (ok : (Process.starting launched st).Ok host program cfg arrived) :
    (Process.after launched 0 (startup host launched.site .record cfg launched.entryService st)).Ok
      host program cfg arrived := by
  obtain ⟨launches, rfl, rfl⟩ := ok
  cases ran : startup host launched.site .record cfg launched.entryService
      (.initial .record cfg launched.actors []) with
  | ok _ st => exact ⟨launches, Nat.zero_le _, .start ran⟩
  | error error st => trivial

/-- Only the envelopes for the node count. -/
theorem Process.Ok.iterated (ok : (Process.running launched step st).Ok host program cfg arrived)
    (unfinished : step < cfg.steps) (batch : List (WireEnvelope V)) :
    (Process.after launched (step + 1) (recordStep host launched.site step batch st)).Ok
      host program cfg (arrived ++ ownEnvelopes cfg.nodeId batch) := by
  obtain ⟨launches, _, past⟩ := ok
  rw [recordStep_own, (launch_launched launches).nodeId_eq]
  have addressed : ∀ env ∈ ownEnvelopes cfg.nodeId batch, env.toNode = cfg.nodeId :=
    fun env member => of_decide_eq_true (List.mem_filter.mp member).2
  cases ran : recordStep host launched.site step (ownEnvelopes cfg.nodeId batch) st with
  | ok _ st' => exact ⟨launches, unfinished, past.step addressed ran⟩
  | error error st' => trivial

theorem startup_sent (launched : Launch V) (cfg : Config) (st : MainState V) :
    st.sent <+: (Process.after launched 0
      (startup host launched.site .record cfg launched.entryService st)).state.sent := by
  have advances : Advances host launched.site (fun _ => True) launched.entryActor st (finalState
      (startup host launched.site .record cfg launched.entryService st)) :=
    startup_advances launched cfg st
  obtain ⟨made, sent, history, outgoing, only⟩ := advances.sends
  rw [Process.state_after, outgoing]
  exact List.prefix_append st.sent sent

theorem Process.Ok.sent (accepted : Accepted host program)
    (ok : (Process.running launched step st).Ok host program cfg arrived)
    (batch : List (WireEnvelope V)) :
    st.sent <+: (Process.after launched (step + 1)
      (recordStep host launched.site step batch st)).state.sent := by
  obtain ⟨launches, _, ran⟩ := ok
  obtain ⟨hosts, -⟩ := ran.ready accepted launches
  have accepts : Accepted host launched.site.program := by
    rw [(launch_launched launches).program_eq]
    exact accepted
  have advances : Advances host launched.site (fun _ => True) launched.entryActor st
      (finalState (recordStep host launched.site step batch st)) :=
    recordStep_advances accepts hosts (fun _ _ => trivial) (fun _ _ => trivial)
  obtain ⟨made, sent, history, outgoing, only⟩ := advances.sends
  rw [Process.state_after, outgoing]
  exact List.prefix_append st.sent sent

end Processes

section Growth

variable {ι V : Type} [DecidableEq ι] [DecidableEq V] {host : Host V} {program : Program}
  {cfgs : ι → Config} {listens : ι → Option String} {codec : JsonCodec (WireEnvelope V)}
  {t t' : Transport ι V}

/-- What a step does to the processes: it finishes one of them or changes none. -/
theorem TransportStep.processes (accepted : Accepted host program)
    (ok : ∀ i, ∃ arrived, (t.process i).Ok host program (cfgs i) arrived)
    (next : TransportStep host cfgs listens codec t t') :
    t'.process = t.process ∨ ∃ i after, t'.process = (t.finish i after).process ∧
      (t.process i).state.sent <+: after.state.sent ∧
        ∃ arrived, after.Ok host program (cfgs i) arrived := by
  cases next with
  | start i launched st starting =>
      obtain ⟨arrived, here⟩ := ok i
      rw [starting] at here
      refine .inr ⟨i, _, rfl, ?_, arrived, here.started⟩
      rw [starting]
      exact startup_sent launched (cfgs i) st
  | iterate i launched step st running unfinished allSent drained =>
      obtain ⟨arrived, here⟩ := ok i
      rw [running] at here
      refine .inr ⟨i, _, rfl, ?_, _, here.iterated unfinished (t.taken i)⟩
      rw [running]
      exact here.sent accepted (t.taken i)
  | take => exact .inl rfl
  | connect => exact .inl rfl
  | giveUp => exact .inl rfl
  | read => exact .inl rfl

theorem Transport.Reachable.process_ok (accepted : Accepted host program)
    (reached : Transport.Reachable host cfgs listens codec program t) (i : ι) :
    ∃ arrived, (t.process i).Ok host program (cfgs i) arrived := by
  induction reached generalizing i with
  | initial => exact ⟨[], Process.launch_ok host program (cfgs i)⟩
  | step reached next ih =>
      rcases next.processes accepted ih with same | ⟨j, after, process, -, arrived, ok⟩
      · rw [same]
        exact ih i
      · rw [process]
        by_cases here : i = j
        · subst here
          rw [Transport.finish_process_self]
          exact ⟨arrived, ok⟩
        · rw [Transport.finish_process_of_ne _ here]
          exact ih i

/-- What was sent once stays sent. -/
theorem Transport.Reachable.grows (accepted : Accepted host program)
    (reached : Transport.Reachable host cfgs listens codec program t)
    (next : TransportStep host cfgs listens codec t t') (i : ι) :
    (t.process i).state.sent <+: (t'.process i).state.sent := by
  have ok (j : ι) := reached.process_ok accepted j
  rcases next.processes accepted ok with same | ⟨j, after, process, longer, -⟩
  · rw [same]
  · rw [process]
    by_cases here : i = j
    · subst here
      rw [Transport.finish_process_self]
      exact longer
    · rw [Transport.finish_process_of_ne _ here]

end Growth

/-! ## What is on its way -/

section Holdings

variable {ι V : Type} [DecidableEq ι]

/-- What has arrived at node `i`, and what it holds on its way in or out. -/
def Transport.held (t : Transport ι V) (arrived : ι → List (WireEnvelope V)) (i : ι) :
    Multiset (WireEnvelope V) :=
  (arrived i ++ t.taken i ++ t.channel i ++ t.pending i : List (WireEnvelope V))

def Transport.onConnections (t : Transport ι V) : Multiset (WireEnvelope V) :=
  (t.connections.map Prod.snd : List (WireEnvelope V))

variable (t : Transport ι V) (arrived : ι → List (WireEnvelope V)) {i j : ι}

theorem Transport.held_finish_self (next : Process V) : (t.finish i next).held arrived i =
    (arrived i ++ t.channel i ++
      (t.pending i ++ next.state.sent.drop (t.process i).state.sent.length) :
        List (WireEnvelope V)) := by
  simp [held, finish]

theorem Transport.held_finish_of_ne (other : j ≠ i) (next : Process V) :
    (t.finish i next).held arrived j = t.held arrived j := by
  simp [held, finish, other]

/-- An envelope that is taken stays with its node. -/
theorem Transport.held_take {env : WireEnvelope V} {rest : List (WireEnvelope V)}
    (front : t.channel i = env :: rest) (j : ι) :
    (t.take i env rest).held arrived j = t.held arrived j := by
  by_cases same : j = i
  · subst same
    simp [held, take, front]
  · simp [held, take, same]

theorem Transport.held_sendTo_self {env : WireEnvelope V} {rest : List (WireEnvelope V)}
    (first : t.pending i = env :: rest) (opened : List (String × WireEnvelope V)) :
    (t.sendTo i rest opened).held arrived i + {env} = t.held arrived i := by
  simp only [held, sendTo, Function.update_self, first]
  rw [← Multiset.coe_singleton, Multiset.coe_add, Multiset.coe_eq_coe, List.append_assoc]
  exact List.perm_append_comm.append_left _

theorem Transport.held_sendTo_of_ne (other : j ≠ i) (rest : List (WireEnvelope V))
    (opened : List (String × WireEnvelope V)) :
    (t.sendTo i rest opened).held arrived j = t.held arrived j := by
  simp [held, sendTo, other]

theorem Transport.held_pass_self (envs : List (WireEnvelope V))
    (others : List (String × WireEnvelope V)) :
    (t.pass i envs others).held arrived i = t.held arrived i + envs := by
  simp only [held, pass, Function.update_self]
  rw [Multiset.coe_add, Multiset.coe_eq_coe, ← List.append_assoc, List.append_assoc _ envs,
    List.append_assoc _ (t.pending i)]
  exact List.perm_append_comm.append_left _

theorem Transport.held_pass_of_ne (other : j ≠ i) (envs : List (WireEnvelope V))
    (others : List (String × WireEnvelope V)) :
    (t.pass i envs others).held arrived j = t.held arrived j := by
  simp [held, pass, other]

theorem Transport.onConnections_sendTo (rest : List (WireEnvelope V))
    (opened : List (String × WireEnvelope V)) : (t.sendTo i rest opened).onConnections =
      t.onConnections + (opened.map Prod.snd : List (WireEnvelope V)) := by
  rw [onConnections, sendTo, List.map_append, ← Multiset.coe_add]
  rfl

theorem Transport.onConnections_pass {addr : String} {env : WireEnvelope V}
    {before after : List (String × WireEnvelope V)}
    (opened : t.connections = before ++ (addr, env) :: after) (envs : List (WireEnvelope V)) :
    {env} + (t.pass i envs (before ++ after)).onConnections = t.onConnections := by
  rw [onConnections, onConnections, pass, opened, Multiset.singleton_add, Multiset.cons_coe,
    Multiset.coe_eq_coe, List.map_append, List.map_append]
  exact List.perm_middle.symm

end Holdings

/-! ## The simulation -/

section Simulation

variable {ι V : Type} [Fintype ι] [DecidableEq ι] {host : Host V}
  {program : Program} {cfgs : ι → Config} {listens : ι → Option String}
  {codec : JsonCodec (WireEnvelope V)} {t t' : Transport ι V} {c : Cluster ι V}

/-- The cluster has the same processes, and whatever is on its way was sent there. -/
structure Transport.Follows (t : Transport ι V) (c : Cluster ι V) : Prop where
  process : c.process = t.process
  supply : ∑ i, t.held c.arrived i + t.onConnections ≤ c.sent
  known : ∀ env ∈ c.sent, ∃ i, env ∈ (t.process i).state.sent

omit [DecidableEq ι] in
/-- A change at one place carries over to the sum. -/
theorem sum_le_of_change {M : Type} [AddCommMonoid M] [PartialOrder M] [AddLeftMono M]
    {f g : ι → M} {i : ι} {lost gained : M} (others : ∀ j, j ≠ i → g j = f j)
    (here : g i + lost ≤ f i + gained) : ∑ j, g j + lost ≤ ∑ j, f j + gained := by
  classical
  have rest : ∑ j ∈ Finset.univ.erase i, g j = ∑ j ∈ Finset.univ.erase i, f j :=
    Finset.sum_congr rfl fun j member => others j (Finset.ne_of_mem_erase member)
  rw [← Finset.add_sum_erase _ g (Finset.mem_univ i),
    ← Finset.add_sum_erase _ f (Finset.mem_univ i), rest, add_right_comm, add_right_comm (f i)]
  exact add_le_add_left here _

omit [DecidableEq ι] in
/-- A step between the nodes leaves the cluster as it is. -/
theorem Transport.Follows.moved (follows : t.Follows c) (same : t'.process = t.process) (i : ι)
    (others : ∀ j, j ≠ i → t'.held c.arrived j = t.held c.arrived j)
    (here : t'.held c.arrived i + t'.onConnections ≤ t.held c.arrived i + t.onConnections) :
    t'.Follows c where
  process := follows.process.trans same.symm
  supply := (sum_le_of_change others here).trans follows.supply
  known := by
    rw [same]
    exact follows.known

/-- The step of a process is a step of the cluster on a part of what was taken. -/
theorem Transport.Follows.finished (follows : t.Follows c) (i : ι) (next : Process V)
    {batch : List (WireEnvelope V)} (own : batch.Sublist (t.taken i))
    (grows : (t.process i).state.sent <+: next.state.sent) :
    (t.finish i next).Follows (c.advance i next batch) := by
  let sent := next.state.sent.drop (t.process i).state.sent.length
  have onNetwork : (c.advance i next batch).sent = c.sent ++ sent := by
    rw [Cluster.advance, follows.process]
  constructor
  · rw [Cluster.advance, follows.process]
    rfl
  · have others (j : ι) (other : j ≠ i) :
        (t.finish i next).held (c.advance i next batch).arrived j = t.held c.arrived j := by
      rw [Transport.held_finish_of_ne t _ other, Transport.held, Transport.held,
        Cluster.advance_arrived_of_ne c other]
    have here : (t.finish i next).held (c.advance i next batch).arrived i + 0 ≤
        t.held c.arrived i + sent := by
      rw [Transport.held_finish_self, Cluster.advance_arrived_self, add_zero, Transport.held,
        Multiset.coe_add, ← List.append_assoc]
      apply Multiset.coe_le.mpr
      apply List.Sublist.subperm
      gcongr
    have total := sum_le_of_change others here
    rw [onNetwork, ← Multiset.coe_add]
    rw [add_zero] at total
    calc ∑ j, (t.finish i next).held (c.advance i next batch).arrived j + t.onConnections
        ≤ ∑ j, t.held c.arrived j + sent + t.onConnections := add_le_add_left total _
      _ = ∑ j, t.held c.arrived j + t.onConnections + sent := add_right_comm _ _ _
      _ ≤ c.sent + sent := add_le_add_left follows.supply _
  · intro env member
    rw [onNetwork] at member
    rcases List.mem_append.mp member with old | new
    · obtain ⟨j, here⟩ := follows.known env old
      refine ⟨j, ?_⟩
      by_cases same : j = i
      · subst same
        rw [Transport.finish_process_self]
        exact grows.subset here
      · rw [Transport.finish_process_of_ne t same]
        exact here
    · refine ⟨i, ?_⟩
      rw [Transport.finish_process_self]
      exact List.mem_of_mem_drop new

omit [DecidableEq ι] in
theorem Transport.Follows.held_le (follows : t.Follows c) (i : ι) :
    t.held c.arrived i ≤ c.sent := by
  have nonneg : ∀ j ∈ Finset.univ, 0 ≤ t.held c.arrived j := fun j _ => zero_le
  have one := Finset.single_le_sum nonneg (Finset.mem_univ i)
  exact (one.trans le_self_add).trans follows.supply

omit [DecidableEq ι] in
theorem Transport.Follows.opened_sent (follows : t.Follows c) {addr : String}
    {env : WireEnvelope V} (opened : (addr, env) ∈ t.connections) : env ∈ c.sent := by
  have there : t.onConnections ≤ c.sent := le_add_self.trans follows.supply
  exact Multiset.mem_of_le there (Multiset.mem_coe.mpr (List.mem_map_of_mem opened))

variable [DecidableEq V]

/-- One step between system calls is one step of the cluster or none. -/
theorem TransportStep.simulated (accepted : Accepted host program)
    (transported : Transport.Reachable host cfgs listens codec program t)
    (reached : Reachable host program cfgs c) (follows : t.Follows c)
    (safe : ∀ i, ∀ env ∈ (t.process i).state.sent, codec.lines.Safe env)
    (next : TransportStep host cfgs listens codec t t') :
    ∃ c', Reachable host program cfgs c' ∧ t'.Follows c' := by
  have grows := transported.grows accepted next
  cases next with
  | start i launched st starting =>
      have here : c.process i = .starting launched st := by
        rw [follows.process]
        exact starting
      have longer := grows i
      rw [Transport.finish_process_self] at longer
      exact ⟨_, reached.step (.start i launched st here),
        follows.finished i _ (List.nil_sublist _) longer⟩
  | iterate i launched step st running unfinished allSent drained =>
      have here : c.process i = .running launched step st := by
        rw [follows.process]
        exact running
      have longer := grows i
      rw [Transport.finish_process_self] at longer
      have ok := reached.process_ok i
      rw [here] at ok
      have site := (launch_launched ok.1).nodeId_eq
      have own : (ownEnvelopes (cfgs i).nodeId (t.taken i)).Sublist (t.taken i) :=
        List.filter_sublist
      rw [recordStep_own, site] at longer ⊢
      refine ⟨_, reached.step (.iterate i launched step st here unfinished
        (ownEnvelopes (cfgs i).nodeId (t.taken i)) ?_ ?_), follows.finished i _ own longer⟩
      · intro env member
        exact of_decide_eq_true (List.mem_filter.mp member).2
      · have inside : (c.arrived i ++ ownEnvelopes (cfgs i).nodeId (t.taken i)).Sublist
            (c.arrived i ++ t.taken i ++ t.channel i ++ t.pending i) := by
          rw [List.append_assoc _ (t.channel i)]
          exact (own.append_left _).trans (List.sublist_append_left _ _)
        exact Multiset.coe_le.mp ((Multiset.coe_le.mpr inside.subperm).trans (follows.held_le i))
  | take i launched step st running unfinished allSent env rest front =>
      have same (j : ι) := Transport.held_take t c.arrived front j
      refine ⟨c, reached, follows.moved rfl i (fun j _ => same j) ?_⟩
      rw [same i]
      exact le_refl _
  | connect i env rest first addr known =>
      refine ⟨c, reached, follows.moved rfl i
        (fun j other => Transport.held_sendTo_of_ne t c.arrived other rest _) ?_⟩
      rw [← Transport.held_sendTo_self t c.arrived first [(addr, env)],
        Transport.onConnections_sendTo, add_assoc, add_comm t.onConnections]
      exact le_refl _
  | giveUp i env rest first =>
      refine ⟨c, reached, follows.moved rfl i
        (fun j other => Transport.held_sendTo_of_ne t c.arrived other rest _) ?_⟩
      rw [← Transport.held_sendTo_self t c.arrived first [], Transport.onConnections_sendTo,
        List.map_nil, Multiset.coe_nil, add_zero]
      exact add_le_add_left le_self_add _
  | read j addr env before after opened accepts stream cut =>
      refine ⟨c, reached, follows.moved rfl j
        (fun k other => Transport.held_pass_of_ne t c.arrived other _ _) ?_⟩
      have onNetwork : (addr, env) ∈ t.connections := by
        rw [opened]
        exact List.mem_append_right _ List.mem_cons_self
      obtain ⟨k, sent⟩ := follows.known env (follows.opened_sent onNetwork)
      have passed : ((readStream codec stream).1 : Multiset (WireEnvelope V)) ≤ {env} := by
        rcases readStream_cut (safe k env sent) cut with nothing | whole
        · rw [nothing]
          exact zero_le
        · rw [whole]
          exact le_refl _
      rw [Transport.held_pass_self, ← Transport.onConnections_pass t opened _, ← add_assoc]
      exact add_le_add_left (add_le_add_right passed _) _

/-- However the single steps of the nodes interleave and the connections end, the
processes are those of a reachable cluster. -/
theorem transport_refines_cluster {src : String} (loaded : loadProgram host src = .ok program)
    (reached : Transport.Reachable host cfgs listens codec program t)
    (safe : ∀ i, ∀ env ∈ (t.process i).state.sent, codec.lines.Safe env) :
    ∃ c, Reachable host program cfgs c ∧ c.process = t.process ∧
      ∑ i, t.held c.arrived i + t.onConnections ≤ c.sent := by
  have accepted := loadProgram_accepted loaded
  have follows : ∃ c, Reachable host program cfgs c ∧ t.Follows c := by
    induction reached with
    | initial =>
        refine ⟨_, .initial, rfl, ?_, fun env member => absurd member List.not_mem_nil⟩
        have nothing : ∑ i, (Transport.initial host program cfgs).held
            (Cluster.initial host program cfgs).arrived i = 0 := Finset.sum_eq_zero fun _ _ => rfl
        rw [nothing]
        exact le_refl _
    | @step t t' reached next ih =>
        have longer := reached.grows accepted next
        have before : ∀ i, ∀ env ∈ (t.process i).state.sent, codec.lines.Safe env :=
          fun i env sent => safe i env ((longer i).subset sent)
        obtain ⟨c, clustered, follows⟩ := ih before
        exact next.simulated accepted reached clustered follows before
  obtain ⟨c, clustered, follows⟩ := follows
  exact ⟨c, clustered, follows.process, follows.supply⟩

end Simulation

/-! ## A schedule that can be run -/

section Schedules

variable {ι V : Type} [DecidableEq ι] [DecidableEq V] (host : Host V) (program : Program)
  (cfgs : ι → Config) (listens : ι → Option String) (codec : JsonCodec (WireEnvelope V))

/-- What happens next: a node goes on, it is done with one envelope, or the first
connection delivers its first bytes to a node. -/
inductive Move (ι : Type) where
  | proceed (i : ι)
  | send (i : ι)
  | deliver (j : ι) (bytes : Nat)

def Transport.perform (t : Transport ι V) : Move ι → Transport ι V
  | .proceed i =>
      match t.process i with
      | .starting launched st =>
          t.finish i (.after launched 0
            (startup host launched.site .record (cfgs i) launched.entryService st))
      | .running launched step st =>
          if step < (cfgs i).steps ∧ t.pending i = [] then
            match t.channel i with
            | [] =>
                t.finish i (.after launched (step + 1)
                  (recordStep host launched.site step (t.taken i) st))
            | env :: rest => t.take i env rest
          else t
      | .failed _ _ => t
  | .send i =>
      match t.pending i with
      | [] => t
      | env :: rest =>
          match (cfgs i).peers.lookup env.toNode with
          | some addr => t.sendTo i rest [(addr, env)]
          | none => t.sendTo i rest []
  | .deliver j bytes =>
      match t.connections with
      | [] => t
      | (addr, env) :: others =>
          if listens j = some addr then
            t.pass j (readStream codec ((envelopeBytes codec env).take bytes)).1 others
          else t

def Transport.run (moves : List (Move ι)) : Transport ι V :=
  moves.foldl (Transport.perform host cfgs listens codec) (.initial host program cfgs)

variable {host program cfgs listens codec} {t : Transport ι V}

theorem Transport.Reachable.perform
    (reached : Transport.Reachable host cfgs listens codec program t) (move : Move ι) :
    Transport.Reachable host cfgs listens codec program
      (t.perform host cfgs listens codec move) := by
  cases move with
  | proceed i =>
      rw [Transport.perform]
      cases now : t.process i with
      | starting launched st => exact reached.step (.start i launched st now)
      | failed error st => exact reached
      | running launched step st =>
          dsimp only
          split
          · rename_i ready
            cases front : t.channel i with
            | nil => exact reached.step (.iterate i launched step st now ready.1 ready.2 front)
            | cons env rest =>
                exact reached.step (.take i launched step st now ready.1 ready.2 env rest front)
          · exact reached
  | send i =>
      rw [Transport.perform]
      cases first : t.pending i with
      | nil => exact reached
      | cons env rest =>
          dsimp only
          cases known : (cfgs i).peers.lookup env.toNode with
          | some addr => exact reached.step (.connect i env rest first addr known)
          | none => exact reached.step (.giveUp i env rest first)
  | deliver j bytes =>
      rw [Transport.perform]
      cases opened : t.connections with
      | nil => exact reached
      | cons connection others =>
          obtain ⟨addr, env⟩ := connection
          dsimp only
          split
          · rename_i accepts
            exact reached.step (.read j addr env [] others opened accepts _
              (List.take_prefix bytes _))
          · exact reached

theorem transport_run_reachable (moves : List (Move ι)) :
    Transport.Reachable host cfgs listens codec program
      (.run host program cfgs listens codec moves) := by
  have all : ∀ t : Transport ι V, Transport.Reachable host cfgs listens codec program t →
      Transport.Reachable host cfgs listens codec program
        (moves.foldl (Transport.perform host cfgs listens codec) t) := by
    induction moves with
    | nil => exact fun t reached => reached
    | cons move rest ih => exact fun t reached => ih _ (reached.perform move)
  exact all _ .initial

end Schedules

/-! ## A sample -/

section Samples

/-- The nodes of the sample listen where their peers expect it. -/
def sampleListens (i : Fin 2) : Option String := if i.val = 0 then some "a" else some "b"

/-- Node `i` sends its first message to node `j`, which handles it. -/
def sampleMoves (i j : Fin 2) : List (Move (Fin 2)) :=
  [.proceed i, .proceed i, .send i, .deliver j 600, .proceed j, .proceed j, .proceed j]

open JsonText in
/-- The line of a first message from `node` to `peer`. -/
def pingLine (node peer msgId cause : List Char) : List Char :=
  object
    [("from_node", node), ("to_node", peer),
      ("to_actor", quoted "965e1b02-03eb-56fe-b20e-3a4852a7eb2c"), ("msg_id", msgId),
      ("payload", object
        [("from_node", node), ("from_service", quoted "Gateway"),
          ("provenance", object
            [("hops", ['1']), ("origin_msg_id", cause), ("origin_node", node),
              ("origin_service", quoted "System"), ("parent_msg_id", cause),
              ("parent_node", node)]),
          ("text", quoted "bootstrap #1"), ("type", quoted "ping")])]

def pingLines : List (List Char) :=
  let id (digit : Char) := JsonText.quoted
    (String.ofList ("00000000-0000-0000-0000-00000000000".toList ++ [digit]))
  [pingLine (id '7') (id '9') (id '9') (id '8'), pingLine (id '9') (id '7') (id 'b') (id 'a')]

/-- The first messages of the two nodes, with their lines. -/
def sampleWireTable (i j : Fin 2) : List (List UInt8 × WireEnvelope JsonDoc) :=
  JsonText.lineTable (pingLines.zip (samplePair [i, i, j, j]).sent)

def sampleTransport (i j : Fin 2) : Transport (Fin 2) JsonDoc :=
  .run jsonHost sampleProgram sampleNodes sampleListens (.ofTable (sampleWireTable i j))
    (sampleMoves i j)

theorem pingLines_oneLine : ∀ line ∈ pingLines, '\n' ∉ line ∧ line ≠ [] := by
  have line {node peer msgId cause : List Char} (ids : ∀ id ∈ [node, peer, msgId, cause],
      '\n' ∉ id) : '\n' ∉ pingLine node peer msgId cause := by
    refine JsonText.object_oneLine ?_
    simp_all [JsonText.quoted_oneLine, JsonText.object_oneLine]
  refine List.forall_mem_cons.mpr ⟨⟨line ?_, List.cons_ne_nil _ _⟩, ?_⟩
  · simp [JsonText.quoted_oneLine]
  · refine List.forall_mem_singleton.mpr ⟨line ?_, List.cons_ne_nil _ _⟩
    simp [JsonText.quoted_oneLine]

theorem sampleWireTable_free : PrefixFree (sampleWireTable 0 1) :=
  JsonText.lineTable_free (fun _ member => (pingLines_oneLine _ (List.of_mem_zip member).1).1)
    (fun _ member => (pingLines_oneLine _ (List.of_mem_zip member).1).2) (by decide +kernel)

theorem transport_refines_cluster_sample :
    ∃ c, Reachable jsonHost sampleProgram sampleNodes c ∧
      c.process = (sampleTransport 0 1).process ∧
        ∑ i, (sampleTransport 0 1).held c.arrived i + (sampleTransport 0 1).onConnections ≤
          c.sent := by
  have known : ∀ i, ∀ env ∈ ((sampleTransport 0 1).process i).state.sent,
      env ∈ (sampleWireTable 0 1).map Prod.snd := by decide +kernel
  exact transport_refines_cluster sampleProgram_loaded (transport_run_reachable (sampleMoves 0 1))
    fun i env sent => sampleWireTable_free.safe (known i env sent)

end Samples

end UcoStack.System
