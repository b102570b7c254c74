import Mathlib.Algebra.BigOperators.Group.Finset.Basic
import Mathlib.Algebra.Order.BigOperators.Group.Finset
import UcoStack.Runtime.MailRun
import UcoStack.System.Exchange

/-!
# A cluster as actors

A cluster of nodes with their inboxes, timers, fault injectors and connections does
what its services do as actors that take letters from one common mail in any order.
Texts, provenance and identifiers, the steps of the loops, the faults and the failures
are gone; what is left are state maps and letters.  A lost or delayed letter is one that
is still in the mail.

So whatever holds of every run of the actors holds of every state of every cluster.
-/

namespace UcoStack.System

open UcoStack.Runtime StateRun

/-! ## The actors of a cluster -/

section Model

variable {ι V : Type}

/-- The mail that a process will still handle. -/
def Process.mail (host : Host V) (cfg : Config) : Process V → Multiset Mail
  | .starting launched _ => startMail cfg.nodeId launched.entryActor (bootstrapCount cfg)
  | .running _ _ st => st.inHand host cfg.nodeId
  | .failed _ _ => 0

variable (cfgs : ι → Config)

open Classical in
/-- The node of the cluster with the identifier. -/
noncomputable def nodeAt (nodeId : NodeId) : Option ι :=
  if known : ∃ i, (cfgs i).nodeId = nodeId then some known.choose else none

noncomputable def peersAt (nodeId : NodeId) : PeerMap :=
  (nodeAt cfgs nodeId).elim ∅ fun i => (cfgs i).peers

variable {cfgs} in
theorem nodeAt_nodeId (distinct : Function.Injective fun i => (cfgs i).nodeId) (i : ι) :
    nodeAt cfgs (cfgs i).nodeId = some i := by
  have known : ∃ j, (cfgs j).nodeId = (cfgs i).nodeId := ⟨i, rfl⟩
  rw [nodeAt, dif_pos known]
  exact congrArg some (distinct known.choose_spec)

variable {cfgs} in
theorem peersAt_nodeId (distinct : Function.Injective fun i => (cfgs i).nodeId) (i : ι) :
    peersAt cfgs (cfgs i).nodeId = (cfgs i).peers := by
  rw [peersAt, nodeAt_nodeId distinct i]
  rfl

variable (host : Host V) (program : Program)

/-- The actors with their services and state maps, and their mail. -/
abbrev ClusterActors := ActorModel.Configuration Place (Option (String × StateMap)) (Option Letter)

noncomputable def clusterModel :
    ActorModel Place (Option (String × StateMap)) (Option Letter) :=
  serviceModel host program (peersAt cfgs)

/-- The actors of the launched nodes, and the bootstrap messages in the mail. -/
noncomputable def clusterStart [Fintype ι] : ClusterActors where
  state place := (nodeAt cfgs place.1).bind fun i =>
    (Process.launch host program (cfgs i)).core.profile place.2
  mail := ∑ i, (Process.launch host program (cfgs i)).mail host (cfgs i)

/-- The letters among the delivered mail that went to actors of the node. -/
def lettersOf (nodeId : NodeId) (delivered : List Mail) : List (Option Letter) :=
  (delivered.filter fun sent => sent.1.1 = nodeId).map Prod.snd

theorem lettersOf_append (nodeId : NodeId) (first second : List Mail) :
    lettersOf nodeId (first ++ second) = lettersOf nodeId first ++ lettersOf nodeId second := by
  rw [lettersOf, List.filter_append, List.map_append]
  rfl

end Model

/-! ## A turn of a node as a run of the actors -/

section Turns

variable {State : Type} {model : ActorModel Place State (Option Letter)} {nodeId : NodeId}
  {actors actors' : ActorId → State} {mail after : Multiset Mail} {letters : List (Option Letter)}

/-- What the actors did between two configurations, all at one node. -/
structure Turned (model : ActorModel Place State (Option Letter)) (nodeId : NodeId)
    (letters : List (Option Letter)) (a a' : ActorModel.Configuration Place State (Option Letter))
    (delivered : List Mail) : Prop where
  run : Run model.Step a delivered a'
  others : ∀ place : Place, place.1 ≠ nodeId → a'.state place = a.state place
  own : lettersOf nodeId delivered = letters
  none : ∀ other, other ≠ nodeId → lettersOf other delivered = []

theorem Turned.at_node {a a' : ActorModel.Configuration Place State (Option Letter)}
    {delivered : List Mail} (turned : Turned model nodeId letters a a' delivered) {sent : Mail}
    (member : sent ∈ delivered) : sent.1.1 = nodeId := by
  by_contra other
  have inside : sent.2 ∈ lettersOf sent.1.1 delivered :=
    List.mem_map_of_mem (List.mem_filter.mpr ⟨member, decide_eq_true rfl⟩)
  rw [turned.none sent.1.1 other] at inside
  cases inside

theorem Turned.quiet (a : ActorModel.Configuration Place State (Option Letter)) :
    Turned model nodeId [] a a [] :=
  ⟨.refl a, fun _ _ => rfl, rfl, fun _ _ => rfl⟩

/-- With enough mail the actors can follow a turn. -/
theorem turned_of_turn (turn : Turn model nodeId actors mail letters actors' after)
    {a : ActorModel.Configuration Place State (Option Letter)}
    (here : ∀ id, a.state (nodeId, id) = actors id) {rest : Multiset Mail}
    (enough : mail + rest ≤ a.mail) :
    ∃ delivered a', Turned model nodeId letters a a' delivered ∧
      (∀ id, a'.state (nodeId, id) = actors' id) ∧ after + rest ≤ a'.mail := by
  cases turn with
  | quiet fewer => exact ⟨[], a, .quiet a, here, (add_le_add_left fewer rest).trans enough⟩
  | react receiver letter left taken fewer =>
      have member : ((nodeId, receiver), letter) ∈ a.mail :=
        Multiset.mem_of_le ((taken.trans (Multiset.le_add_right _ _)).trans enough)
          (Multiset.mem_cons_self _ left)
      obtain ⟨others, split⟩ := Multiset.exists_cons_of_mem member
      have kept : left + rest ≤ others := by
        have all := (add_le_add_left taken rest).trans enough
        rw [split, Multiset.cons_add] at all
        exact (Multiset.cons_le_cons_iff _).mp all
      have own : lettersOf nodeId [((nodeId, receiver), letter)] = [letter] := by
        simp [lettersOf]
      have none (other : NodeId) (different : other ≠ nodeId) :
          lettersOf other [((nodeId, receiver), letter)] = [] := by
        simp [lettersOf, Ne.symm different]
      refine ⟨_, _, ⟨.single (.deliver (nodeId, receiver) letter others split), ?_, own, none⟩,
        ?_, ?_⟩
      · intro place different
        apply model.deliver_state_of_ne
        rintro rfl
        exact different rfl
      · intro id
        by_cases same : id = receiver
        · subst same
          rw [model.deliver_state_self, here, Function.update_self]
        · have apart : (nodeId, id) ≠ (nodeId, receiver) := fun equal =>
            same (Prod.mk.inj equal).2
          rw [model.deliver_state_of_ne a apart, here, Function.update_of_ne same]
      · rw [← here] at fewer
        calc after + rest ≤ left + _ + rest := add_le_add_left fewer rest
          _ = left + rest + _ := add_right_comm _ _ _
          _ ≤ others + _ := add_le_add_left kept _

end Turns

/-! ## The mail of a cluster -/

section Network

variable {ι V : Type} [Fintype ι] [DecidableEq V] {cfgs : ι → Config}

/-- All envelopes that have arrived somewhere. -/
def arrivedTotal (arrived : ι → List (WireEnvelope V)) : Multiset (WireEnvelope V) :=
  ∑ i, (arrived i : Multiset (WireEnvelope V))

/-- No envelope arrives at two nodes, so the arrived ones were all sent. -/
theorem arrived_le_sent (distinct : Function.Injective fun i => (cfgs i).nodeId)
    {arrived : ι → List (WireEnvelope V)} {sent : List (WireEnvelope V)}
    (addressed : ∀ i, ∀ env ∈ arrived i, env.toNode = (cfgs i).nodeId)
    (once : ∀ i, (arrived i).Subperm sent) : arrivedTotal arrived ≤ sent := by
  rw [Multiset.le_iff_count]
  intro env
  rw [arrivedTotal, Multiset.count_sum']
  by_cases known : ∃ i, (cfgs i).nodeId = env.toNode
  · obtain ⟨i, here⟩ := known
    have others : ∀ j ∈ Finset.univ, j ≠ i →
        Multiset.count env (arrived j : Multiset (WireEnvelope V)) = 0 := by
      intro j _ different
      apply Multiset.count_eq_zero_of_notMem
      intro member
      exact different (distinct ((addressed j env member).symm.trans here.symm))
    rw [Finset.sum_eq_single i others fun absent => absurd (Finset.mem_univ i) absent]
    exact Multiset.count_le_of_le env (Multiset.coe_le.mpr (once i))
  · have nothing : ∀ j ∈ Finset.univ,
        Multiset.count env (arrived j : Multiset (WireEnvelope V)) = 0 := by
      intro j _
      apply Multiset.count_eq_zero_of_notMem
      exact fun member => known ⟨j, (addressed j env member).symm⟩
    rw [Finset.sum_eq_zero nothing]
    exact Nat.zero_le _

/-- The envelopes that were sent and have not arrived. -/
def Cluster.flying (c : Cluster ι V) : Multiset (WireEnvelope V) :=
  (c.sent : Multiset (WireEnvelope V)) - arrivedTotal c.arrived

variable [DecidableEq ι] {c : Cluster ι V}

theorem sum_update {M : Type} [AddCommMonoid M] (f : ι → M) (i : ι) (value : M) :
    ∑ j, Function.update f i value j = value + ∑ j ∈ Finset.univ.erase i, f j := by
  rw [← Finset.add_sum_erase _ _ (Finset.mem_univ i), Function.update_self]
  refine congrArg (value + ·) (Finset.sum_congr rfl fun j member => ?_)
  exact Function.update_of_ne (Finset.ne_of_mem_erase member) _ _

omit [DecidableEq V] in
theorem arrivedTotal_update (arrived : ι → List (WireEnvelope V)) (i : ι)
    (batch : List (WireEnvelope V)) :
    arrivedTotal (Function.update arrived i (arrived i ++ batch)) =
      arrivedTotal arrived + (batch : Multiset (WireEnvelope V)) := by
  have coe (j : ι) : (Function.update arrived i (arrived i ++ batch) j :
      Multiset (WireEnvelope V)) =
        Function.update (fun j => (arrived j : Multiset (WireEnvelope V))) i
          ((arrived i ++ batch : List (WireEnvelope V)) : Multiset (WireEnvelope V)) j :=
    Function.apply_update (fun _ => Multiset.ofList) arrived i _ j
  rw [arrivedTotal, Finset.sum_congr rfl fun j _ => coe j, sum_update, arrivedTotal,
    ← Finset.add_sum_erase _ _ (Finset.mem_univ i), ← Multiset.coe_add, add_right_comm]

omit [DecidableEq V] in
theorem Cluster.arrivedTotal_advance (c : Cluster ι V) (i : ι) (next : Process V)
    (batch : List (WireEnvelope V)) : arrivedTotal (c.advance i next batch).arrived =
      arrivedTotal c.arrived + (batch : Multiset (WireEnvelope V)) :=
  arrivedTotal_update c.arrived i batch

theorem Cluster.batch_le_flying {i : ι} {next : Process V} {batch : List (WireEnvelope V)}
    (arrived : arrivedTotal (c.advance i next batch).arrived ≤ c.sent) :
    (batch : Multiset (WireEnvelope V)) ≤ c.flying := by
  rw [Cluster.arrivedTotal_advance] at arrived
  exact le_tsub_of_add_le_left arrived

/-- A node takes a batch from the network and hands `new` to it. -/
theorem Cluster.flying_advance {i : ι} {next : Process V} {batch new : List (WireEnvelope V)}
    (sends : SendsOn (c.process i).state new next.state)
    (arrived : arrivedTotal (c.advance i next batch).arrived ≤ c.sent) :
    ∃ rest : Multiset (WireEnvelope V), c.flying = batch + rest ∧
      (c.advance i next batch).flying = rest + new := by
  have room := Cluster.batch_le_flying arrived
  have sent : (c.advance i next batch).sent = c.sent ++ new := by
    have grown : next.state.sent = (c.process i).state.sent ++ new := sends
    rw [Cluster.advance, grown, List.drop_left]
  rw [Cluster.arrivedTotal_advance] at arrived
  refine ⟨(c.sent : Multiset (WireEnvelope V)) - arrivedTotal c.arrived - batch, ?_, ?_⟩
  · exact (add_tsub_cancel_of_le room).symm
  · rw [Cluster.flying, sent, Cluster.arrivedTotal_advance, ← Multiset.coe_add,
      ← tsub_add_eq_add_tsub arrived, tsub_add_eq_tsub_tsub]

end Network

/-! ## The simulation -/

section Simulation

variable {ι V : Type} {host : Host V} {program : Program} {cfgs : ι → Config} {c c' : Cluster ι V}

theorem Process.mail_after (cfg : Config) (launched : Launch V) (step : Nat)
    (r : EStateM.Result (RunError V) (MainState V) Unit) :
    (Process.after launched step r).mail host cfg = mailAfter host cfg.nodeId r := by
  cases r with
  | ok a st => rfl
  | error error st => rfl

/-- Between two steps the fault injector is settled. -/
def Process.IsSettled (cfg : Config) : Process V → Prop
  | .starting _ st => st.injector.IsSettled cfg.fault
  | .running _ _ st => st.injector.IsSettled cfg.fault
  | .failed _ _ => True

theorem Process.launch_settled (host : Host V) (program : Program) (cfg : Config) :
    (Process.launch host program cfg).IsSettled cfg := by
  rw [Process.launch]
  cases Runtime.launch host program cfg with
  | ok launched => exact ⟨0, [], .new cfg.fault⟩
  | error error => trivial

variable [DecidableEq V]

/-- What a step of a cluster does to the node that moves. -/
structure Moved (host : Host V) (program : Program) (cfgs : ι → Config) (c : Cluster ι V)
    (i : ι) (next : Process V) (batch new : List (WireEnvelope V))
    (letters : List (Option Letter)) : Prop where
  addressed : ∀ env ∈ batch, env.toNode = (cfgs i).nodeId
  once : (c.arrived i ++ batch).Subperm c.sent
  sends : SendsOn (c.process i).state new next.state
  turn : Turn (clusterModel cfgs host program) (cfgs i).nodeId (c.core i).profile
    ((c.process i).mail host (cfgs i) + wireMail host batch) letters next.core.profile
    (next.mail host (cfgs i) + wireMail host new)
  handled : next.core.letters host = (c.core i).letters host ++ letters

variable [DecidableEq ι]

theorem Reachable.settled (reached : Reachable host program cfgs c) (i : ι) :
    (c.process i).IsSettled (cfgs i) := by
  induction reached with
  | initial => exact Process.launch_settled host program (cfgs i)
  | @step c c' reached next ih =>
      cases next with
      | start j launched st starting =>
          by_cases same : i = j
          · subst same
            rw [starting] at ih
            rw [Cluster.advance_process_self]
            have ok := reached.process_ok i
            rw [starting] at ok
            have ready := launch_launched ok.1
            have spares := (startup_works host ready launched.entryService st).spares
            cases ran : startup host launched.site .record (cfgs i) launched.entryService st with
            | ok _ st' =>
                rw [ran] at spares
                have kept : st'.injector = st.injector := spares
                change st'.injector.IsSettled (cfgs i).fault
                rw [kept]
                exact ih
            | error error st' => trivial
          · rw [Cluster.advance_process_of_ne _ same]
            exact ih
      | iterate j launched position st running unfinished batch addressed once =>
          by_cases same : i = j
          · subst same
            rw [running] at ih
            rw [Cluster.advance_process_self]
            cases ran : recordStep host launched.site position batch st with
            | ok _ st' => exact recordStep_settled ih ran
            | error error st' => trivial
          · rw [Cluster.advance_process_of_ne _ same]
            exact ih

/-- The step lemma: a step of a cluster is a turn of one node. -/
theorem Reachable.moved (lawful : host.Lawful) (accepted : Accepted host program)
    (distinct : Function.Injective fun i => (cfgs i).nodeId)
    (reached : Reachable host program cfgs c) (step : ClusterStep host cfgs c c') :
    ∃ i next batch new letters, c' = c.advance i next batch ∧
      Moved host program cfgs c i next batch new letters := by
  cases step with
  | start i launched st starting =>
      have ok := reached.process_ok i
      rw [starting] at ok
      obtain ⟨launches, nothing, rfl⟩ := ok
      have ready := launch_launched launches
      have quiet : Quiet _ (finalState (startup host launched.site .record (cfgs i)
          launched.entryService (.initial .record (cfgs i) launched.actors []))) :=
        startup_quiet (cfgs i) launched.entryService _
      refine ⟨i, _, [], [], [], rfl, ?_⟩
      have core : c.core i = Core.initial launched.actors := by
        rw [Cluster.core, starting]
        rfl
      refine ⟨fun _ member => absurd member List.not_mem_nil, ?_, ?_, ?_, ?_⟩
      · rw [List.append_nil]
        exact reached.arrived_once i
      · rw [starting, Process.state_after]
        exact .none quiet.sent
      · rw [Process.core, Process.state_after, quiet.profile, core, starting, Process.mail_after]
        exact .quiet (add_le_add_left (startup_mail lawful ready) _)
      · rw [Process.core, Process.state_after, Core.letters, quiet.delivered, core, List.append_nil]
        rfl
  | iterate i launched position st running unfinished batch addressed once =>
      have ok := reached.process_ok i
      have settled := reached.settled i
      rw [running] at ok settled
      obtain ⟨launches, -, past⟩ := ok
      obtain ⟨hosts, holds⟩ := past.ready accepted launches
      have ready := launch_launched launches
      have own : st.Holds fun env => env.toNode = launched.site.nodeId := by
        intro env held
        rw [ready.nodeId_eq]
        exact reached.arrived_addressed i env (holds env held)
      have peers : peersAt cfgs launched.site.nodeId = launched.site.peers := by
        rw [ready.nodeId_eq, ready.peers_eq]
        exact peersAt_nodeId distinct i
      obtain ⟨letters, new, sends, turn, handled⟩ :=
        @recordStep_takes _ _ _ _ _ lawful ready.named peers _ _ position batch hosts settled own
      have all : ownEnvelopes launched.site.nodeId batch = batch := by
        rw [ready.nodeId_eq]
        exact List.filter_eq_self.mpr fun env member => decide_eq_true (addressed env member)
      have core : c.core i = st.core := by
        rw [Cluster.core, running]
        rfl
      rw [ready.program_eq, ready.nodeId_eq] at turn
      rw [ready.nodeId_eq] at all
      rw [all] at turn
      refine ⟨i, _, batch, new, letters, rfl, addressed, once, ?_, ?_, ?_⟩
      · rw [running, Process.state_after]
        exact sends
      · rw [Process.core, Process.state_after, core, running, Process.mail_after]
        exact turn
      · rw [Process.core, Process.state_after, core]
        exact handled

variable [Fintype ι]

/-- The actors have come as far as the cluster: they have the same states, their mail
contains what the cluster has not handled, and every node handled the same letters. -/
structure Cluster.Acts (host : Host V) (program : Program) (cfgs : ι → Config) (c : Cluster ι V)
    (delivered : List Mail) (a : ClusterActors) : Prop where
  run : Run (clusterModel cfgs host program).Step (clusterStart cfgs host program) delivered a
  actors : ∀ i id, a.state ((cfgs i).nodeId, id) = (c.core i).profile id
  mail : ∑ i, (c.process i).mail host (cfgs i) + c.flying.map (WireEnvelope.mail host) ≤ a.mail
  letters : ∀ i, lettersOf (cfgs i).nodeId delivered = (c.core i).letters host
  nodes : ∀ sent ∈ delivered, ∃ i, sent.1.1 = (cfgs i).nodeId

omit [DecidableEq ι] in
theorem acts_initial (distinct : Function.Injective fun i => (cfgs i).nodeId) :
    (Cluster.initial host program cfgs).Acts host program cfgs []
      (clusterStart cfgs host program) := by
  refine ⟨.refl _, fun i id => ?_, ?_, fun i => ?_, fun _ member => absurd member List.not_mem_nil⟩
  · change (nodeAt cfgs (cfgs i).nodeId).bind _ = _
    rw [nodeAt_nodeId distinct i]
    rfl
  · have nothing : (Cluster.initial host program cfgs).flying = 0 := by
      rw [Cluster.flying]
      exact Multiset.zero_sub _
    rw [nothing, Multiset.map_zero, add_zero]
    exact le_rfl
  · change [] = (Process.launch host program (cfgs i)).core.letters host
    rw [startState_core]
    rfl

theorem Reachable.arrived_after (distinct : Function.Injective fun i => (cfgs i).nodeId)
    (reached : Reachable host program cfgs c) {i : ι} (next : Process V)
    {batch : List (WireEnvelope V)} (addressed : ∀ env ∈ batch, env.toNode = (cfgs i).nodeId)
    (once : (c.arrived i ++ batch).Subperm c.sent) :
    arrivedTotal (c.advance i next batch).arrived ≤ c.sent := by
  apply arrived_le_sent distinct
  · intro j env member
    by_cases same : j = i
    · subst same
      rw [Cluster.advance_arrived_self] at member
      exact (List.mem_append.mp member).elim (reached.arrived_addressed j env) (addressed env)
    · rw [Cluster.advance_arrived_of_ne c same] at member
      exact reached.arrived_addressed j env member
  · intro j
    by_cases same : j = i
    · subst same
      rw [Cluster.advance_arrived_self]
      exact once
    · rw [Cluster.advance_arrived_of_ne c same]
      exact reached.arrived_once j

/-- The actors can follow a step of the cluster. -/
theorem Moved.acts (distinct : Function.Injective fun i => (cfgs i).nodeId) {delivered : List Mail}
    {a : ClusterActors} (acts : c.Acts host program cfgs delivered a)
    (reached : Reachable host program cfgs c) {i : ι} {next : Process V}
    {batch new : List (WireEnvelope V)} {letters : List (Option Letter)}
    (moved : Moved host program cfgs c i next batch new letters) :
    ∃ delivered' a', (c.advance i next batch).Acts host program cfgs (delivered ++ delivered')
      a' := by
  have arrived := reached.arrived_after distinct next moved.addressed moved.once
  obtain ⟨flying, before, after⟩ := Cluster.flying_advance moved.sends arrived
  let others := ∑ j ∈ Finset.univ.erase i, (c.process j).mail host (cfgs j)
  let rest := others + flying.map (WireEnvelope.mail host)
  have enough : (c.process i).mail host (cfgs i) + wireMail host batch + rest ≤ a.mail := by
    refine le_trans (le_of_eq ?_) acts.mail
    rw [before, Multiset.map_add, ← Finset.add_sum_erase _ _ (Finset.mem_univ i)]
    exact add_add_add_comm _ _ _ _
  obtain ⟨delivered', a', turned, here, kept⟩ := turned_of_turn moved.turn (acts.actors i) enough
  refine ⟨delivered', a', acts.run.trans turned.run, ?_, ?_, ?_, ?_⟩
  · intro j id
    rw [Cluster.advance_core]
    by_cases same : j = i
    · subst same
      rw [Function.update_self]
      exact here id
    · rw [Function.update_of_ne same, turned.others _ fun equal => same (distinct equal)]
      exact acts.actors j id
  · refine le_trans (le_of_eq ?_) kept
    have processes (j : ι) : ((c.advance i next batch).process j).mail host (cfgs j) =
        Function.update (fun j => (c.process j).mail host (cfgs j)) i (next.mail host (cfgs i)) j :=
      Function.apply_update (fun j process => Process.mail host (cfgs j) process) c.process i next j
    rw [after, Multiset.map_add, Finset.sum_congr rfl fun j _ => processes j, sum_update,
      add_comm (flying.map _)]
    exact add_add_add_comm _ _ _ _
  · intro j
    rw [lettersOf_append, Cluster.advance_core]
    by_cases same : j = i
    · subst same
      rw [Function.update_self, moved.handled, turned.own, acts.letters j]
    · rw [Function.update_of_ne same, turned.none _ fun equal => same (distinct equal),
        List.append_nil]
      exact acts.letters j
  · intro sent member
    rcases List.mem_append.mp member with old | new
    · exact acts.nodes sent old
    · exact ⟨i, turned.at_node new⟩

/-- The run lemma: every state of a cluster is one of its actors. -/
theorem Reachable.acts (lawful : host.Lawful) (accepted : Accepted host program)
    (distinct : Function.Injective fun i => (cfgs i).nodeId)
    (reached : Reachable host program cfgs c) :
    ∃ delivered a, c.Acts host program cfgs delivered a := by
  induction reached with
  | initial => exact ⟨[], _, acts_initial distinct⟩
  | @step c c' reached next ih =>
      obtain ⟨delivered, a, acts⟩ := ih
      obtain ⟨i, after, batch, new, letters, rfl, moved⟩ :=
        reached.moved lawful accepted distinct next
      obtain ⟨delivered', a', follows⟩ := moved.acts distinct acts reached
      exact ⟨_, a', follows⟩

/-- A cluster refines its services as actors: whatever the network, the faults and the
schedule do, and whichever nodes fail, some run of the actors has the same states, has in
its mail all that is still under way, and gave every node the letters it handled. -/
theorem cluster_refines_actors (lawful : host.Lawful) {src : String}
    (loaded : loadProgram host src = .ok program)
    (distinct : Function.Injective fun i => (cfgs i).nodeId)
    (reached : Reachable host program cfgs c) :
    ∃ delivered a, c.Acts host program cfgs delivered a :=
  reached.acts lawful (loadProgram_accepted loaded) distinct

theorem cluster_refines_actors_pair :
    ∃ delivered a, (samplePair [0, 1, 0, 1, 0]).Acts jsonHost sampleProgram sampleNodes delivered
      a :=
  cluster_refines_actors jsonHost_lawful sampleProgram_loaded sampleNodes_distinct
    (samplePair_reachable [0, 1, 0, 1, 0])

end Simulation

end UcoStack.System
