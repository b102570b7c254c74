import Mathlib.Algebra.BigOperators.Ring.Finset
import Mathlib.Algebra.Order.Ring.Int
import Mathlib.Data.Int.ConditionallyCompleteOrder
import Mathlib.Order.ConditionallyCompleteLattice.Basic
import Mathlib.Tactic.Ring
import UcoStack.System.Work

/-!
# The program of the repository

`programs/distributed_services.uco` runs a gateway and an echo service on every node.  A
started gateway greets the echo services of its peers, at once and once more after a
delay, and an echo service answers every greeting.
-/

namespace UcoStack.System

open UcoStack.Lang UcoStack.Runtime StateRun

/-! ## The program -/

/-- `programs/distributed_services.uco`. -/
def servicesSource : String :=
  "# Unified Correctness-Oriented service program.

service Gateway
state sent = 0
on start
  effects state_write state_read log send_remote timer_local timer_remote
  inc sent
  if sent == 1 log \"first broadcast from $self_node\"
  send remote peers Echo hello \"hello #$state.sent from $self_node ($text)\"
  timer 2 Gateway audit \"audit from $self_node sent=$state.sent\"
  timer 3 remote peers Echo hello \"delayed hello #$state.sent from $self_node\"
on echo_reply
  effects log
  log \"got echo reply from $from_node: $text (sent=$state.sent root=$prov.origin_msg hops=$prov.hops)\"
on audit
  effects log
  log \"timer fired: $text\"

service Echo
state seen = 0
on hello
  effects state_write log send_remote
  inc seen
  log \"echo received #$state.seen from $from_node: $text (origin=$prov.origin_service/$prov.origin_msg hops=$prov.hops)\"
  send remote sender Gateway echo_reply \"echo#$state.seen($text)\"
"

def startPlan : HandlerPlan where
  actions :=
    [.incState "sent" 1,
      .ifStateEq "sent" 1 (.log "first broadcast from $self_node"),
      .sendRemote .peers "Echo" "hello" "hello #$state.sent from $self_node ($text)",
      .timerLocal 2 "Gateway" "audit" "audit from $self_node sent=$state.sent",
      .timerRemote 3 .peers "Echo" "hello" "delayed hello #$state.sent from $self_node"]
  declaredEffects := [.stateWrite, .stateRead, .log, .sendRemote, .timerLocal, .timerRemote]

def replyPlan : HandlerPlan where
  actions :=
    [.log ("got echo reply from $from_node: $text (sent=$state.sent root=$prov.origin_msg " ++
      "hops=$prov.hops)")]
  declaredEffects := [.log]

def auditPlan : HandlerPlan where
  actions := [.log "timer fired: $text"]
  declaredEffects := [.log]

def helloPlan : HandlerPlan where
  actions :=
    [.incState "seen" 1,
      .log ("echo received #$state.seen from $from_node: $text (origin=$prov.origin_service/" ++
        "$prov.origin_msg hops=$prov.hops)"),
      .sendRemote .sender "Gateway" "echo_reply" "echo#$state.seen($text)"]
  declaredEffects := [.stateWrite, .log, .sendRemote]

def servicesProgram : Program where
  services := ["Gateway", "Echo"]
  serviceInitialState :=
    AList.insert "Echo" (AList.insert "seen" 0 ∅)
      (AList.insert "Gateway" (AList.insert "sent" 0 ∅) ∅)
  handlers :=
    AList.insert ("Echo", "hello") helloPlan
      (AList.insert ("Gateway", "audit") auditPlan
        (AList.insert ("Gateway", "echo_reply") replyPlan
          (AList.insert ("Gateway", "start") startPlan ∅)))

def servicesModule : Lang.Module where
  services :=
    [{ name := "Gateway"
       states := [⟨"sent", 0⟩]
       handlers :=
         [⟨"start", startPlan.declaredEffects, startPlan.actions⟩,
           ⟨"echo_reply", replyPlan.declaredEffects, replyPlan.actions⟩,
           ⟨"audit", auditPlan.declaredEffects, auditPlan.actions⟩] },
      { name := "Echo"
        states := [⟨"seen", 0⟩]
        handlers := [⟨"hello", helloPlan.declaredEffects, helloPlan.actions⟩] }]

set_option maxRecDepth 8000 in
theorem servicesModule_parsed : parseModule servicesSource = .ok servicesModule := by
  have chars : servicesSource.toList = _ :=
    (congrArg String.toList (rfl : servicesSource = String.ofList _)).trans String.toList_ofList
  rw [parseModule, chars]
  decide +kernel

theorem servicesProgram_loaded {V : Type} (host : Host V) :
    loadProgram host servicesSource = .ok servicesProgram := by
  rw [loadProgram, servicesModule_parsed]
  rfl

/-! ## Its handlers -/

/-- The state variable of the service, and the message that increments it. -/
def counterName (service : String) : String := if service = "Gateway" then "sent" else "seen"

def countedType (service : String) : String := if service = "Gateway" then "start" else "hello"

/-- The service that messages of the type are for. -/
def recipient (msgType : String) : Option String :=
  if msgType ∈ ["start", "echo_reply", "audit"] then some "Gateway"
  else if msgType = "hello" then some "Echo" else none

section Handlers

variable {V : Type} {host : Host V} {selfNode : NodeId} {peers : PeerMap}

/-- A handler that starts with an increment and then only logs and sends. -/
theorem controlAll_count {sender : Option NodeId} {key : String} {rest : List ActionDecl}
    {state : StateMap} {n : Int} (found : state.lookup key = some n)
    (steady : ∀ value, ∃ posts, controlAll host selfNode peers sender rest
      ⟨state.insert key value, []⟩ = some ⟨state.insert key value, posts⟩) :
    (checkedAdd n 1 = none ∧
      controlAll host selfNode peers sender (.incState key 1 :: rest) ⟨state, []⟩ = none) ∨
    ∃ value posts, checkedAdd n 1 = some value ∧
      controlAll host selfNode peers sender (.incState key 1 :: rest) ⟨state, []⟩ =
        some ⟨state.insert key value, posts⟩ := by
  have first : controlAction host selfNode peers sender (.incState key 1) ⟨state, []⟩ =
      (checkedAdd n 1).map fun value => ⟨state.insert key value, []⟩ := by
    rw [controlAction, found]
    rfl
  rw [controlAll, List.foldlM_cons, first]
  cases added : checkedAdd n 1 with
  | none => exact .inl ⟨rfl, rfl⟩
  | some value =>
      obtain ⟨posts, later⟩ := steady value
      exact .inr ⟨value, posts, rfl, later⟩

theorem startPlan_steady {sender : Option NodeId} (state : StateMap) (value : Int) :
    ∃ posts, controlAll host selfNode peers sender startPlan.actions.tail
      ⟨state.insert "sent" value, []⟩ = some ⟨state.insert "sent" value, posts⟩ := by
  have read : controlAction host selfNode peers sender
      (.ifStateEq "sent" 1 (.log "first broadcast from $self_node"))
      ⟨state.insert "sent" value, []⟩ = some ⟨state.insert "sent" value, []⟩ := by
    rw [controlAction, AList.lookup_insert, Option.bind_some]
    split
    · rfl
    · rfl
  rw [startPlan, List.tail_cons, controlAll, List.foldlM_cons, read]
  exact ⟨_, rfl⟩

/-- A counted message increments the counter, every other message changes nothing. -/
theorem services_control {service : String} (letter : Letter) {state : StateMap} {n : Int}
    (member : service ∈ servicesProgram.services)
    (found : state.lookup (counterName service) = some n) :
    (letter.msgType ≠ countedType service ∧
      controlActions host selfNode peers servicesProgram service letter state =
        some ⟨state, []⟩) ∨
    (letter.msgType = countedType service ∧
      ((checkedAdd n 1 = none ∧
        controlActions host selfNode peers servicesProgram service letter state = none) ∨
      ∃ value posts, checkedAdd n 1 = some value ∧
        controlActions host selfNode peers servicesProgram service letter state =
          some ⟨state.insert (counterName service) value, posts⟩)) := by
  obtain ⟨msgType, sender⟩ := letter
  cases handler : servicesProgram.handlers.lookup (service, msgType) with
  | none =>
      refine .inl ⟨?_, by rw [controlActions, handler]⟩
      rintro rfl
      rcases List.mem_cons.mp member with rfl | rest
      · cases handler
      · cases List.mem_singleton.mp rest
        cases handler
  | some plan =>
      rw [controlActions, handler]
      rcases List.mem_cons.mp (AList.mem_lookup_iff.mp handler) with same | entry
      · cases same
        exact .inr ⟨rfl, controlAll_count found fun value => ⟨_, rfl⟩⟩
      rcases List.mem_cons.mp entry with same | entry
      · cases same
        have uncounted : "audit" ≠ countedType "Gateway" := by decide
        exact .inl ⟨uncounted, rfl⟩
      rcases List.mem_cons.mp entry with same | entry
      · cases same
        have uncounted : "echo_reply" ≠ countedType "Gateway" := by decide
        exact .inl ⟨uncounted, rfl⟩
      · cases List.mem_singleton.mp entry
        exact .inr ⟨rfl, controlAll_count found (startPlan_steady state)⟩

/-- What a handler sends goes to the service that the message is for. -/
theorem services_posts {service : String} {letter : Letter} {state : StateMap} {control : Control}
    (ran : controlActions host selfNode peers servicesProgram service letter state = some control)
    {post : Post} (posted : post ∈ control.posts) :
    recipient post.letter.msgType = some post.target.service := by
  rw [controlActions] at ran
  split at ran
  · cases ran
    cases posted
  · rename_i plan handler
    rcases controlAll_posts plan.actions ran posted with old | ⟨message, named, letter⟩
    · cases old
    · rw [letter]
      have sends : ∀ entry ∈ servicesProgram.handlers.entries,
          ∀ sent ∈ entry.2.actions.flatMap actionSends, recipient sent.2 = some sent.1 := by
        decide
      exact sends _ (AList.mem_lookup_iff.mp handler) _ named

end Handlers

/-! ## Its contract -/

section Contracts

variable {ι V : Type} {host : Host V} {cfgs : ι → Config}

/-- The largest value of a counter. -/
def counterMax : Nat := 2 ^ 63 - 1

/-- Counters count, and messages go to the service that they are for. -/
def servicesContract (host : Host V) : Contract where
  good _ service state := ∃ n : Nat, state.lookup (counterName service) = some (n : Int)
  fit place letter := ∃ service, recipient letter.msgType = some service ∧
    place.2 = actorIdForService host service

theorem checkedAdd_one (n : Nat) :
    checkedAdd (n : Int) 1 = if n < counterMax then some ((n + 1 : Nat) : Int) else none := by
  rw [checkedAdd, counterMax]
  split
  · rw [if_pos (by omega)]
    rfl
  · rw [if_neg (by omega)]

theorem servicesContract_kept : (servicesContract host).Kept host servicesProgram cfgs where
  declared i service state declared := by
    rcases List.mem_cons.mp (AList.mem_lookup_iff.mp declared) with same | rest
    · cases same
      exact ⟨0, rfl⟩
    · cases List.mem_singleton.mp rest
      exact ⟨0, rfl⟩
  start i := ⟨"Gateway", rfl, rfl⟩
  handled i service member state letter control good fit ran := by
    constructor
    · obtain ⟨n, found⟩ := good
      rcases @services_control _ host (cfgs i).nodeId (cfgs i).peers service letter state n member
        found with ⟨-, same⟩ | ⟨-, ⟨-, failed⟩ | ⟨value, posts, added, counted⟩⟩
      · cases ran.symm.trans same
        exact ⟨n, found⟩
      · cases ran.symm.trans failed
      · cases ran.symm.trans counted
        rw [checkedAdd_one] at added
        split at added
        · cases added
          exact ⟨n + 1, AList.lookup_insert _⟩
        · cases added
    · intro post posted
      exact ⟨post.target.service, services_posts ran posted, address_actor post.target⟩

end Contracts

/-! ## Its counters -/

def isType (msgType : String) (letter : Option Letter) : Bool :=
  letter.any fun read => read.msgType = msgType

/-- How many of the letters have the type. -/
def typeCount (msgType : String) (letters : List (Option Letter)) : Nat :=
  letters.countP (isType msgType)

section Counters

variable {ι V : Type} {host : Host V} {cfgs : ι → Config}

theorem typeCount_cons (msgType : String) (letter : Option Letter) (rest : List (Option Letter)) :
    typeCount msgType (letter :: rest) = typeCount msgType [letter] + typeCount msgType rest := by
  rw [typeCount, typeCount, typeCount, ← List.singleton_append, List.countP_append]

/-- The step lemma: a letter is counted unless the counter is full. -/
theorem services_react {place : Place} {service : String}
    (member : service ∈ servicesProgram.services) {state : StateMap} {n : Nat}
    (found : state.lookup (counterName service) = some (n : Int)) (bounded : n ≤ counterMax)
    (letter : Option Letter) : ∃ state',
      ((clusterModel cfgs host servicesProgram).react place (some (service, state)) letter).1 =
        some (service, state') ∧
      state'.lookup (counterName service) =
        some ((min (n + typeCount (countedType service) [letter]) counterMax : Nat) : Int) := by
  have kept (uncounted : isType (countedType service) letter = false) :
      state.lookup (counterName service) =
        some ((min (n + typeCount (countedType service) [letter]) counterMax : Nat) : Int) := by
    rw [typeCount, List.countP_singleton, uncounted, found, if_neg Bool.false_ne_true,
      Nat.add_zero, Nat.min_eq_left bounded]
  cases letter with
  | none => exact ⟨state, rfl, kept rfl⟩
  | some read =>
      rcases @services_control _ host place.1 (peersAt cfgs place.1) service read state n member
        found with ⟨other, same⟩ | ⟨counted, ⟨added, failed⟩ | ⟨value, posts, added, ran⟩⟩
      · exact ⟨state, by simp only [clusterModel, serviceModel, same], kept (decide_eq_false other)⟩
      · refine ⟨state, by simp only [clusterModel, serviceModel, failed], ?_⟩
        rw [checkedAdd_one] at added
        split at added
        · cases added
        · rw [found]
          congr 2
          omega
      · refine ⟨state.insert (counterName service) value,
          by simp only [clusterModel, serviceModel, ran], ?_⟩
        rw [checkedAdd_one] at added
        split at added
        · cases added
          rw [AList.lookup_insert, typeCount, List.countP_singleton,
            if_pos (show isType (countedType service) (some read) = true from
              decide_eq_true counted)]
          congr 2
          omega
        · cases added

/-- The run lemma: an actor's counter counts the letters that it was given. -/
theorem services_stateAfter {place : Place} {service : String}
    (member : service ∈ servicesProgram.services) {state : StateMap} {n : Nat}
    (found : state.lookup (counterName service) = some (n : Int)) (bounded : n ≤ counterMax)
    (letters : List (Option Letter)) : ∃ state',
      (clusterModel cfgs host servicesProgram).stateAfter place (some (service, state)) letters =
        some (service, state') ∧
      state'.lookup (counterName service) =
        some ((min (n + typeCount (countedType service) letters) counterMax : Nat) : Int) := by
  induction letters generalizing state n with
  | nil => exact ⟨state, rfl, by rw [found, typeCount, List.countP_nil]; congr 2; omega⟩
  | cons letter rest ih =>
      obtain ⟨middle, reacted, counted⟩ :=
        @services_react _ _ host cfgs place service member state n found bounded letter
      obtain ⟨final, later, total⟩ := ih counted (Nat.min_le_right _ _)
      refine ⟨final, ?_, ?_⟩
      · rw [ActorModel.stateAfter, List.foldl_cons, reacted]
        exact later
      · rw [total, typeCount_cons _ letter rest]
        congr 2
        omega

variable [Fintype ι] {delivered : List Mail} {a : ClusterActors}

/-- In every run of the actors a counter is the number of counted letters. -/
theorem services_state (run : Run (clusterModel cfgs host servicesProgram).Step
      (clusterStart cfgs host servicesProgram) delivered a) {place : Place} {service : String}
    {state : StateMap} (here : a.state place = some (service, state)) :
    service ∈ servicesProgram.services ∧ actorIdForService host service = place.2 ∧
      state.lookup (counterName service) =
        some ((min (typeCount (countedType service) (ActorModel.lettersTo place delivered))
          counterMax : Nat) : Int) := by
  have history := ActorModel.run_local_history run place
  rw [here] at history
  cases begun : (clusterStart cfgs host servicesProgram).state place with
  | none =>
      have absent (letters : List (Option Letter)) :
          (clusterModel cfgs host servicesProgram).stateAfter place none letters = none := by
        induction letters with
        | nil => rfl
        | cons letter rest ih => exact ih
      rw [begun, absent] at history
      cases history
  | some actor =>
      obtain ⟨first, declared⟩ := actor
      obtain ⟨_, -, member, named, lookup⟩ := clusterStart_state begun
      have zero : declared.lookup (counterName first) = some ((0 : Nat) : Int) := by
        rcases List.mem_cons.mp (AList.mem_lookup_iff.mp lookup) with same | rest
        · cases same
          rfl
        · cases List.mem_singleton.mp rest
          rfl
      obtain ⟨final, after, counted⟩ := @services_stateAfter _ _ host cfgs place first member
        declared 0 zero (Nat.zero_le _) (ActorModel.lettersTo place delivered)
      rw [begun, after] at history
      cases history
      rw [Nat.zero_add] at counted
      exact ⟨member, named, counted⟩

/-- Only the actor that a message is for gets it. -/
theorem services_addressed (distinct : Function.Injective fun i => (cfgs i).nodeId)
    (run : Run (clusterModel cfgs host servicesProgram).Step
      (clusterStart cfgs host servicesProgram) delivered a) {service : String}
    (member : service ∈ servicesProgram.services) {sent : Mail} (inside : sent ∈ delivered)
    (typed : isType (countedType service) sent.2 = true) :
    sent.1.2 = actorIdForService host service := by
  have kept : (servicesContract host).Kept host servicesProgram cfgs := servicesContract_kept
  obtain ⟨-, fit⟩ := ActorModel.run_satisfies (kept.keeps distinct) kept.satisfied run
  obtain ⟨read, letter, receiver, named, same⟩ := fit sent inside
  rw [letter] at typed
  have types : read.msgType = countedType service := of_decide_eq_true typed
  have known : recipient (countedType service) = some service := by
    rcases List.mem_cons.mp member with rfl | rest
    · rfl
    · cases List.mem_singleton.mp rest
      rfl
  rw [types, known] at named
  cases named
  exact same

end Counters

/-! ## Its traffic -/

section Traffic

variable {ι V : Type} {host : Host V} {cfgs : ι → Config} {width : Nat}

def flowWeight (msgType : String) (_ : ActorId) (other : String) : Int :=
  if other = msgType then 1 else 0

/-- A message of the type costs one, and its cause gives `factor` back. -/
def flowCost (msgType cause : String) (factor : Nat) (other : String) : Int :=
  (if other = msgType then 1 else 0) - if other = cause then (factor : Int) else 0

theorem flow_weighed {msgType cause : String} {factor : Nat}
    (handled : ∀ entry ∈ servicesProgram.handlers.entries,
      flowCost msgType cause factor entry.1.2 +
        (entry.2.actions.map (actionDemand host width (flowWeight msgType))).sum ≤
      if entry.1.2 = msgType then 1 else 0) :
    Weighed host width (flowWeight msgType) servicesProgram (flowCost msgType cause factor) where
  nonneg id other := by
    rw [flowWeight]
    split
    · exact Int.one_nonneg
    · exact le_refl 0
  covers id other := by
    rw [flowWeight, flowCost]
    have positive : (0 : Int) ≤ if other = cause then (factor : Int) else 0 := by
      split
      · exact Int.natCast_nonneg factor
      · exact le_refl 0
    exact Int.sub_le_self _ positive
  handled service other plan found := handled ⟨(service, other), plan⟩
    (AList.mem_lookup_iff.mp found)

/-- Messages that `factor` letters of type `cause` can send at most. -/
inductive Flow (width : Nat) : String → String → Nat → Prop where
  | hellos : Flow width "hello" "start" (2 * max 1 width)
  | audits : Flow width "audit" "start" 1
  | replies : Flow width "echo_reply" "hello" 1
  | starts : Flow width "start" "start" 0

theorem Flow.weighed {msgType cause : String} {factor : Nat}
    (flow : Flow width msgType cause factor) :
    Weighed host width (flowWeight msgType) servicesProgram (flowCost msgType cause factor) := by
  apply flow_weighed
  intro entry member
  rcases List.mem_cons.mp member with rfl | member
  · cases flow <;>
      simp [flowCost, flowWeight, helloPlan, actionDemand, fanout]
  rcases List.mem_cons.mp member with rfl | member
  · cases flow <;>
      simp [flowCost, auditPlan, actionDemand]
  rcases List.mem_cons.mp member with rfl | member
  · cases flow <;>
      simp [flowCost, replyPlan, actionDemand]
  · cases List.mem_singleton.mp member
    cases flow <;>
      simp [flowCost, flowWeight, startPlan, actionDemand, fanout]
    exact (two_mul _).ge

/-- How many letters of the type are in the mail. -/
def mailCount (msgType : String) (mail : Multiset Mail) : Nat :=
  mail.countP fun sent => isType msgType sent.2

theorem typeCount_sum (msgType : String) (letters : List (Option Letter)) :
    typeCount msgType letters =
      (letters.map fun letter => if isType msgType letter then 1 else 0).sum := by
  induction letters with
  | nil => rfl
  | cons letter rest ih =>
      rw [typeCount_cons, List.map_cons, List.sum_cons, ih, typeCount, List.countP_singleton]

theorem flowCost_sum (msgType cause : String) (factor : Nat) (delivered : List Mail) :
    (delivered.map fun sent => letterCost (flowCost msgType cause factor) sent.2).sum =
      typeCount msgType (delivered.map Prod.snd) -
        factor * typeCount cause (delivered.map Prod.snd) := by
  induction delivered with
  | nil => simp [typeCount]
  | cons sent rest ih =>
      have one : letterCost (flowCost msgType cause factor) sent.2 =
          typeCount msgType [sent.2] - factor * typeCount cause [sent.2] := by
        cases sent.2 with
        | none => simp [letterCost, typeCount, isType]
        | some letter =>
            simp [letterCost, flowCost, typeCount, isType, List.countP_singleton]
      rw [List.map_cons, List.map_cons, List.sum_cons, ih, one,
        typeCount_cons msgType sent.2 (rest.map Prod.snd),
        typeCount_cons cause sent.2 (rest.map Prod.snd)]
      push_cast
      ring

theorem flowWeight_sum (msgType : String) (mail : Multiset Mail) :
    (mail.map (mailWeight (flowWeight msgType))).sum = mailCount msgType mail := by
  induction mail using Multiset.induction_on with
  | empty => rfl
  | cons sent rest ih =>
      rw [Multiset.map_cons, Multiset.sum_cons, ih, mailCount, mailCount, Multiset.countP_cons]
      obtain ⟨place, letter⟩ := sent
      cases letter with
      | none => simp [mailWeight, isType]
      | some letter =>
          simp [mailWeight, flowWeight, isType, add_comm]

variable [Fintype ι]

/-- The letters that are sent to the gateways at the start. -/
def bootstraps (cfgs : ι → Config) : Nat := ∑ i, bootstrapCount (cfgs i)

/-- A flow in a run of the actors. -/
theorem Flow.run {msgType cause : String} {factor : Nat} (flow : Flow width msgType cause factor)
    (distinct : Function.Injective fun i => (cfgs i).nodeId)
    (narrow : ∀ i, (cfgs i).peers.keys.length ≤ width) {delivered : List Mail} {a : ClusterActors}
    (run : Run (clusterModel cfgs host servicesProgram).Step
      (clusterStart cfgs host servicesProgram) delivered a) :
    typeCount msgType (delivered.map Prod.snd) + mailCount msgType a.mail ≤
      factor * typeCount cause (delivered.map Prod.snd) +
        if "start" = msgType then bootstraps cfgs else 0 := by
  have paid := clusterRun_pays flow.weighed distinct narrow run
  have start : startWeight host servicesProgram cfgs (flowWeight msgType) =
      ((if "start" = msgType then bootstraps cfgs else 0 : Nat) : Int) := by
    rw [startWeight, bootstraps]
    simp only [flowWeight]
    split
    · simp [Nat.cast_sum]
    · simp
  rw [flowCost_sum, flowWeight_sum, start] at paid
  omega

end Traffic

/-! ## The main results -/

section Results

variable {ι V : Type} [Fintype ι] [DecidableEq ι] [DecidableEq V] {host : Host V}
  {cfgs : ι → Config} {width : Nat} {c : Cluster ι V}

/-- How many messages of the type the nodes have handled. -/
def Cluster.handled (host : Host V) (c : Cluster ι V) (msgType : String) : Nat :=
  ∑ i, typeCount msgType ((c.core i).letters host)

/-- How many messages of the type are under way. -/
def Cluster.pending (host : Host V) (cfgs : ι → Config) (c : Cluster ι V) (msgType : String) :
    Nat :=
  mailCount msgType
    (∑ i, (c.process i).mail host (cfgs i) + c.flying.map (WireEnvelope.mail host))

/-- Every message has a cause that was handled before, and no cause counts twice. -/
structure Cluster.Traffic (host : Host V) (cfgs : ι → Config) (width : Nat) (c : Cluster ι V) :
    Prop where
  starts : c.handled host "start" + c.pending host cfgs "start" ≤ bootstraps cfgs
  hellos : c.handled host "hello" + c.pending host cfgs "hello" ≤
    2 * max 1 width * c.handled host "start"
  audits : c.handled host "audit" + c.pending host cfgs "audit" ≤ c.handled host "start"
  replies : c.handled host "echo_reply" + c.pending host cfgs "echo_reply" ≤
    c.handled host "hello"

section Following

variable {program : Program} {delivered : List Mail} {a : ClusterActors}

omit [DecidableEq ι] in
theorem Cluster.Acts.handled_eq (distinct : Function.Injective fun i => (cfgs i).nodeId)
    (acts : c.Acts host program cfgs delivered a) (msgType : String) :
    c.handled host msgType = typeCount msgType (delivered.map Prod.snd) := by
  have sums := lettersOf_sum distinct (fun letter => if isType msgType letter then 1 else 0)
    acts.nodes
  rw [Cluster.handled, typeCount_sum, List.map_map]
  refine Eq.trans (Finset.sum_congr rfl fun i _ => ?_) sums
  rw [typeCount_sum, acts.letters i]

omit [DecidableEq ι] in
theorem Cluster.Acts.pending_le (acts : c.Acts host program cfgs delivered a) (msgType : String) :
    c.pending host cfgs msgType ≤ mailCount msgType a.mail :=
  Multiset.countP_le_of_le _ acts.mail

/-- Only the actor for which the messages of the type are gets them. -/
theorem typeCount_lettersTo (nodeId : NodeId) (id : ActorId) (msgType : String)
    (addressed : ∀ sent ∈ delivered, isType msgType sent.2 = true → sent.1.2 = id) :
    typeCount msgType (ActorModel.lettersTo (nodeId, id) delivered) =
      typeCount msgType (lettersOf nodeId delivered) := by
  rw [typeCount, typeCount, ActorModel.lettersTo, lettersOf, List.countP_map, List.countP_map,
    List.countP_filter, List.countP_filter]
  apply List.countP_congr
  intro sent member
  rw [Bool.and_eq_true, Bool.and_eq_true, decide_eq_true_iff, decide_eq_true_iff]
  constructor
  · rintro ⟨typed, same⟩
    exact ⟨typed, congrArg Prod.fst same⟩
  · rintro ⟨typed, same⟩
    exact ⟨typed, Prod.ext same (addressed sent member typed)⟩

end Following

/-- Whatever happens to a cluster of the program, its nodes handle no more replies than
greetings, no more greetings than two for each peer and start, and no more starts than
there were bootstrap messages; what is still under way included.  Every node counts as
having `width` peers, and at least one: without peers it greets itself. -/
theorem services_traffic (lawful : host.Lawful)
    (distinct : Function.Injective fun i => (cfgs i).nodeId)
    (narrow : ∀ i, (cfgs i).peers.keys.length ≤ width)
    (reached : Reachable host servicesProgram cfgs c) : c.Traffic host cfgs width := by
  obtain ⟨delivered, a, acts⟩ := reached.acts lawful
    (loadProgram_accepted (servicesProgram_loaded host)) distinct
  have flows {msgType cause : String} {factor : Nat} (flow : Flow width msgType cause factor) :
      c.handled host msgType + c.pending host cfgs msgType ≤ factor * c.handled host cause +
        if "start" = msgType then bootstraps cfgs else 0 := by
    have bounded := flow.run distinct narrow acts.run
    rw [acts.handled_eq distinct, acts.handled_eq distinct]
    exact (Nat.add_le_add_left (acts.pending_le msgType) _).trans bounded
  have starts := flows .starts
  have audits := flows .audits
  have replies := flows .replies
  simp only [Nat.zero_mul, Nat.zero_add, Nat.one_mul, if_true] at starts audits replies
  exact ⟨starts, flows .hellos, audits, replies⟩

/-- Two nodes of the program that take turns. -/
def servicesPair (order : List (Fin 2)) : Cluster (Fin 2) JsonDoc :=
  .turns jsonHost servicesProgram sampleNodes order

theorem services_traffic_pair : (servicesPair [0, 1, 0]).Traffic jsonHost sampleNodes 1 :=
  services_traffic jsonHost_lawful sampleNodes_distinct (by decide) (reachable_turns _)

/-- The counter of a service is the number of counted messages that its node has handled,
or as large as it can be. -/
theorem services_counters (lawful : host.Lawful)
    (distinct : Function.Injective fun i => (cfgs i).nodeId)
    (reached : Reachable host servicesProgram cfgs c) {i : ι} {id : ActorId} {actor : Actor V}
    (found : (c.core i).actors.lookup id = some actor) :
    actor.service ∈ servicesProgram.services ∧
      actor.state.lookup (counterName actor.service) =
        some ((min (typeCount (countedType actor.service) ((c.core i).letters host))
          counterMax : Nat) : Int) := by
  obtain ⟨delivered, a, acts⟩ := reached.acts lawful
    (loadProgram_accepted (servicesProgram_loaded host)) distinct
  have here : a.state ((cfgs i).nodeId, id) = some (actor.service, actor.state) := by
    rw [acts.actors i id, Core.profile, found]
    rfl
  obtain ⟨member, named, counted⟩ := services_state acts.run here
  have same := typeCount_lettersTo (cfgs i).nodeId id (countedType actor.service)
    fun sent inside typed => (services_addressed distinct acts.run member inside typed).trans named
  rw [same, acts.letters i] at counted
  exact ⟨member, counted⟩

theorem services_counters_pair : ∃ actor : Actor JsonDoc,
    ((servicesPair [0, 1, 0]).core 0).actors.lookup (actorIdForService jsonHost "Gateway") =
      some actor ∧
    actor.state.lookup (counterName actor.service) =
      some ((min (typeCount (countedType actor.service)
        (((servicesPair [0, 1, 0]).core 0).letters jsonHost)) counterMax : Nat) : Int) := by
  have known : (((servicesPair [0, 1, 0]).core 0).actors.lookup
      (actorIdForService jsonHost "Gateway")).isSome = true := by decide +kernel
  obtain ⟨actor, found⟩ := Option.isSome_iff_exists.mp known
  exact ⟨actor, found,
    (services_counters jsonHost_lawful sampleNodes_distinct (reachable_turns _) found).2⟩

/-- As long as the greetings that the bootstrap messages can cause fit into a counter, with
`width` peers for every node and at least one, no handler of the program ever fails: a
node stops only in its trace or fault injector. -/
theorem services_never_overflow (lawful : host.Lawful)
    (distinct : Function.Injective fun i => (cfgs i).nodeId)
    (narrow : ∀ i, (cfgs i).peers.keys.length ≤ width)
    (small : 2 * max 1 width * bootstraps cfgs ≤ counterMax)
    (reached : Reachable host servicesProgram cfgs c) (i : ι) :
    (c.process i).StopsOnly RecordError := by
  intro error stopped
  obtain ⟨st, failed⟩ := Process.stopError_eq stopped
  have accepted := loadProgram_accepted (servicesProgram_loaded host)
  rcases reached.stopReason lawful accepted distinct failed with
    ⟨-, empty⟩ | record | ⟨service, key, -, delivered, a, state, letter, run, here, waiting, fails⟩
  · cases empty
  · exact record
  obtain ⟨member, -, counted⟩ := services_state run here
  have fewer (place : Place) :
      typeCount (countedType service) (ActorModel.lettersTo place delivered) ≤
        typeCount (countedType service) (delivered.map Prod.snd) :=
    (List.filter_sublist.map Prod.snd).countP_le
  have bounded : typeCount (countedType service) (delivered.map Prod.snd) +
      mailCount (countedType service) a.mail ≤ counterMax := by
    apply le_trans _ small
    have starts := (Flow.starts : Flow width _ _ _).run distinct narrow run
    have hellos := (Flow.hellos : Flow width _ _ _).run distinct narrow run
    rw [Nat.zero_mul, Nat.zero_add, if_pos rfl] at starts
    rcases List.mem_cons.mp member with rfl | rest
    · exact starts.trans (Nat.le_mul_of_pos_left _ (by omega))
    · cases List.mem_singleton.mp rest
      have fewerStarts := (Nat.le_add_right _ _).trans starts
      exact hellos.trans (Nat.mul_le_mul_left _ fewerStarts)
  rcases services_control letter member counted with
    ⟨-, same⟩ | ⟨typed, ⟨added, -⟩ | ⟨_, _, _, same⟩⟩
  · cases fails.symm.trans same
  · have pending : 0 < mailCount (countedType service) a.mail :=
      Multiset.countP_pos.mpr ⟨_, waiting, decide_eq_true typed⟩
    have inside := fewer ((cfgs i).nodeId, actorIdForService host service)
    rw [checkedAdd_one] at added
    split at added
    · cases added
    · omega
  · cases fails.symm.trans same

theorem services_never_overflow_pair : ((servicesPair [0, 1, 0]).process 0).StopsOnly RecordError :=
  services_never_overflow jsonHost_lawful sampleNodes_distinct
    (by decide : ∀ i, (sampleNodes i).peers.keys.length ≤ 1) (by decide) (reachable_turns _) 0

end Results

end UcoStack.System
