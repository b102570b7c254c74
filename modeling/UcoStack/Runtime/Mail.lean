import Mathlib.Algebra.Order.Group.Multiset
import UcoStack.Library.ActorModel
import UcoStack.Runtime.Control
import UcoStack.Runtime.StateTrace
import UcoStack.Runtime.RecordDrains

/-!
# The mail of a node

A message that has not been handled lies in an inbox, behind a timer, in the fault
injector or on the network.  Wherever it lies, it is one letter addressed to one actor,
and moving it from one of these places to another changes nothing about the letter.
What a node does is seen here as bookkeeping of its mail: only the handling of a
message takes a letter away, and only its handler makes new ones.
-/

namespace UcoStack.Runtime

open StateRun

/-! ## Letters and where they go -/

/-- Where an actor lives. -/
abbrev Place := NodeId × ActorId

/-- An addressed letter; `none` is a payload that is no message. -/
abbrev Mail := Place × Option Letter

section Addresses

variable {V : Type} (host : Host V) (nodeId : NodeId)

/-- The actor that a message from `nodeId` for the target goes to. -/
def address : Target → Place
  | .localService service => (nodeId, actorIdForService host service)
  | .remoteService node service => (node, actorIdForService host service)

def Post.mail (post : Post) : Mail := (address host nodeId post.target, some post.letter)

def Outgoing.mail (out : Outgoing V) : Mail :=
  (address host nodeId out.target, letterOf host out.payload)

def PendingTimer.mail (timer : PendingTimer V) : Mail :=
  (address host nodeId timer.target, letterOf host timer.payload)

def WireEnvelope.mail (env : WireEnvelope V) : Mail :=
  ((env.toNode, env.toActor), letterOf host env.payload)

/-- The letters in the inbox of actor `id`. -/
def inboxMail (id : ActorId) (inbox : List (MsgId × V)) : Multiset Mail :=
  (inbox.map fun message => ((nodeId, id), letterOf host message.2) : List Mail)

def timerMail (timers : List (PendingTimer V)) : Multiset Mail :=
  (timers.map (PendingTimer.mail host nodeId) : List Mail)

def wireMail (envs : List (WireEnvelope V)) : Multiset Mail :=
  (envs.map (WireEnvelope.mail host) : List Mail)

def Core.mail (core : Core V) : Multiset Mail :=
  HashMap.gather (fun id actor => inboxMail host nodeId id actor.inbox) core.actors +
    timerMail host nodeId core.pendingTimers

variable {host nodeId}

@[simp] theorem wireMail_nil : wireMail host ([] : List (WireEnvelope V)) = 0 := rfl

theorem wireMail_append (first second : List (WireEnvelope V)) :
    wireMail host (first ++ second) = wireMail host first + wireMail host second := by
  rw [wireMail, List.map_append]
  exact (Multiset.coe_add _ _).symm

theorem wireMail_cons (env : WireEnvelope V) (rest : List (WireEnvelope V)) :
    wireMail host (env :: rest) = {env.mail host} + wireMail host rest := rfl

variable (host) in
theorem wireMail_subperm {first second : List (WireEnvelope V)} (fewer : first.Subperm second) :
    wireMail host first ≤ wireMail host second := by
  have inside : (first : Multiset (WireEnvelope V)) ≤ second := Multiset.coe_le.mpr fewer
  exact Multiset.map_le_map inside

theorem timerMail_append (first second : List (PendingTimer V)) :
    timerMail host nodeId (first ++ second) =
      timerMail host nodeId first + timerMail host nodeId second := by
  rw [timerMail, List.map_append]
  exact (Multiset.coe_add _ _).symm

theorem timerMail_perm {first second : List (PendingTimer V)} (same : first.Perm second) :
    timerMail host nodeId first = timerMail host nodeId second :=
  Multiset.coe_eq_coe.mpr (same.map _)

theorem inboxMail_append (id : ActorId) (inbox : List (MsgId × V)) (message : MsgId × V) :
    inboxMail host nodeId id (inbox ++ [message]) =
      inboxMail host nodeId id inbox + {((nodeId, id), letterOf host message.2)} := by
  rw [inboxMail, List.map_append]
  exact (Multiset.coe_add _ _).symm

theorem inboxMail_cons (id : ActorId) (message : MsgId × V) (inbox : List (MsgId × V)) :
    inboxMail host nodeId id (message :: inbox) =
      ((nodeId, id), letterOf host message.2) ::ₘ inboxMail host nodeId id inbox := rfl

end Addresses

/-! ## The mail of a core -/

section Cores

variable {V : Type} (host : Host V) (nodeId : NodeId) {core : Core V} {id : ActorId}
  {actor : Actor V}

/-- Only the inbox of the replaced actor counts. -/
theorem Core.mail_setActor (found : core.actors.lookup id = some actor) (replaced : Actor V) :
    (core.setActor id replaced).mail host nodeId + inboxMail host nodeId id actor.inbox =
      core.mail host nodeId + inboxMail host nodeId id replaced.inbox := by
  have balance := HashMap.gather_replace
    (fun id actor => inboxMail host nodeId id (Actor.inbox actor)) found replaced
  calc (core.setActor id replaced).mail host nodeId + inboxMail host nodeId id actor.inbox
      = HashMap.gather (fun id actor => inboxMail host nodeId id (Actor.inbox actor))
          (core.actors.insert id replaced) + inboxMail host nodeId id actor.inbox +
          timerMail host nodeId core.pendingTimers := add_right_comm _ _ _
    _ = HashMap.gather (fun id actor => inboxMail host nodeId id (Actor.inbox actor))
          core.actors + inboxMail host nodeId id replaced.inbox +
          timerMail host nodeId core.pendingTimers := congrArg (· + _) balance
    _ = core.mail host nodeId + inboxMail host nodeId id replaced.inbox := add_right_comm _ _ _

theorem Core.mail_enqueue (found : core.actors.lookup id = some actor) (msgId : MsgId)
    (payload : V) :
    (core.enqueue id actor msgId payload).mail host nodeId =
      core.mail host nodeId + {((nodeId, id), letterOf host payload)} := by
  have balance := Core.mail_setActor host nodeId found
    { actor with inbox := actor.inbox ++ [(msgId, payload)] }
  rw [inboxMail_append, add_comm (inboxMail host nodeId id actor.inbox), ← add_assoc] at balance
  exact add_right_cancel balance

/-- Taking a message out of its inbox takes its letter away. -/
theorem Core.mail_pop {message : MsgId × V} {rest : List (MsgId × V)}
    (found : core.actors.lookup id = some actor) (inbox : actor.inbox = message :: rest) :
    core.mail host nodeId = ((nodeId, id), letterOf host message.2) ::ₘ
      (core.pop id actor message rest).mail host nodeId := by
  have balance := Core.mail_setActor host nodeId found
    { actor with inbox := rest }
  rw [inbox, inboxMail_cons, Multiset.add_cons, ← Multiset.cons_add] at balance
  exact (add_right_cancel balance).symm

theorem Core.mail_write (found : core.actors.lookup id = some actor) (state : StateMap) :
    (core.setActor id { actor with state := state }).mail host nodeId = core.mail host nodeId :=
  add_right_cancel (Core.mail_setActor host nodeId found
    { actor with state := state })

/-- An envelope for an unknown actor is lost. -/
theorem Core.mail_receive (core : Core V) (env : WireEnvelope V) (own : env.toNode = nodeId) :
    (core.receive env.toActor env.msgId env.payload).mail host nodeId ≤
      core.mail host nodeId + {env.mail host} := by
  have same : env.mail host = ((nodeId, env.toActor), letterOf host env.payload) := by
    rw [WireEnvelope.mail, own]
  rw [same, Core.receive]
  split
  · rename_i found
    exact (Core.mail_enqueue host nodeId found _ _).le
  · exact Multiset.le_add_right _ _

theorem Core.mail_receiveAll (core : Core V) {envs : List (WireEnvelope V)}
    (own : ∀ env ∈ envs, env.toNode = nodeId) :
    (core.receiveAll envs).mail host nodeId ≤ core.mail host nodeId + wireMail host envs := by
  induction envs generalizing core with
  | nil => exact (add_zero _).ge
  | cons env rest ih =>
      have here := Core.mail_receive host nodeId core env (own env List.mem_cons_self)
      have later := ih (core.receive env.toActor env.msgId env.payload) fun other member =>
        own other (List.mem_cons_of_mem env member)
      rw [wireMail_cons, ← add_assoc]
      exact later.trans (add_le_add_left here _)

theorem Core.profile_receiveAll (core : Core V) (envs : List (WireEnvelope V)) :
    (core.receiveAll envs).profile = core.profile ∧
      (core.receiveAll envs).delivered = core.delivered := by
  have delivered (core : Core V) (env : WireEnvelope V) :
      (core.receive env.toActor env.msgId env.payload).delivered = core.delivered := by
    rw [Core.receive]
    split
    · rfl
    · rfl
  induction envs generalizing core with
  | nil => exact ⟨rfl, rfl⟩
  | cons env rest ih =>
      obtain ⟨profile, kept⟩ := ih (core.receive env.toActor env.msgId env.payload)
      exact ⟨profile.trans (Core.profile_receive core _ _ _), kept.trans (delivered core env)⟩

theorem Core.mail_schedule (site : Site) (step : Nat) (actorId : ActorId) (cause : MsgId × V)
    (out : Outgoing V) (core : Core V) :
    (scheduleTimer site step actorId cause out core).mail host nodeId =
      core.mail host nodeId + {out.mail host nodeId} := by
  rw [Core.mail, Core.mail, add_assoc]
  exact congrArg (_ + ·) (timerMail_append core.pendingTimers _)

variable {host}

/-- The site maps services to the actors named after them. -/
def Site.Named (host : Host V) (site : Site) : Prop :=
  ∀ service id, site.serviceToActor.lookup service = some id → id = actorIdForService host service

/-- Dispatching a message puts its letter into an inbox or into an envelope. -/
theorem routeOutgoing_mail {site : Site} (named : site.Named host) {fromActor : ActorId}
    {target : Target} {payload : V} {cause : MsgId × V} {dispatched : Dispatched V}
    (routed : routeOutgoing site fromActor target payload cause core = .ok dispatched) :
    dispatched.core.mail host site.nodeId + wireMail host dispatched.envelope.toList =
      core.mail host site.nodeId + {(address host site.nodeId target, letterOf host payload)} := by
  rcases (routeOutgoing_ok site).mp routed with
    ⟨service, toActorId, toActor, rfl, mapped, found, rfl⟩ |
    ⟨node, service, toActorId, rfl, mapped, rfl⟩
  · have kept : (core.allocate site.nodeId).2.actors.lookup toActorId = some toActor := found
    have enqueued := Core.mail_enqueue host site.nodeId kept
      (core.allocate site.nodeId).1 payload
    cases named service toActorId mapped
    exact (add_zero _).trans enqueued
  · cases named service toActorId mapped
    rfl

end Cores

end UcoStack.Runtime
