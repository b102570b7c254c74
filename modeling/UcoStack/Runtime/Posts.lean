import Mathlib.Algebra.Order.Monoid.Unbundled.Pow
import UcoStack.Runtime.Mail

/-!
# What a handler posts

The letters that a handler posts are read off its actions: every post carries one of the
messages that the actions name, to the service they name.  A table of weights for the
letters of each actor bounds what the posts of a handler weigh together.
-/

namespace UcoStack.Runtime

open UcoStack.Lang

/-! ## The messages of a handler -/

section Posts

variable {V : Type} {host : Host V} {selfNode : NodeId} {peers : PeerMap}
  {sender : Option NodeId}

/-- The services that an action writes to, with the types of the messages. -/
def actionSends : ActionDecl → List (String × String)
  | .log _ => []
  | .setState _ _ => []
  | .incState _ _ => []
  | .timerLocal _ service message _ => [(service, message)]
  | .timerRemote _ _ service message _ => [(service, message)]
  | .sendLocal service message _ => [(service, message)]
  | .sendRemote _ service message _ => [(service, message)]
  | .ifStateEq _ _ thenAction => actionSends thenAction

theorem address_actor (target : Target) :
    (address host selfNode target).2 = actorIdForService host target.service := by
  cases target with
  | localService service => rfl
  | remoteService node service => rfl

theorem controlTargets_service (service : String) (target : RemoteTarget) {place : Target}
    (member : place ∈ controlTargets host selfNode peers sender service target) :
    place.service = service := by
  have named (node : NodeId) : (targetNode selfNode service node).service = service := by
    rw [targetNode]
    split
    · rfl
    · rfl
  have mapped {nodes : List NodeId}
      (member : place ∈ nodes.map (targetNode selfNode service)) : place.service = service := by
    obtain ⟨node, -, rfl⟩ := List.mem_map.mp member
    exact named node
  cases target with
  | peers =>
      rw [controlTargets] at member
      split at member
      · cases List.mem_singleton.mp member
        rfl
      · exact mapped member
  | sender => exact mapped member
  | node raw => exact mapped member

/-- A post that carries one of the messages from this node to its service. -/
def Post.Among (selfNode : NodeId) (sends : List (String × String)) (post : Post) : Prop :=
  ∃ message, (post.target.service, message) ∈ sends ∧ post.letter = ⟨message, some selfNode⟩

theorem Control.send_among {control : Control} {service message : String} {targets : List Target}
    (named : ∀ target ∈ targets, target.service = service) {post : Post}
    (posted : post ∈ (control.send ⟨message, some selfNode⟩ targets).posts) :
    post ∈ control.posts ∨ post.Among selfNode [(service, message)] := by
  rcases List.mem_append.mp posted with old | new
  · exact .inl old
  · obtain ⟨target, member, rfl⟩ := List.mem_map.mp new
    have same : (target.service, message) = (service, message) :=
      congrArg (·, message) (named target member)
    exact .inr ⟨message, List.mem_singleton.mpr same, rfl⟩

theorem controlAction_posts (action : ActionDecl) {control after : Control}
    (ran : controlAction host selfNode peers sender action control = some after) {post : Post}
    (posted : post ∈ after.posts) :
    post ∈ control.posts ∨ post.Among selfNode (actionSends action) := by
  have onward (service : String) :
      ∀ target ∈ [Target.localService service], target.service = service := by
    intro target member
    cases List.mem_singleton.mp member
    rfl
  induction action with
  | log template =>
      cases ran
      exact .inl posted
  | setState key value =>
      obtain ⟨_, -, rfl⟩ := Option.map_eq_some_iff.mp ran
      exact .inl posted
  | incState key amount =>
      obtain ⟨current, -, added⟩ := Option.bind_eq_some_iff.mp ran
      obtain ⟨_, -, rfl⟩ := Option.map_eq_some_iff.mp added
      exact .inl posted
  | timerLocal steps service message template =>
      cases ran
      exact Control.send_among (onward service) posted
  | timerRemote steps target service message template =>
      cases ran
      exact Control.send_among (fun _ => controlTargets_service service target) posted
  | sendLocal service message template =>
      cases ran
      exact Control.send_among (onward service) posted
  | sendRemote target service message template =>
      cases ran
      exact Control.send_among (fun _ => controlTargets_service service target) posted
  | ifStateEq key value thenAction ih =>
      obtain ⟨current, -, chosen⟩ := Option.bind_eq_some_iff.mp ran
      split at chosen
      · exact ih chosen
      · cases chosen
        exact .inl posted

/-- A handler posts what its actions say, to the services they name. -/
theorem controlAll_posts (actions : List ActionDecl) {control after : Control}
    (ran : controlAll host selfNode peers sender actions control = some after) {post : Post}
    (posted : post ∈ after.posts) :
    post ∈ control.posts ∨ post.Among selfNode (actions.flatMap actionSends) := by
  induction actions generalizing control with
  | nil =>
      cases ran
      exact .inl posted
  | cons action rest ih =>
      rw [controlAll, List.foldlM_cons] at ran
      obtain ⟨middle, here, later⟩ := Option.bind_eq_some_iff.mp ran
      rcases ih later with early | ⟨message, member, letter⟩
      · rcases controlAction_posts action here early with old | ⟨message, member, letter⟩
        · exact .inl old
        · exact .inr ⟨message, List.mem_append_left _ member, letter⟩
      · exact .inr ⟨message, List.mem_append_right _ member, letter⟩

end Posts

/-! ## Weights -/

section Weights

variable {V M : Type} [AddCommMonoid M] (host : Host V) (width : Nat)
  (weight : ActorId → String → M)

/-- What a letter weighs at its place. -/
def mailWeight (sent : Mail) : M := sent.2.elim 0 fun letter => weight sent.1.2 letter.msgType

def letterCost (cost : String → M) (letter : Option Letter) : M :=
  letter.elim 0 fun letter => cost letter.msgType

/-- How many messages a remote send makes at most on a node with `width` peers. -/
def fanout : RemoteTarget → Nat
  | .peers => max 1 width
  | .sender => 1
  | .node _ => 1

/-- What the messages of an action weigh at most. -/
def actionDemand : ActionDecl → M
  | .log _ => 0
  | .setState _ _ => 0
  | .incState _ _ => 0
  | .timerLocal _ service message _ => weight (actorIdForService host service) message
  | .timerRemote _ target service message _ =>
      fanout width target • weight (actorIdForService host service) message
  | .sendLocal service message _ => weight (actorIdForService host service) message
  | .sendRemote target service message _ =>
      fanout width target • weight (actorIdForService host service) message
  | .ifStateEq _ _ thenAction => actionDemand thenAction

/-- A table of weights that decreases along every handler of the program: a letter pays its
own cost and what its handler sends. -/
structure Weighed [PartialOrder M] (program : Program) (cost : String → M) : Prop where
  nonneg : ∀ id msgType, 0 ≤ weight id msgType
  covers : ∀ id msgType, cost msgType ≤ weight id msgType
  handled : ∀ service msgType plan, program.handlers.lookup (service, msgType) = some plan →
    cost msgType + (plan.actions.map (actionDemand host width weight)).sum ≤
      weight (actorIdForService host service) msgType

variable {host width weight} {selfNode : NodeId} {peers : PeerMap} {sender : Option NodeId}

/-- What the posts of a handler weigh. -/
def postsWeight (host : Host V) (selfNode : NodeId) (weight : ActorId → String → M)
    (posts : List Post) : M :=
  (posts.map fun post => mailWeight weight (post.mail host selfNode)).sum

theorem controlTargets_length (narrow : peers.keys.length ≤ width) (service : String)
    (target : RemoteTarget) :
    (controlTargets host selfNode peers sender service target).length ≤ fanout width target := by
  cases target with
  | peers =>
      rw [controlTargets, fanout]
      split
      · exact Nat.le_max_left 1 width
      · rw [List.length_map, sortedPeerIds, List.length_insertionSort]
        exact narrow.trans (Nat.le_max_right 1 width)
  | sender =>
      rw [controlTargets, fanout, List.length_map]
      exact Option.length_toList_le
  | node raw =>
      rw [controlTargets, fanout, List.length_map]
      exact Option.length_toList_le

/-- Sending one letter to actors of one service. -/
theorem Control.send_weight (control : Control) (letter : Letter) (service : String)
    {targets : List Target} (named : ∀ target ∈ targets, target.service = service) :
    postsWeight host selfNode weight (control.send letter targets).posts =
      postsWeight host selfNode weight control.posts +
        targets.length • weight (actorIdForService host service) letter.msgType := by
  have each (target : Target) (member : target ∈ targets) :
      mailWeight weight (Post.mail host selfNode ⟨target, letter⟩) =
        weight (actorIdForService host service) letter.msgType := by
    rw [← named target member, ← @address_actor _ host selfNode target]
    rfl
  rw [postsWeight, Control.send, List.map_append, List.sum_append, List.map_map]
  have same : (targets.map fun target => mailWeight weight (Post.mail host selfNode
      ⟨target, letter⟩)) = List.replicate targets.length
        (weight (actorIdForService host service) letter.msgType) := by
    rw [List.map_congr_left each]
    exact List.map_const'
  rw [← List.sum_replicate, ← same]
  rfl

variable [PartialOrder M] [IsOrderedAddMonoid M]
  (nonneg : ∀ id msgType, 0 ≤ weight id msgType)

include nonneg

theorem actionDemand_nonneg (action : ActionDecl) : 0 ≤ actionDemand host width weight action := by
  induction action with
  | log template => exact le_refl 0
  | setState key value => exact le_refl 0
  | incState key amount => exact le_refl 0
  | timerLocal steps service message template => exact nonneg _ _
  | timerRemote steps target service message template => exact nsmul_nonneg (nonneg _ _) _
  | sendLocal service message template => exact nonneg _ _
  | sendRemote target service message template => exact nsmul_nonneg (nonneg _ _) _
  | ifStateEq key value thenAction ih => exact ih

/-- The step lemma: an action posts no more than its demand. -/
theorem controlAction_weight (narrow : peers.keys.length ≤ width) (action : ActionDecl)
    {control after : Control}
    (ran : controlAction host selfNode peers sender action control = some after) :
    postsWeight host selfNode weight after.posts ≤
      postsWeight host selfNode weight control.posts + actionDemand host width weight action := by
  have remote (target : RemoteTarget) (service message : String) :
      postsWeight host selfNode weight (control.send ⟨message, some selfNode⟩
          (controlTargets host selfNode peers sender service target)).posts ≤
        postsWeight host selfNode weight control.posts +
          fanout width target • weight (actorIdForService host service) message := by
    have count := @controlTargets_length _ host width selfNode peers sender narrow service target
    rw [Control.send_weight control _ service fun place => controlTargets_service service target]
    exact add_le_add_right (nsmul_le_nsmul_left (nonneg _ _) count) _
  have onward (service message : String) :
      postsWeight host selfNode weight
          (control.send ⟨message, some selfNode⟩ [.localService service]).posts ≤
        postsWeight host selfNode weight control.posts +
          weight (actorIdForService host service) message := by
    have named : ∀ target ∈ [Target.localService service], target.service = service := by
      intro target member
      cases List.mem_singleton.mp member
      rfl
    rw [Control.send_weight control _ service named, List.length_singleton, one_nsmul]
  induction action with
  | log template =>
      cases ran
      exact (add_zero _).ge
  | setState key value =>
      obtain ⟨_, -, rfl⟩ := Option.map_eq_some_iff.mp ran
      exact (add_zero _).ge
  | incState key amount =>
      obtain ⟨current, -, added⟩ := Option.bind_eq_some_iff.mp ran
      obtain ⟨_, -, rfl⟩ := Option.map_eq_some_iff.mp added
      exact (add_zero _).ge
  | timerLocal steps service message template =>
      cases ran
      exact onward service message
  | timerRemote steps target service message template =>
      cases ran
      exact remote target service message
  | sendLocal service message template =>
      cases ran
      exact onward service message
  | sendRemote target service message template =>
      cases ran
      exact remote target service message
  | ifStateEq key value thenAction ih =>
      obtain ⟨current, -, chosen⟩ := Option.bind_eq_some_iff.mp ran
      split at chosen
      · exact ih chosen
      · cases chosen
        exact le_add_of_nonneg_right (actionDemand_nonneg nonneg thenAction)

theorem controlAll_weight (narrow : peers.keys.length ≤ width) (actions : List ActionDecl)
    {control after : Control}
    (ran : controlAll host selfNode peers sender actions control = some after) :
    postsWeight host selfNode weight after.posts ≤
      postsWeight host selfNode weight control.posts +
        (actions.map (actionDemand host width weight)).sum := by
  induction actions generalizing control with
  | nil =>
      cases ran
      exact (add_zero _).ge
  | cons action rest ih =>
      rw [controlAll, List.foldlM_cons] at ran
      obtain ⟨middle, here, later⟩ := Option.bind_eq_some_iff.mp ran
      have first := controlAction_weight nonneg narrow action here
      have others := ih later
      rw [List.map_cons, List.sum_cons, ← add_assoc]
      exact others.trans (add_le_add_left first _)

end Weights

end UcoStack.Runtime
