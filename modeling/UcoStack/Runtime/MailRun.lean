import UcoStack.Runtime.Mail
import UcoStack.Runtime.Outcome

/-!
# The bookkeeping of a step

What each part of a recorded step does with the mail of its node, however the part
ends.  `Spends` covers the parts that handle nothing, `Turn` a whole step: at most one
letter is handled, and what there is afterwards was there before or is an answer to it.
-/

namespace UcoStack.Runtime

open StateRun Chunks

/-! ## Parts that handle nothing -/

section Spending

variable {V : Type}

/-- No message was handled, and nothing was sent. -/
structure Quiet (s s' : MainState V) : Prop where
  profile : s'.core.profile = s.core.profile
  delivered : s'.core.delivered = s.core.delivered
  sent : s'.sent = s.sent

instance : IsPreorder (MainState V) Quiet where
  refl _ := ⟨rfl, rfl, rfl⟩
  trans _ _ _ first second :=
    ⟨second.profile.trans first.profile, second.delivered.trans first.delivered,
      second.sent.trans first.sent⟩

theorem Rests.quiet {s s' : MainState V} (rests : Rests s s') : Quiet s s' :=
  ⟨Core.profile_of_actors (congrArg Core.actors rests.core), congrArg Core.delivered rests.core,
    rests.sent⟩

/-- From `s` to `s'` the node handed `new` to the network. -/
def SendsOn (s : MainState V) (new : List (WireEnvelope V)) (s' : MainState V) : Prop :=
  s'.sent = s.sent ++ new

theorem SendsOn.trans {s m s' : MainState V} {first second : List (WireEnvelope V)}
    (left : SendsOn s first m) (right : SendsOn m second s') : SendsOn s (first ++ second) s' := by
  rw [SendsOn, right, left, List.append_assoc]

theorem SendsOn.none {s s' : MainState V} (same : s'.sent = s.sent) : SendsOn s [] s' :=
  same.trans (List.append_nil _).symm

variable (host : Host V) (nodeId : NodeId)

/-- No message was handled; the mail in the core and on the network at the end was in
the core before or comes from `budget`. -/
structure Spends (budget : Multiset Mail) (s s' : MainState V) : Prop where
  profile : s'.core.profile = s.core.profile
  delivered : s'.core.delivered = s.core.delivered
  mail : ∃ new, SendsOn s new s' ∧
    s'.core.mail host nodeId + wireMail host new ≤ s.core.mail host nodeId + budget

variable {host nodeId} {budget more : Multiset Mail} {s m s' : MainState V}

theorem Spends.refl (s : MainState V) : Spends host nodeId 0 s s :=
  ⟨rfl, rfl, [], .none rfl, le_rfl⟩

theorem Spends.mono (spends : Spends host nodeId budget s s') (fewer : budget ≤ more) :
    Spends host nodeId more s s' := by
  obtain ⟨new, sent, mail⟩ := spends.mail
  exact ⟨spends.profile, spends.delivered, new, sent, mail.trans (add_le_add_right fewer _)⟩

theorem Spends.trans (first : Spends host nodeId budget s m)
    (second : Spends host nodeId more m s') : Spends host nodeId (budget + more) s s' where
  profile := second.profile.trans first.profile
  delivered := second.delivered.trans first.delivered
  mail := by
    obtain ⟨new, sent, mail⟩ := first.mail
    obtain ⟨new', sent', mail'⟩ := second.mail
    refine ⟨new ++ new', sent.trans sent', ?_⟩
    calc s'.core.mail host nodeId + wireMail host (new ++ new')
        = s'.core.mail host nodeId + wireMail host new' + wireMail host new := by
          rw [wireMail_append, add_comm (wireMail host new), add_assoc]
      _ ≤ m.core.mail host nodeId + more + wireMail host new := add_le_add_left mail' _
      _ = m.core.mail host nodeId + wireMail host new + more := add_right_comm _ _ _
      _ ≤ s.core.mail host nodeId + budget + more := add_le_add_left mail _
      _ = s.core.mail host nodeId + (budget + more) := add_assoc _ _ _

theorem Rests.spends (rests : Rests s s') : Spends host nodeId 0 s s' where
  profile := rests.quiet.profile
  delivered := rests.quiet.delivered
  mail := by
    refine ⟨[], .none rests.sent, ?_⟩
    rw [rests.core]
    exact le_rfl

/-- The second part runs only after the first succeeded. -/
theorem Spends.bind {α β : Type} {x : MainM V α} {f : α → MainM V β}
    (first : Spends host nodeId budget s (finalState (x s)))
    (rest : ∀ a m, x s = .ok a m → Spends host nodeId more m (finalState (f a m))) :
    Spends host nodeId (budget + more) s (finalState ((x >>= f) s)) := by
  rw [bind_apply]
  cases ran : x s with
  | ok a m =>
      rw [ran] at first
      exact first.trans (rest a m ran)
  | error error m =>
      rw [ran] at first
      exact first.mono (Multiset.le_add_right _ _)

end Spending

/-! ## Timers and the outbox -/

section Sending

variable {V : Type} {host : Host V} {site : Site} {s : MainState V}

/-- A dispatched message is in an inbox or on the network. -/
theorem dispatched_spends (named : site.Named host) {fromActor : ActorId} {target : Target}
    {payload : V} {cause : MsgId × V} {dispatched : Dispatched V}
    (routed : routeOutgoing site fromActor target payload cause s.core = .ok dispatched) :
    Spends host site.nodeId {(address host site.nodeId target, letterOf host payload)} s
      ((s.setCore dispatched.core).addSent (dispatched.sends site .record)) where
  profile := routeOutgoing_profile routed
  delivered := routeOutgoing_delivered routed
  mail := by
    have sent := wireMail_subperm host (dispatched.sends_sublist site .record).subperm
    refine ⟨dispatched.sends site .record, rfl, ?_⟩
    exact (add_le_add_right sent _).trans (routeOutgoing_mail named routed).le

theorem fireTimer_spends (named : site.Named host) (timer : PendingTimer V) :
    Spends host site.nodeId {timer.mail host site.nodeId} s
      (finalState (fireTimer site timer s)) := by
  rcases fireTimer_outcome site timer s with rests | ⟨dispatched, routed, rests⟩
  · exact rests.spends.mono (Multiset.zero_le _)
  · have fires := (dispatched_spends named routed).trans rests.spends
    rwa [add_zero] at fires

theorem fireAll_spends (named : site.Named host) (due : List (PendingTimer V)) :
    Spends host site.nodeId (timerMail host site.nodeId due) s
      (finalState (due.forM (fireTimer site) s)) := by
  induction due generalizing s with
  | nil => exact .refl s
  | cons timer rest ih =>
      have split : timerMail host site.nodeId (timer :: rest) =
          {timer.mail host site.nodeId} + timerMail host site.nodeId rest := rfl
      rw [split]
      exact Spends.bind (fireTimer_spends named timer) fun _ _ _ => ih

/-- The letters of the due timers change their place. -/
theorem fireDueTimers_spends (named : site.Named host) (step : Nat) :
    Spends host site.nodeId 0 s (finalState (fireDueTimers site step s)) := by
  let due := dueTimers step s.core.pendingTimers
  let rest := s.core.pendingTimers.filter fun timer => !timerDue step timer
  have taken : (s.core.setTimers rest).mail host site.nodeId + timerMail host site.nodeId due =
      s.core.mail host site.nodeId := by
    have split : timerMail host site.nodeId s.core.pendingTimers =
        timerMail host site.nodeId rest + timerMail host site.nodeId due := by
      rw [add_comm, ← timerMail_append]
      exact timerMail_perm (dueTimers_perm step s.core.pendingTimers)
    rw [Core.mail, Core.mail, split, add_assoc]
    rfl
  obtain ⟨profile, delivered, new, sent, mail⟩ :=
    @fireAll_spends _ host site (s.setCore (s.core.setTimers rest)) named due
  refine ⟨profile, delivered, new, sent, ?_⟩
  rw [add_zero, ← taken]
  exact mail

theorem sendOutgoing_spends (named : site.Named host) {step : Nat} {actorId : ActorId}
    {cause : MsgId × V} (expected : List (EventKind V)) (out : Outgoing V) :
    Spends host site.nodeId {out.mail host site.nodeId} s
      (finalState (sendOutgoing site .record step actorId cause expected out s)) := by
  rw [sendOutgoing]
  split
  · refine ⟨rfl, rfl, [], .none rfl, ?_⟩
    exact (add_zero _).le.trans
      (Core.mail_schedule host site.nodeId site step actorId cause out s.core).le
  · rw [bind_apply, dispatchOutgoing_eq]
    cases routed : routeOutgoing site actorId out.target out.payload cause s.core with
    | error error => exact (Spends.refl s).mono (Multiset.zero_le _)
    | ok dispatched =>
        have emits (s : MainState V) : Rests s
            (finalState (emit .record expected dispatched.event s)) :=
          Moves.bind (recordEvent_rests _) (fun _ => .pure _) s
        have sends := (dispatched_spends named routed).trans (emits _).spends
        rwa [add_zero] at sends

/-- The mail that a handler has queued. -/
def outboxMail (host : Host V) (nodeId : NodeId) (outbox : List (Outgoing V)) : Multiset Mail :=
  (outbox.map (Outgoing.mail host nodeId) : List Mail)

theorem sendOutbox_spends (named : site.Named host) {step : Nat} {actorId : ActorId}
    {cause : MsgId × V} (outbox : List (Outgoing V)) (expected : List (EventKind V)) :
    Spends host site.nodeId (outboxMail host site.nodeId outbox) s
      (finalState (outbox.foldlM (sendOutgoing site .record step actorId cause) expected s)) := by
  induction outbox generalizing expected s with
  | nil => exact .refl s
  | cons out rest ih =>
      have split : outboxMail host site.nodeId (out :: rest) =
          {out.mail host site.nodeId} + outboxMail host site.nodeId rest := rfl
      rw [List.foldlM_cons, split]
      exact Spends.bind (sendOutgoing_spends named expected out) fun expected' _ _ => ih expected'

theorem emitExecuted_spends (named : site.Named host) (step : Nat) (popped : Popped V)
    (incoming : RuntimeMessage) (executed : Executed V) :
    Spends host site.nodeId (outboxMail host site.nodeId executed.ctx.outbox) s
      (finalState (emitExecuted site .record step popped incoming executed s)) := by
  have emits (expected : List (EventKind V)) (event : EventKind V) :
      Moves Rests (emit .record expected event) :=
    .bind (recordEvent_rests _) fun _ => .pure _
  have logs (expected : List (EventKind V)) : Moves Rests (executed.ctx.logs.foldlM
      (fun expected log => emit .record expected (logEvent site popped log)) expected) :=
    .foldlM (fun expected log => emits expected _) expected
  have sends (expected : List (EventKind V)) (m : MainState V) :
      Spends host site.nodeId (outboxMail host site.nodeId executed.ctx.outbox) m
        (finalState (executed.ctx.outbox.foldlM
          (sendOutgoing site .record step popped.actorId (popped.msgId, popped.payload))
          expected m)) :=
    sendOutbox_spends named executed.ctx.outbox expected
  rw [← zero_add (outboxMail host site.nodeId executed.ctx.outbox)]
  apply Spends.bind (emits [] (observedEvent site popped incoming executed.effects) s).spends
  intro expected m _
  rw [← zero_add (outboxMail host site.nodeId executed.ctx.outbox)]
  apply Spends.bind (logs expected m).spends
  exact fun expected' n _ => sends expected' n

end Sending

/-! ## Handling a message -/

section Handling

/-- The services of a program as actors; `peersAt` gives the peers of every node.  An
actor is seen with its service.  Where the interpreter fails, and on a payload that is
no message, the letter is gone and the actor stays as it was. -/
def serviceModel {V : Type} (host : Host V) (program : Program) (peersAt : NodeId → PeerMap) :
    ActorModel Place (Option (String × StateMap)) (Option Letter) where
  react place actor letter :=
    match actor, letter with
    | some (service, state), some letter =>
        match controlActions host place.1 (peersAt place.1) program service letter state with
        | some control =>
            (some (service, control.state), control.posts.map (Post.mail host place.1))
        | none => (actor, [])
    | _, _ => (actor, [])

/-- What a step makes of the actors of a node and of the mail: it handles at most one
letter, and what mail there is then was there before or answers that letter. -/
inductive Turn {State : Type} (model : ActorModel Place State (Option Letter)) (nodeId : NodeId)
    (actors : ActorId → State) (mail : Multiset Mail) :
    List (Option Letter) → (ActorId → State) → Multiset Mail → Prop where
  | quiet {after : Multiset Mail} (fewer : after ≤ mail) :
      Turn model nodeId actors mail [] actors after
  | react (receiver : ActorId) (letter : Option Letter) (rest : Multiset Mail)
      {after : Multiset Mail} (taken : ((nodeId, receiver), letter) ::ₘ rest ≤ mail)
      (fewer : after ≤ rest + ((model.react (nodeId, receiver) (actors receiver) letter).2 :
        Multiset Mail)) :
      Turn model nodeId actors mail [letter]
        (Function.update actors receiver
          (model.react (nodeId, receiver) (actors receiver) letter).1) after

variable {V : Type} {host : Host V} {site : Site} {peersAt : NodeId → PeerMap} {s : MainState V}

/-- The letters of the messages that were handled, in order. -/
def Core.letters (host : Host V) (core : Core V) : List (Option Letter) :=
  core.delivered.map fun message => letterOf host message.2

/-- Between the two states the node took a turn on `mail`, and it keeps `after`. -/
def Takes (host : Host V) (site : Site) (peersAt : NodeId → PeerMap) (mail : Multiset Mail)
    (s s' : MainState V) (after : Multiset Mail) : Prop :=
  ∃ letters new, SendsOn s new s' ∧
    Turn (serviceModel host site.program peersAt) site.nodeId s.core.profile mail letters
      s'.core.profile (after + wireMail host new) ∧
    s'.core.letters host = s.core.letters host ++ letters

theorem Takes.quiet {s' : MainState V} {mail after : Multiset Mail} {new : List (WireEnvelope V)}
    (profile : s'.core.profile = s.core.profile) (delivered : s'.core.delivered = s.core.delivered)
    (sends : SendsOn s new s') (fewer : after + wireMail host new ≤ mail) :
    Takes host site peersAt mail s s' after := by
  refine ⟨[], new, sends, ?_, ?_⟩
  · rw [profile]
    exact .quiet fewer
  · rw [Core.letters, delivered, List.append_nil]
    rfl

theorem Spends.takes {s' : MainState V} {mail after : Multiset Mail}
    (spends : Spends host site.nodeId 0 s s') (fewer : after ≤ s'.core.mail host site.nodeId)
    (more : s.core.mail host site.nodeId ≤ mail) : Takes host site peersAt mail s s' after := by
  obtain ⟨new, sent, spent⟩ := spends.mail
  rw [add_zero] at spent
  exact .quiet spends.profile spends.delivered sent
    (((add_le_add_left fewer _).trans spent).trans more)

/-- The node took a turn on the mail in its core. -/
def TakesTurn (host : Host V) (site : Site) (peersAt : NodeId → PeerMap) (s s' : MainState V) :
    Prop :=
  Takes host site peersAt (s.core.mail host site.nodeId) s s' (s'.core.mail host site.nodeId)

theorem Spends.takesTurn {s' : MainState V} (spends : Spends host site.nodeId 0 s s') :
    TakesTurn host site peersAt s s' := spends.takes le_rfl le_rfl

theorem popInbox_error {receiver : ActorId} {error : RunError V} {m : MainState V}
    (failed : popInbox receiver s = .error error m) : m = s := by
  rw [popInbox, get_bind] at failed
  cases found : s.core.actors.lookup receiver with
  | none =>
      rw [found] at failed
      cases failed
      rfl
  | some actor =>
      rw [found] at failed
      dsimp only at failed
      cases inbox : actor.inbox with
      | nil =>
          rw [inbox] at failed
          cases failed
          rfl
      | cons message rest =>
          rw [inbox] at failed
          cases failed

theorem runHandler_error {popped : Popped V} {incoming : RuntimeMessage} {error : RunError V}
    {m : MainState V} {actor : Actor V}
    (found : s.core.actors.lookup popped.actorId = some actor)
    (failed : runHandler host site popped incoming s = .error error m) :
    m = s ∧ (executeActions host popped.service popped.msgId incoming site.peers site.program
      actor.state (.new site.nodeId)).toOption = none := by
  rw [runHandler, get_bind, found] at failed
  dsimp only at failed
  cases execution : executeActions host popped.service popped.msgId incoming site.peers site.program
      actor.state (.new site.nodeId) with
  | error error =>
      rw [execution] at failed
      cases failed
      exact ⟨rfl, rfl⟩
  | ok executed =>
      rw [execution] at failed
      cases failed

/-- The receiver has reacted to the first message of its inbox. -/
theorem TakesTurn.react {receiver : ActorId} {actor : Actor V} {message : MsgId × V}
    {rest : List (MsgId × V)} (found : s.core.actors.lookup receiver = some actor)
    (inbox : actor.inbox = message :: rest) {s' : MainState V} {next : Option (String × StateMap)}
    {sent : List Mail}
    (reacts : (serviceModel host site.program peersAt).react (site.nodeId, receiver)
      (some (actor.service, actor.state)) (letterOf host message.2) = (next, sent))
    (profile : s'.core.profile = Function.update s.core.profile receiver next)
    (delivered : s'.core.delivered = s.core.delivered ++ [message])
    (mail : ∃ new, SendsOn s new s' ∧ s'.core.mail host site.nodeId + wireMail host new ≤
      (s.core.pop receiver actor message rest).mail host site.nodeId + sent) :
    TakesTurn host site peersAt s s' := by
  have here : s.core.profile receiver = some (actor.service, actor.state) := by
    rw [Core.profile, found]
    rfl
  rw [← here] at reacts
  obtain ⟨new, sends, fewer⟩ := mail
  refine ⟨[letterOf host message.2], new, sends, ?_, ?_⟩
  · have taken := (Core.mail_pop host site.nodeId found inbox).ge
    have turn : Turn (serviceModel host site.program peersAt) site.nodeId s.core.profile
        (s.core.mail host site.nodeId) [letterOf host message.2] _
        (s'.core.mail host site.nodeId + wireMail host new) :=
      .react receiver (letterOf host message.2) _ taken (by rw [reacts]; exact fewer)
    rw [reacts] at turn
    rw [profile]
    exact turn
  · rw [Core.letters, delivered, List.map_append]
    rfl

/-- A letter on which the actor stays as it was and sends nothing. -/
theorem TakesTurn.ignore {receiver : ActorId} {actor : Actor V} {message : MsgId × V}
    {rest : List (MsgId × V)} (found : s.core.actors.lookup receiver = some actor)
    (inbox : actor.inbox = message :: rest)
    (reacts : (serviceModel host site.program peersAt).react (site.nodeId, receiver)
      (some (actor.service, actor.state)) (letterOf host message.2) =
        (some (actor.service, actor.state), [])) :
    TakesTurn host site peersAt s (s.setCore (s.core.pop receiver actor message rest)) := by
  have here : s.core.profile receiver = some (actor.service, actor.state) := by
    rw [Core.profile, found]
    rfl
  have kept : (s.core.pop receiver actor message rest).profile =
      Function.update s.core.profile receiver (some (actor.service, actor.state)) := by
    rw [← here, Function.update_eq_self]
    exact (Core.profile_of_actors rfl).trans (Core.profile_inbox found rest)
  exact .react found inbox reacts kept rfl ⟨[], .none rfl, le_rfl⟩

theorem react_of_none {receiver : ActorId} {service : String} {state : StateMap} {letter : Letter}
    (peers : peersAt site.nodeId = site.peers)
    (failed : controlActions host site.nodeId site.peers site.program service letter state = none) :
    (serviceModel host site.program peersAt).react (site.nodeId, receiver) (some (service, state))
      (some letter) = (some (service, state), []) := by
  rw [← peers] at failed
  simp only [serviceModel, failed]

theorem react_of_some {receiver : ActorId} {service : String} {state : StateMap} {letter : Letter}
    {control : Control} (peers : peersAt site.nodeId = site.peers)
    (controls : controlActions host site.nodeId site.peers site.program service letter state =
      some control) :
    (serviceModel host site.program peersAt).react (site.nodeId, receiver) (some (service, state))
      (some letter) =
        (some (service, control.state), control.posts.map (Post.mail host site.nodeId)) := by
  rw [← peers] at controls
  simp only [serviceModel, controls]

/-- What the handler has queued are the letters that the control has posted. -/
theorem Steered.outboxMail {executed : Executed V} {control : Control}
    (steered : Steered host executed control) (nodeId : NodeId) :
    outboxMail host nodeId executed.ctx.outbox =
      (control.posts.map (Post.mail host nodeId) : List Mail) := by
  let send (posted : Target × Option Letter) : Mail := (address host nodeId posted.1, posted.2)
  have same := congrArg (List.map send) steered.posts
  rw [List.map_map, List.map_map] at same
  exact congrArg _ same

variable (lawful : host.Lawful) (named : site.Named host)
  (peers : peersAt site.nodeId = site.peers)

include lawful named peers

/-- The part of a delivery after the message was taken. -/
theorem runHandler_turn {receiver : ActorId} {actor : Actor V} {msgId : MsgId} {payload : V}
    {rest : List (MsgId × V)} {incoming : RuntimeMessage}
    (found : s.core.actors.lookup receiver = some actor)
    (inbox : actor.inbox = (msgId, payload) :: rest) (own : actor.id = receiver)
    (letter : letterOf host payload = some ⟨incoming.msgType, host.uuidParse incoming.fromNode⟩)
    (step : Nat) :
    TakesTurn host site peersAt s
      (finalState ((runHandler host site ⟨actor.id, actor.service, msgId, payload⟩ incoming >>=
        emitExecuted site .record step ⟨actor.id, actor.service, msgId, payload⟩ incoming)
        (s.setCore (s.core.pop receiver actor (msgId, payload) rest)))) := by
  subst own
  let popped := s.core.pop actor.id actor (msgId, payload) rest
  have stored : popped.actors.lookup actor.id = some { actor with inbox := rest } :=
    AList.lookup_insert _
  have steered := @executeActions_control _ host site.nodeId actor.service msgId incoming site.peers
    lawful site.program actor.state
  rw [bind_apply]
  cases handling : runHandler host site ⟨actor.id, actor.service, msgId, payload⟩ incoming
      (s.setCore popped) with
  | error error m =>
      obtain ⟨rfl, failed⟩ := runHandler_error stored handling
      rw [failed] at steered
      apply TakesTurn.ignore found inbox
      rw [letter]
      generalize controls : controlActions host site.nodeId site.peers site.program actor.service
        ⟨incoming.msgType, host.uuidParse incoming.fromNode⟩ actor.state = control at steered
      cases steered
      exact react_of_none peers controls
  | ok executed m =>
      obtain ⟨current, again, execution, rfl⟩ := runHandler_ok handling
      cases Option.some.inj (stored.symm.trans again)
      rw [execution] at steered
      generalize controls : controlActions host site.nodeId site.peers site.program actor.service
        ⟨incoming.msgType, host.uuidParse incoming.fromNode⟩ actor.state = control at steered
      cases steered with
      | @some _ control steered =>
          have reacts : (serviceModel host site.program peersAt).react (site.nodeId, actor.id)
              (some (actor.service, actor.state)) (letterOf host payload) =
                (some (actor.service, control.state),
                  control.posts.map (Post.mail host site.nodeId)) := by
            rw [letter]
            exact react_of_some peers controls
          obtain ⟨profile, delivered, mail⟩ := @emitExecuted_spends _ host site
            ((s.setCore popped).setCore (popped.setActor actor.id
              { actor with inbox := rest, state := executed.state }))
            named step ⟨actor.id, actor.service, msgId, payload⟩ incoming executed
          have kept : popped.profile = s.core.profile :=
            (Core.profile_of_actors rfl).trans (Core.profile_inbox found rest)
          apply TakesTurn.react found inbox reacts
          · refine profile.trans ((Core.profile_setActor _ _ _).trans ?_)
            rw [kept, steered.state]
          · exact delivered
          · obtain ⟨new, sends, mail⟩ := mail
            refine ⟨new, sends, mail.trans ?_⟩
            rw [steered.outboxMail]
            exact add_le_add_left (Core.mail_write host site.nodeId stored executed.state).le _

theorem processMessage_turn (hosts : s.core.Hosts host site.program) (step : Nat)
    (chosen : PendingDelivery) :
    TakesTurn host site peersAt s
      (finalState (processMessage host site .record step chosen s)) := by
  rw [processMessage, bind_apply]
  cases popping : popInbox chosen.receiver s with
  | error error m =>
      rw [popInbox_error popping]
      exact (Spends.refl s).takesTurn
  | ok popped m =>
      obtain ⟨actor, rest, found, inbox, same, rfl⟩ := popInbox_ok popping
      have own := (hosts.hosted chosen.receiver actor found).id_eq
      obtain ⟨actorId, service, msgId, payload⟩ := popped
      cases same
      dsimp only at inbox ⊢
      rw [if_neg (by rintro ⟨replays, -⟩; cases replays)]
      cases decoded : decodeMsg host payload with
      | none =>
          have unread : letterOf host payload = none := by
            rw [letterOf, decoded]
            rfl
          apply TakesTurn.ignore found inbox
          rw [unread]
          rfl
      | some incoming =>
          have letter : letterOf host payload =
              some ⟨incoming.msgType, host.uuidParse incoming.fromNode⟩ := by
            rw [letterOf, decoded]
            rfl
          exact runHandler_turn lawful named peers found inbox own letter step

theorem deliver_turn [DecidableEq V] (hosts : s.core.Hosts host site.program) (step : Nat)
    (chosen : PendingDelivery) :
    TakesTurn host site peersAt s (finalState (deliver host site .record step chosen s)) := by
  have records := recordEvent_rests chosen.event s
  rw [deliver, bind_apply]
  cases recorded : recordEvent chosen.event s with
  | error error m =>
      rw [recorded] at records
      exact records.spends.takesTurn
  | ok _ m =>
      rw [recorded] at records
      obtain ⟨letters, new, sends, turn, handled⟩ :=
        processMessage_turn lawful named peers (records.core.symm ▸ hosts) step chosen
      rw [records.core] at turn handled
      have ends : finalState ((processMessage host site .record step chosen >>= fun _ =>
          pure ()) m) = finalState (processMessage host site .record step chosen m) := by
        rw [bind_apply]
        cases processMessage host site .record step chosen m with
        | ok out n => rfl
        | error error n => rfl
      dsimp only
      rw [ends]
      exact ⟨letters, new, (SendsOn.none records.sent).trans sends, turn, handled⟩

end Handling

/-! ## Draining the network -/

section Draining

variable {V : Type} {host : Host V} {nodeId : NodeId} {s s' : MainState V}

theorem drainNetwork_quiet (step : Nat) (batch : List (WireEnvelope V)) :
    Moves Quiet (drainNetwork nodeId step batch) := by
  have records (kind : EventKind V) : Moves Quiet (recordEvent kind) :=
    fun s => (recordEvent_rests kind s).quiet
  apply drainNetwork_moves
  · exact ⟨fun _ _ => ⟨rfl, rfl, rfl⟩, fun _ _ => records _, fun _ _ => records _⟩
  · intro env
    apply Moves.bind (records env.recvEvent)
    intro _ s
    obtain ⟨profile, delivered⟩ := Core.profile_receiveAll s.core [env]
    exact ⟨profile, delivered, rfl⟩

/-- Between two drains the fault injector holds back its queue. -/
def FaultInjector.IsSettled (cfg : FaultConfig) (injector : FaultInjector V) : Prop :=
  ∃ count queue, Settled cfg count queue injector

/-- The mail of a node with what its fault injector holds back. -/
def MainState.inHand (host : Host V) (nodeId : NodeId) (s : MainState V) : Multiset Mail :=
  s.core.mail host nodeId + wireMail host s.injector.held

/-- An arrived envelope is held back, or received, or dropped. -/
theorem drainNetwork_mail {cfg : FaultConfig} {step : Nat} {batch : List (WireEnvelope V)}
    (settled : s.injector.IsSettled cfg) (own : s.Holds fun env => env.toNode = nodeId)
    (ran : drainNetwork nodeId step batch s = .ok () s') :
    s'.injector.IsSettled cfg ∧ s'.inHand host nodeId ≤
      s.inHand host nodeId + wireMail host (ownEnvelopes nodeId batch) := by
  obtain ⟨count, queue, settled⟩ := settled
  obtain ⟨faults, exact, after⟩ := drainNetwork_exact settled ran
  refine ⟨⟨_, _, after⟩, ?_⟩
  let arrived := number step (count + 1) (ownEnvelopes nodeId batch)
  let staged := enqueued cfg step queue arrived
  let isDue (staged : StagedInbound V) : Bool := staged.releaseStep ≤ step
  let released := (staged.takeWhile isDue).map StagedInbound.env
  have before : s.injector.held = queue.map StagedInbound.env := by
    rw [FaultInjector.held, settled.reorderBuf, settled.pending]
    rfl
  have later : s'.injector.held = (staged.dropWhile isDue).map StagedInbound.env := by
    rw [FaultInjector.held, after.reorderBuf, after.pending]
    rfl
  have arrivals : ((reverseChunks (cfg.policyForStep step).reorderWindow
      (survivorsOf cfg arrived)).map (Arrival.staged cfg)).map StagedInbound.env |>.Subperm
        (ownEnvelopes nodeId batch) := by
    rw [List.map_map, ← number_env step (count + 1) (ownEnvelopes nodeId batch)]
    have survivors : (survivorsOf cfg arrived).Sublist arrived := List.filter_sublist
    have chunks := (reverseChunks_perm (cfg.policyForStep step).reorderWindow
      (survivorsOf cfg arrived)).map Arrival.env
    exact chunks.subperm.trans (survivors.map Arrival.env).subperm
  have whole : (released ++ s'.injector.held).Subperm
      (s.injector.held ++ ownEnvelopes nodeId batch) := by
    rw [later, ← List.map_append, List.takeWhile_append_dropWhile, before]
    change ((queue ++ _).map StagedInbound.env).Subperm _
    rw [List.map_append]
    exact (List.Subperm.refl _).append arrivals
  have ours : ∀ env ∈ released, env.toNode = nodeId := by
    intro env member
    rcases List.mem_append.mp (whole.subset (List.mem_append_left _ member)) with held | new
    · exact own env held
    · exact of_decide_eq_true (List.mem_filter.mp new).2
  have core : s'.core = s.core.receiveAll released := by
    rw [exact.state]
    rfl
  have received := Core.mail_receiveAll host nodeId s.core ours
  have moved := wireMail_subperm host whole
  rw [wireMail_append, wireMail_append] at moved
  calc s'.inHand host nodeId
      = (s.core.receiveAll released).mail host nodeId + wireMail host s'.injector.held := by
          rw [MainState.inHand, core]
    _ ≤ s.core.mail host nodeId + wireMail host released + wireMail host s'.injector.held :=
        add_le_add_left received _
    _ = s.core.mail host nodeId + (wireMail host released + wireMail host s'.injector.held) :=
        add_assoc _ _ _
    _ ≤ s.core.mail host nodeId +
          (wireMail host s.injector.held + wireMail host (ownEnvelopes nodeId batch)) :=
        add_le_add_right moved _
    _ = s.inHand host nodeId + wireMail host (ownEnvelopes nodeId batch) := (add_assoc _ _ _).symm

end Draining

/-! ## A whole step -/

section Stepping

variable {V : Type} {host : Host V} {site : Site} {peersAt : NodeId → PeerMap} {s : MainState V}

/-- The mail a node keeps after a step; a node that failed handles nothing more. -/
def mailAfter (host : Host V) (nodeId : NodeId) :
    EStateM.Result (RunError V) (MainState V) Unit → Multiset Mail
  | .ok _ s => s.inHand host nodeId
  | .error _ _ => 0

section Turns

variable {State : Type} {model : ActorModel Place State (Option Letter)} {nodeId : NodeId}
  {actors actors' : ActorId → State} {mail mail' after after' : Multiset Mail}
  {letters : List (Option Letter)}

theorem Turn.mono (turn : Turn model nodeId actors mail letters actors' after) (more : mail ≤ mail')
    (fewer : after' ≤ after) : Turn model nodeId actors mail' letters actors' after' := by
  cases turn with
  | quiet least => exact .quiet (fewer.trans (least.trans more))
  | react receiver letter rest taken least =>
      exact .react receiver letter rest (taken.trans more) (fewer.trans least)

/-- Mail that the turn does not touch. -/
theorem Turn.frame (turn : Turn model nodeId actors mail letters actors' after)
    (extra : Multiset Mail) :
    Turn model nodeId actors (mail + extra) letters actors' (after + extra) := by
  cases turn with
  | quiet fewer => exact .quiet (add_le_add_left fewer extra)
  | react receiver letter rest taken fewer =>
      apply Turn.react receiver letter (rest + extra)
      · rw [← Multiset.cons_add]
        exact add_le_add_left taken extra
      · rw [add_right_comm]
        exact add_le_add_left fewer extra

end Turns

/-- Before the turn nothing was handled. -/
theorem Takes.after {m s' : MainState V} {mail mail' after : Multiset Mail}
    {sent : List (WireEnvelope V)} (takes : Takes host site peersAt mail m s' after)
    (profile : m.core.profile = s.core.profile) (delivered : m.core.delivered = s.core.delivered)
    (sends : SendsOn s sent m) (more : mail + wireMail host sent ≤ mail') :
    Takes host site peersAt mail' s s' after := by
  obtain ⟨letters, new, sends', turn, handled⟩ := takes
  rw [profile] at turn
  rw [Core.letters, Core.letters, delivered] at handled
  refine ⟨letters, sent ++ new, sends.trans sends', ?_, handled⟩
  apply (turn.frame (wireMail host sent)).mono more
  rw [wireMail_append, add_assoc, add_comm (wireMail host sent)]

variable (lawful : host.Lawful) (named : site.Named host)
  (peers : peersAt site.nodeId = site.peers)

include lawful named peers

/-- The delivery at the end of a step. -/
theorem deliver_takes [DecidableEq V] (hosts : s.core.Hosts host site.program) (step : Nat)
    (chosen : PendingDelivery) :
    Takes host site peersAt (s.inHand host site.nodeId) s
      (finalState (deliver host site .record step chosen s))
      (mailAfter host site.nodeId (deliver host site .record step chosen s)) := by
  obtain ⟨letters, new, sends, turn, handled⟩ :=
    deliver_turn lawful named peers hosts step chosen
  have spares : Spares s (finalState (deliver host site .record step chosen s)) :=
    (deliver_works host site (fun _ => EventKind.isWork_of_isExchange) step chosen s).spares
  refine ⟨letters, new, sends, (turn.frame (wireMail host s.injector.held)).mono le_rfl ?_,
    handled⟩
  rw [add_right_comm]
  apply add_le_add_left
  generalize deliver host site .record step chosen s = outcome at spares
  cases outcome with
  | ok _ s' =>
      have same : s'.injector = s.injector := spares
      rw [mailAfter, MainState.inHand, same]
      exact le_rfl
  | error error s' => exact Multiset.zero_le _

/-- The step lemma: whatever its outcome, a recorded step is a turn of its node. -/
theorem recordStep_takes [DecidableEq V] {cfg : FaultConfig} {step : Nat}
    {batch : List (WireEnvelope V)} (hosts : s.core.Hosts host site.program)
    (settled : s.injector.IsSettled cfg) (own : s.Holds fun env => env.toNode = site.nodeId) :
    Takes host site peersAt
      (s.inHand host site.nodeId + wireMail host (ownEnvelopes site.nodeId batch)) s
      (finalState (recordStep host site step batch s))
      (mailAfter host site.nodeId (recordStep host site step batch s)) := by
  have quiet : Quiet s (finalState (drainNetwork site.nodeId step batch s)) :=
    drainNetwork_quiet step batch s
  have drains : Advances host site (fun _ => True) 0 s
      (finalState (drainNetwork site.nodeId step batch s)) :=
    drainNetwork_advances (fun _ _ => trivial) fun _ _ => trivial
  rw [recordStep, bind_apply]
  cases drained : drainNetwork site.nodeId step batch s with
  | error error m =>
      rw [drained] at quiet
      exact .quiet quiet.profile quiet.delivered (.none quiet.sent) (Multiset.zero_le _)
  | ok _ m =>
      rw [drained] at quiet drains
      obtain ⟨-, mail⟩ := @drainNetwork_mail _ host _ _ _ _ _ _ settled own drained
      rw [← add_zero (m.inHand host site.nodeId)] at mail
      refine Takes.after ?_ quiet.profile quiet.delivered (.none quiet.sent) mail
      have fires : Spends host site.nodeId 0 m (finalState (fireDueTimers site step m)) :=
        fireDueTimers_spends named step
      have advances : Advances host site (fun _ => True) 0 m
          (finalState (fireDueTimers site step m)) := fireDueTimers_advances step m
      have spares : Spares m (finalState (fireDueTimers site step m)) :=
        (fireDueTimers_works site (fun _ => EventKind.isWork_of_isExchange)
          (fun _ _ _ => rfl) step m).spares
      dsimp only
      rw [bind_apply]
      cases fired : fireDueTimers site step m with
      | error error n =>
          rw [fired] at fires
          exact fires.takes (Multiset.zero_le _) (Multiset.le_add_right _ _)
      | ok _ n =>
          rw [fired] at fires advances spares
          obtain ⟨new, sends, spent⟩ := fires.mail
          rw [add_zero] at spent
          have moved : n.inHand host site.nodeId + wireMail host new ≤
              m.inHand host site.nodeId := by
            rw [MainState.inHand, show n.injector = m.injector from spares, add_right_comm]
            exact add_le_add_left spent _
          refine Takes.after ?_ fires.profile fires.delivered sends moved
          dsimp only
          rw [get_bind]
          cases chooseNextDeterministic (pendingDeliveries site.nodeId n.core) with
          | none => exact .quiet rfl rfl (.none rfl) (add_zero _).le
          | some chosen =>
              exact deliver_takes lawful named peers (advances.hosts (drains.hosts hosts)) step
                chosen

omit lawful named peers in
theorem recordStep_settled [DecidableEq V] {cfg : FaultConfig} {step : Nat}
    {batch : List (WireEnvelope V)} {s' : MainState V} (settled : s.injector.IsSettled cfg)
    (ran : recordStep host site step batch s = .ok () s') : s'.injector.IsSettled cfg := by
  obtain ⟨m, drains, same⟩ := recordStep_drains ran
  obtain ⟨count, queue, settled⟩ := settled
  obtain ⟨faults, -, after⟩ := drainNetwork_exact settled drains
  rw [same]
  exact ⟨_, _, after⟩

end Stepping

/-! ## Startup -/

section Starting

variable {V : Type} {host : Host V} {site : Site}

/-- The letter that every bootstrap message is. -/
def startLetter (nodeId : NodeId) : Option Letter := some ⟨"start", some nodeId⟩

/-- The bootstrap messages of a node for one actor. -/
def startMail (nodeId : NodeId) (entryActor : ActorId) (count : Nat) : Multiset Mail :=
  Multiset.replicate count ((nodeId, entryActor), startLetter nodeId)

theorem startMail_succ (nodeId : NodeId) (entryActor : ActorId) (count : Nat) :
    startMail nodeId entryActor (count + 1) =
      {((nodeId, entryActor), startLetter nodeId)} + startMail nodeId entryActor count :=
  Multiset.replicate_succ _ _

theorem letterOf_bootstrap (lawful : host.Lawful) (index : Nat) (msgId : MsgId) :
    letterOf host (encodeMsg host (bootstrapMessage host site index msgId)) =
      startLetter site.nodeId := by
  have representable : (bootstrapMessage host site index msgId).Representable := by
    intro prov same
    cases same
    exact Nat.zero_le _
  rw [letterOf, decodeMsg, encodeMsg, lawful.fromValue_toValue _ representable, Option.map_some,
    bootstrapMessage, lawful.parse_toString, startLetter]

/-- The bootstrap messages go into the inbox of the entry actor. -/
theorem bootAll_mail (lawful : host.Lawful) {entryActor : ActorId} {indices : List Nat}
    {core final : Core V} {kinds : List (EventKind V)}
    (booted : bootAll host site entryActor indices core = .ok (kinds, final)) :
    final.mail host site.nodeId =
      core.mail host site.nodeId + startMail site.nodeId entryActor indices.length := by
  induction indices generalizing core kinds with
  | nil =>
      cases booted
      exact (add_zero _).symm
  | cons index rest ih =>
      simp only [bootAll] at booted
      split at booted
      · cases booted
      · rename_i actor found
        obtain ⟨⟨others, last⟩, later, booted⟩ := ExceptRun.bind_ok.mp booted
        cases booted
        have enqueued := Core.mail_enqueue host site.nodeId found (core.allocate site.nodeId).1
          (encodeMsg host (bootstrapMessage host site index (core.allocate site.nodeId).1))
        rw [letterOf_bootstrap lawful] at enqueued
        have rest := ih later
        rw [List.length_cons, startMail_succ, ← add_assoc]
        refine rest.trans (congrArg (· + _) ?_)
        exact enqueued

theorem bootstrapOne_quiet (entryActor : ActorId) (emitted : List (EventKind V)) (index : Nat) :
    Moves Quiet (bootstrapOne host site .record entryActor emitted index) := by
  apply Moves.get_bind
  intro s
  dsimp only
  cases found : (s.core.allocate site.nodeId).2.actors.lookup entryActor with
  | none => exact refl_of _ s
  | some actor =>
      dsimp only
      rw [updateCore_bind]
      let msgId := (s.core.allocate site.nodeId).1
      let payload := encodeMsg host (bootstrapMessage host site index msgId)
      let booted := s.setCore (((s.core.allocate site.nodeId).2.enqueue entryActor actor msgId
        payload).produce msgId payload none none)
      have kept : (s.core.allocate site.nodeId).2.profile = s.core.profile := rfl
      have boots : Quiet s booted :=
        ⟨(Core.profile_of_actors rfl).trans ((Core.profile_inbox found _).trans kept), rfl, rfl⟩
      have records : Moves Rests (recordIn .record
          (.send (systemActorId host) entryActor msgId payload) >>= fun _ =>
            pure (emitted ++ [.send (systemActorId host) entryActor msgId payload]) :
            MainM V (List (EventKind V))) :=
        .bind (recordEvent_rests _) fun _ => .pure _
      exact trans_of _ boots (records booted).quiet

theorem startup_quiet [DecidableEq V] (cfg : Config) (entryService : String) :
    Moves Quiet (startup host site .record cfg entryService) := by
  have spawning : Moves Quiet (ofExcept (V := V) (spawnEvents host site)) := by
    intro s
    unfold ofExcept
    cases spawnEvents host site with
    | error error => exact refl_of _ s
    | ok spawned => exact refl_of _ s
  have recording (spawned : List (EventKind V)) : Moves Quiet (spawned.forM (recordIn .record)) :=
    .forM fun kind s => (recordEvent_rests kind s).quiet
  have booting : Moves Quiet (enqueueBootstrap host site .record cfg entryService) := by
    intro s
    rw [enqueueBootstrap]
    cases site.serviceToActor.lookup entryService with
    | none => exact refl_of _ s
    | some entryActor => exact Moves.foldlM (bootstrapOne_quiet entryActor) [] s
  exact .bind spawning fun spawned => .bind (recording spawned) fun _ =>
    .bind booting fun _ => .pure ()

variable {program : Program} {cfg : Config} {launched : Launch V}

theorem Launched.entryActor_eq (ready : Launched host program cfg launched) :
    launched.site.serviceToActor.lookup launched.entryService = some launched.entryActor ∧
      launched.entryActor = actorIdForService host launched.entryService := by
  have mapped := ready.built.mapped launched.entryService ready.entry_mem
  have same : launched.entryActor = actorIdForService host launched.entryService := by
    rw [Launch.entryActor, mapped]
    rfl
  rw [same]
  exact ⟨mapped, rfl⟩

theorem Launched.mail_initial (ready : Launched host program cfg launched) (nodeId : NodeId) :
    (Core.initial launched.actors).mail host nodeId = 0 := by
  have nothing : HashMap.gather (fun id actor => inboxMail host nodeId id (Actor.inbox actor))
      launched.actors = 0 := by
    apply HashMap.gather_eq_zero
    intro id actor found
    rw [ready.built.actor_inbox id actor found]
    rfl
  exact congrArg (· + (0 : Multiset Mail)) nothing

theorem Launched.named (ready : Launched host program cfg launched) :
    launched.site.Named host := by
  intro service id mapped
  have member := ready.built.service_mem service id mapped
  exact Option.some.inj (mapped.symm.trans (ready.built.mapped service member))

/-- However startup ends, there is no more mail than the bootstrap messages. -/
theorem startup_mail [DecidableEq V] (lawful : host.Lawful)
    (ready : Launched host program cfg launched) :
    mailAfter host cfg.nodeId (startup host launched.site .record cfg launched.entryService
      (.initial .record cfg launched.actors [])) ≤
        startMail cfg.nodeId launched.entryActor (bootstrapCount cfg) := by
  have quiet : Quiet _ (finalState (startup host launched.site .record cfg launched.entryService
      (.initial .record cfg launched.actors []))) := startup_quiet cfg launched.entryService _
  cases ran : startup host launched.site .record cfg launched.entryService
      (.initial .record cfg launched.actors []) with
  | error error st =>
      exact Multiset.zero_le _
  | ok _ st =>
      obtain ⟨entryActor, boots, booted, entry, boot, rfl⟩ := startup_record_ok ready ran
      cases Option.some.inj (entry.symm.trans ready.entryActor_eq.1)
      have mail := bootAll_mail lawful boot
      rw [List.length_range, ready.nodeId_eq] at mail
      have start : (Core.initial launched.actors).mail host cfg.nodeId = 0 :=
        ready.mail_initial cfg.nodeId
      have whole : booted.mail host cfg.nodeId =
          startMail cfg.nodeId launched.entryActor (bootstrapCount cfg) := by
        rw [mail]
        exact (congrArg (· + _) start).trans (zero_add _)
      have same : mailAfter host cfg.nodeId (.ok () (((MainState.initial .record cfg launched.actors
          []).logged (spawnList host cfg.nodeId program.services ++ boots)).setCore booted)) =
          booted.mail host cfg.nodeId + 0 := rfl
      rw [same, whole, add_zero]

end Starting

end UcoStack.Runtime
