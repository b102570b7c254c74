import Mathlib.Algebra.BigOperators.Group.Finset.Basic
import Mathlib.Algebra.Order.BigOperators.Group.Finset
import UcoStack.Library.Descent
import UcoStack.System.Grounded

/-!
# Provenance is causal ancestry

The parent of a message is the message whose delivery ran the handler that built
it.  In every state of a cluster each message descends from a bootstrap message,
and its provenance tells how: the parent, the number of links and the root.
-/

namespace UcoStack.System

open UcoStack.Runtime

/-! ## Parents -/

section Parents

variable {ι V : Type}

/-- A message together with the node that produced it. -/
abbrev Message (ι V : Type) := ι × Produced V

def IsMade (cores : ι → Core V) (message : Message ι V) : Prop :=
  message.2 ∈ (cores message.1).history

def IsBootstrap (cores : ι → Core V) (message : Message ι V) : Prop :=
  IsMade cores message ∧ message.2.cause = none

def IsParent (cores : ι → Core V) (message parent : Message ι V) : Prop :=
  IsMade cores message ∧ IsMade cores parent ∧
    message.2.cause = some (parent.2.msgId, parent.2.payload)

theorem IsBootstrap.parentless {cores : ι → Core V} (message parent : Message ι V)
    (boot : IsBootstrap cores message) : ¬IsParent cores message parent := by
  rintro ⟨_, _, cause⟩
  rw [boot.2] at cause
  cases cause

/-- The message has `n` ancestors, the last of them the bootstrap message `root`. -/
abbrev Ancestry (cores : ι → Core V) : Message ι V → Nat → Message ι V → Prop :=
  Descends (IsBootstrap cores) (IsParent cores)

theorem Ancestry.mono {cores cores' : ι → Core V} (grows : Grows cores cores')
    {message root : Message ι V} {n : Nat} (ancestry : Ancestry cores message n root) :
    Ancestry cores' message n root := by
  refine Descends.mono ?_ ?_ ancestry
  · rintro message ⟨made, boot⟩
    exact ⟨grows _ made, boot⟩
  · rintro message parent ⟨made, parentMade, cause⟩
    exact ⟨grows _ made, grows _ parentMade, cause⟩

theorem Ancestry.made {cores : ι → Core V} {message root : Message ι V} {n : Nat}
    (ancestry : Ancestry cores message n root) : IsMade cores message := by
  cases ancestry with
  | root isRoot => exact isRoot.1
  | child isParent _ => exact isParent.1

/-- The messages produced by all nodes. -/
def producedTotal [Fintype ι] (cores : ι → Core V) : Nat := ∑ i, (cores i).history.length

theorem producedTotal_le [Fintype ι] (cores : ι → Core V) (i : ι) :
    (cores i).history.length ≤ producedTotal cores :=
  Finset.single_le_sum (f := fun i => (cores i).history.length) (fun _ _ => Nat.zero_le _)
    (Finset.mem_univ i)

theorem producedTotal_update [Fintype ι] [DecidableEq ι] (cores : ι → Core V) {i : ι}
    {next : Core V} (longer : (cores i).history.length < next.history.length) :
    producedTotal cores < producedTotal (Function.update cores i next) := by
  refine Finset.sum_lt_sum (fun j _ => ?_) ⟨i, Finset.mem_univ i, ?_⟩
  · by_cases same : j = i
    · subst same
      rw [Function.update_self]
      exact Nat.le_of_lt longer
    · rw [Function.update_of_ne same]
  · rw [Function.update_self]
    exact longer

end Parents

/-! ## Every message has an ancestry -/

section Ancestral

variable {ι V : Type} [Fintype ι] {host : Host V} {sites : ι → Site} {entries : ι → ActorId}
  {cores : ι → Core V}

/-- Every message descends from a bootstrap message in fewer links than there are
messages. -/
def AllAncestral (cores : ι → Core V) : Prop :=
  ∀ message, IsMade cores message →
    ∃ n root, Ancestry cores message n root ∧ n < producedTotal cores

theorem AllAncestral.act [DecidableEq ι] {i : ι} {kinds : List (EventKind V)} {next : Core V}
    (ancestral : AllAncestral cores) (grounded : AllGrounded host sites cores)
    (op : CoreOp host (sites i) (Flying cores (sites i).nodeId) (entries i) (cores i) kinds next) :
    AllAncestral (Function.update cores i next) := by
  have grows := grows_update (i := i) op.history_subset
  rcases CoreOp.produces op (grounded i).timers with same | ⟨made, history, authored⟩
  · have total : producedTotal (Function.update cores i next) = producedTotal cores := by
      refine Finset.sum_congr rfl fun j _ => ?_
      by_cases here : j = i
      · subst here
        rw [Function.update_self, same]
      · rw [Function.update_of_ne here]
    rintro ⟨j, message⟩ produced
    have before : IsMade cores (j, message) := by
      by_cases here : j = i
      · subst here
        have member : message ∈ (Function.update cores j next j).history := produced
        rwa [Function.update_self, same] at member
      · have member : message ∈ (Function.update cores i next j).history := produced
        rwa [Function.update_of_ne here] at member
    obtain ⟨n, root, ancestry, few⟩ := ancestral _ before
    exact ⟨n, root, ancestry.mono grows, by rwa [total]⟩
  · have more : producedTotal cores < producedTotal (Function.update cores i next) := by
      apply producedTotal_update cores
      rw [history, List.length_append]
      exact Nat.lt_succ_self _
    have old (message : Message ι V) (before : IsMade cores message) :
        ∃ n root, Ancestry (Function.update cores i next) message n root ∧
          n < producedTotal (Function.update cores i next) := by
      obtain ⟨n, root, ancestry, few⟩ := ancestral message before
      exact ⟨n, root, ancestry.mono grows, Nat.lt_trans few more⟩
    have isMade : IsMade (Function.update cores i next) (i, made) := by
      change made ∈ (Function.update cores i next i).history
      rw [Function.update_self, history]
      exact List.mem_append_right _ List.mem_cons_self
    have new : ∃ n root, Ancestry (Function.update cores i next) (i, made) n root ∧
        n < producedTotal (Function.update cores i next) := by
      cases authored with
      | boot index msgId => exact ⟨0, _, .root ⟨isMade, rfl⟩, Nat.zero_lt_of_lt more⟩
      | answer msgId payload cause target envelope known answers travels =>
          obtain ⟨j, parent, produced, rfl, _⟩ := (grounded i).delivered cause known
          obtain ⟨n, root, ancestry, few⟩ := ancestral (j, parent) produced
          refine ⟨n + 1, root, .child ?_ (ancestry.mono grows), by omega⟩
          exact ⟨isMade, grows j produced, rfl⟩
    rintro ⟨j, message⟩ produced
    by_cases here : j = i
    · subst here
      have member : message ∈ (Function.update cores j next j).history := produced
      rw [Function.update_self, history] at member
      rcases List.mem_append.mp member with before | last
      · exact old (j, message) before
      · rw [List.mem_singleton.mp last]
        exact new
    · have member : message ∈ (Function.update cores i next j).history := produced
      rw [Function.update_of_ne here] at member
      exact old (j, message) member

end Ancestral

/-! ## What a message carries -/

section Carrying

variable {ι V : Type} {host : Host V} {sites : ι → Site} {cores : ι → Core V}

theorem decode_encode (lawful : host.Lawful) {msg : RuntimeMessage}
    (representable : msg.Representable) : decodeMsg host (encodeMsg host msg) = some msg :=
  lawful.fromValue_toValue msg representable

/-- The provenance of a message with `n` ancestors up to `root`; a hop count that
does not fit saturates. -/
structure Carries (host : Host V) (sites : ι → Site) (message : Message ι V) (n : Nat)
    (root : Message ι V) (msg : RuntimeMessage) (prov : Provenance) : Prop where
  payload : message.2.payload = encodeMsg host msg
  representable : msg.Representable
  sender : msg.fromNode = host.uuidToString (sites message.1).nodeId
  provenance : msg.provenance = some prov
  hops : prov.hops = min n u64Max
  originNode : prov.originNode = host.uuidToString (sites root.1).nodeId
  originService : prov.originService = "System"
  originMsgId : prov.originMsgId = host.uuidToString root.2.msgId
  boot : message.2.cause = none → msg.fromService = "System" ∧
    prov.parentNode = host.uuidToString (sites message.1).nodeId ∧
    prov.parentMsgId = host.uuidToString message.2.msgId

theorem Carries.decoded (lawful : host.Lawful) {message root : Message ι V} {n : Nat}
    {msg : RuntimeMessage} {prov : Provenance}
    (carries : Carries host sites message n root msg prov) :
    decodeMsg host message.2.payload = some msg := by
  rw [carries.payload]
  exact decode_encode lawful carries.representable

/-- The provenance names the parent. -/
def Names (host : Host V) (sites : ι → Site) (prov : Provenance) (parent : Message ι V) : Prop :=
  prov.parentNode = host.uuidToString (sites parent.1).nodeId ∧
    prov.parentMsgId = host.uuidToString parent.2.msgId

/-- An answer to a message with a known ancestry. -/
theorem Carries.answer (lawful : host.Lawful) {message parent root : Message ι V} {n : Nat}
    {delivered : List (MsgId × V)} {msg : RuntimeMessage} {prov : Provenance}
    (carries : Carries host sites parent n root msg prov)
    (authored : Authored host (sites message.1) delivered message.2)
    (cause : message.2.cause = some (parent.2.msgId, parent.2.payload)) :
    ∃ msg' prov', Carries host sites message (n + 1) root msg' prov' ∧
      Names host sites prov' parent := by
  obtain ⟨i, made⟩ := message
  change Authored host (sites i) delivered made at authored
  cases authored with
  | boot index msgId => cases cause
  | answer msgId payload given target envelope known answers travels =>
      cases cause
      obtain ⟨incoming, service, decoded, _, msgType, text, rfl⟩ := answers.built
      obtain rfl : msg = incoming :=
        Option.some.inj ((carries.decoded lawful).symm.trans decoded)
      let outbound := buildOutboundMessage host msgType text (sites i).nodeId service msg
        parent.2.msgId
      have next : nextOutboundProvenance host msg parent.2.msgId =
          { originNode := prov.originNode
            originService := prov.originService
            originMsgId := prov.originMsgId
            parentNode := msg.fromNode
            parentMsgId := host.uuidToString parent.2.msgId
            hops := saturatingAdd prov.hops 1 } := by
        unfold nextOutboundProvenance
        rw [carries.provenance]
      refine ⟨outbound, nextOutboundProvenance host msg parent.2.msgId, ?_, ?_⟩
      · refine
          { payload := rfl
            representable := buildOutboundMessage_representable host msgType text _ service msg _
            sender := rfl
            provenance := rfl
            hops := ?_
            originNode := ?_
            originService := ?_
            originMsgId := ?_
            boot := nofun }
        · rw [next]
          change saturatingAdd prov.hops 1 = _
          rw [carries.hops]
          unfold saturatingAdd
          omega
        · rw [next]
          exact carries.originNode
        · rw [next]
          exact carries.originService
        · rw [next]
          exact carries.originMsgId
      · rw [next]
        exact ⟨carries.sender, rfl⟩

/-- A payload holds one message. -/
theorem Carries.unique (lawful : host.Lawful) {message root root' : Message ι V} {n n' : Nat}
    {msg msg' : RuntimeMessage} {prov prov' : Provenance}
    (first : Carries host sites message n root msg prov)
    (second : Carries host sites message n' root' msg' prov') : msg = msg' ∧ prov = prov' := by
  obtain rfl := Option.some.inj ((first.decoded lawful).symm.trans (second.decoded lawful))
  exact ⟨rfl, Option.some.inj (first.provenance.symm.trans second.provenance)⟩

theorem Carries.boot_of {message : Message ι V} {delivered : List (MsgId × V)}
    (authored : Authored host (sites message.1) delivered message.2)
    (cause : message.2.cause = none) :
    ∃ msg prov, Carries host sites message 0 message msg prov := by
  obtain ⟨i, made⟩ := message
  change Authored host (sites i) delivered made at authored
  cases authored with
  | answer msgId payload given target envelope known answers travels => cases cause
  | boot index msgId =>
      let own : Provenance :=
        { originNode := host.uuidToString (sites i).nodeId
          originService := "System"
          originMsgId := host.uuidToString msgId
          parentNode := host.uuidToString (sites i).nodeId
          parentMsgId := host.uuidToString msgId
          hops := 0 }
      refine ⟨bootstrapMessage host (sites i) index msgId, own, ?_⟩
      exact
        { payload := rfl
          representable := fun prov same => by
            cases same
            exact Nat.zero_le _
          sender := rfl
          provenance := rfl
          hops := rfl
          originNode := rfl
          originService := rfl
          originMsgId := rfl
          boot := fun _ => ⟨rfl, rfl, rfl⟩ }

/-- The induction over the chain of parents. -/
theorem Ancestry.carries (lawful : host.Lawful) (grounded : AllGrounded host sites cores)
    {message root : Message ι V} {n : Nat} (ancestry : Ancestry cores message n root) :
    ∃ msg prov, Carries host sites message n root msg prov := by
  induction ancestry with
  | root isRoot => exact Carries.boot_of ((grounded _).history _ isRoot.1) isRoot.2
  | child isParent _ ih =>
      obtain ⟨msg, prov, carries⟩ := ih
      obtain ⟨made, _, cause⟩ := isParent
      obtain ⟨msg', prov', answers, _⟩ := carries.answer lawful ((grounded _).history _ made) cause
      exact ⟨msg', prov', answers⟩

theorem IsParent.named (lawful : host.Lawful) (grounded : AllGrounded host sites cores)
    {message parent root root' : Message ι V} {n n' : Nat} {msg msg' : RuntimeMessage}
    {prov prov' : Provenance} (isParent : IsParent cores message parent)
    (carries : Carries host sites message n root msg prov)
    (above : Carries host sites parent n' root' msg' prov') : Names host sites prov parent := by
  obtain ⟨made, _, cause⟩ := isParent
  obtain ⟨again, prov'', answers, names⟩ :=
    above.answer lawful ((grounded _).history _ made) cause
  obtain ⟨_, rfl⟩ := carries.unique lawful answers
  exact names

end Carrying

/-! ## The reachable states -/

section States

variable {ι V : Type} [Fintype ι] {host : Host V} {sites : ι → Site} {entries : ι → ActorId}
  {cores : ι → Core V}

/-- What holds of the cores whatever messages they have exchanged. -/
structure Sound (host : Host V) (sites : ι → Site) (cores : ι → Core V) : Prop where
  grounded : AllGrounded host sites cores
  ancestral : AllAncestral cores
  numbered : ∀ i, Numbered (sites i) (cores i)

theorem Sound.act [DecidableEq ι] {i : ι} {kinds : List (EventKind V)} {next : Core V}
    (sound : Sound host sites cores)
    (op : CoreOp host (sites i) (Flying cores (sites i).nodeId) (entries i) (cores i) kinds next) :
    Sound host sites (Function.update cores i next) where
  grounded := sound.grounded.act op
  ancestral := sound.ancestral.act sound.grounded op
  numbered := fun j => by
    by_cases same : j = i
    · subst same
      rw [Function.update_self]
      exact (sound.numbered j).op op
    · rw [Function.update_of_ne same]
      exact sound.numbered j

/-- Distinct node ids, and no counter of messages has reached its maximum. -/
structure Distinct (sites : ι → Site) (cores : ι → Core V) : Prop where
  nodes : Function.Injective fun i => (sites i).nodeId
  few : ∀ i, (cores i).history.length ≤ u64Max

variable (lawful : host.Lawful) (sound : Sound host sites cores) (distinct : Distinct sites cores)

include sound

theorem Sound.carries (lawful : host.Lawful) {message : Message ι V}
    (made : IsMade cores message) :
    ∃ n root msg prov, Ancestry cores message n root ∧
      Carries host sites message n root msg prov := by
  obtain ⟨n, root, ancestry, _⟩ := sound.ancestral message made
  obtain ⟨msg, prov, carries⟩ := ancestry.carries lawful sound.grounded
  exact ⟨n, root, msg, prov, ancestry, carries⟩

include distinct

/-- Sender and message id identify a message. -/
theorem Sound.message_unique {first second : Message ι V} (made : IsMade cores first)
    (made' : IsMade cores second) (sender : (sites first.1).nodeId = (sites second.1).nodeId)
    (msgId : first.2.msgId = second.2.msgId) : first = second := by
  obtain ⟨i, one⟩ := first
  obtain ⟨j, other⟩ := second
  obtain rfl : i = j := distinct.nodes sender
  have same : one = other :=
    List.inj_on_of_nodup_map ((sound.numbered i).msgIds_nodup (distinct.few i)) made made' msgId
  rw [same]

include lawful

/-- The text of the sender is part of the payload, so the delivered message is known
although message ids of different nodes may coincide. -/
theorem Sound.payload_unique {first second : Message ι V} (made : IsMade cores first)
    (made' : IsMade cores second) (msgId : first.2.msgId = second.2.msgId)
    (payload : first.2.payload = second.2.payload) : first = second := by
  obtain ⟨_, _, msg, _, _, carries⟩ := sound.carries lawful made
  obtain ⟨_, _, msg', _, _, carries'⟩ := sound.carries lawful made'
  have decoded := carries.decoded lawful
  rw [payload, carries'.decoded lawful] at decoded
  cases decoded
  have sender := lawful.toString_injective (carries.sender.symm.trans carries'.sender)
  exact sound.message_unique distinct made made' sender msgId

theorem Sound.parent_unique {message parent other : Message ι V}
    (isParent : IsParent cores message parent) (isOther : IsParent cores message other) :
    parent = other := by
  obtain ⟨_, made, cause⟩ := isParent
  obtain ⟨_, made', cause'⟩ := isOther
  rw [cause] at cause'
  obtain ⟨msgId, payload⟩ := Prod.mk.inj (Option.some.inj cause')
  exact sound.payload_unique lawful distinct made made' msgId payload

theorem Sound.ancestry_unique {message root root' : Message ι V} {n n' : Nat}
    (first : Ancestry cores message n root) (second : Ancestry cores message n' root') :
    n = n' ∧ root = root' :=
  Descends.unique IsBootstrap.parentless
    (fun _ _ _ => sound.parent_unique lawful distinct) first second

/-- No message is its own parent. -/
theorem Sound.not_own_parent {message : Message ι V} (made : IsMade cores message) :
    ¬IsParent cores message message := by
  obtain ⟨n, root, ancestry, _⟩ := sound.ancestral message made
  exact Descends.irrefl IsBootstrap.parentless
    (fun _ _ _ => sound.parent_unique lawful distinct) ancestry

end States

/-! ## Clusters -/

section Clusters

variable {ι V : Type} [Fintype ι] [DecidableEq ι] {host : Host V} {program : Program}
  {cfgs : ι → Config} {c : Cluster ι V}

omit [DecidableEq ι] in
theorem Sound.initial (host : Host V) (program : Program) (cfgs : ι → Config) :
    Sound host (sitesOf host program cfgs) (startCores host program cfgs) where
  grounded := fun i => by
    refine .initial ?_
    unfold launchOf
    intro id actor found
    cases launches : launch host program (cfgs i) with
    | ok launched =>
        rw [launches] at found
        exact (launch_launched launches).built.actor_inbox id actor found
    | error error =>
        rw [launches] at found
        simp at found
  ancestral := fun _ made => absurd made List.not_mem_nil
  numbered := fun i => .initial _ _

theorem Simulated.sound (simulated : Simulated host program cfgs c) :
    Sound host (sitesOf host program cfgs) c.core :=
  exchange_invariant simulated.cores (fun _ _ _ _ sound op => sound.act op)
    (.initial host program cfgs)

omit [Fintype ι] [DecidableEq ι] in
theorem Distinct.of_configs {cores : ι → Core V}
    (distinct : Function.Injective fun i => (cfgs i).nodeId)
    (few : ∀ i, (cores i).history.length ≤ u64Max) :
    Distinct (sitesOf host program cfgs) cores where
  nodes := fun i j same => by
    apply distinct
    change (cfgs i).nodeId = (cfgs j).nodeId
    rw [← (sitesOf_eq host program cfgs i).2, ← (sitesOf_eq host program cfgs j).2]
    exact same
  few := few

/-- The provenance of a message tells its ancestry: `n` links to a parent up to the
bootstrap message `root`. -/
structure TellsAncestry (host : Host V) (cfgs : ι → Config) (cores : ι → Core V)
    (message : Message ι V) (prov : Provenance) (n : Nat) (root : Message ι V) : Prop where
  ancestry : Ancestry cores message n root
  unique : ∀ n' root', Ancestry cores message n' root' → n' = n ∧ root' = root
  hops : prov.hops = n
  originNode : prov.originNode = host.uuidToString (cfgs root.1).nodeId
  originService : prov.originService = "System"
  originMsgId : prov.originMsgId = host.uuidToString root.2.msgId
  /-- A bootstrap message names itself. -/
  boot : message.2.cause = none → n = 0 ∧ root = message ∧
    prov.parentNode = host.uuidToString (cfgs message.1).nodeId ∧
    prov.parentMsgId = host.uuidToString message.2.msgId
  /-- Any other message names the one whose delivery ran the handler that built it. -/
  answer : ∀ cause, message.2.cause = some cause → cause ∈ (cores message.1).delivered ∧
    ∃ parent, IsMade cores parent ∧ cause = (parent.2.msgId, parent.2.payload) ∧
      (∀ other, IsMade cores other → cause = (other.2.msgId, other.2.payload) →
        other = parent) ∧
      prov.parentNode = host.uuidToString (cfgs parent.1).nodeId ∧
      prov.parentMsgId = host.uuidToString parent.2.msgId

variable [DecidableEq V]

/-- Provenance is causal ancestry, in every state of every cluster. -/
theorem provenance_ancestry (lawful : host.Lawful) {src : String}
    (loaded : loadProgram host src = .ok program)
    (distinct : Function.Injective fun i => (cfgs i).nodeId)
    (reached : Reachable host program cfgs c) (few : producedTotal c.core < u64Max)
    (message : Message ι V) (made : IsMade c.core message) :
    ∃ msg prov n root, decodeMsg host message.2.payload = some msg ∧
      msg.provenance = some prov ∧ TellsAncestry host cfgs c.core message prov n root := by
  have simulated := reached.simulated (loadProgram_accepted loaded)
  have sound := simulated.sound
  have apart : Distinct (sitesOf host program cfgs) c.core := .of_configs distinct fun i =>
    Nat.le_trans (producedTotal_le c.core i) (Nat.le_of_lt few)
  have nodeId (i : ι) : (sitesOf host program cfgs i).nodeId = (cfgs i).nodeId :=
    (sitesOf_eq host program cfgs i).2
  obtain ⟨n, root, ancestry, short⟩ := sound.ancestral message made
  obtain ⟨msg, prov, carries⟩ := ancestry.carries lawful sound.grounded
  have unique (n' : Nat) (root' : Message ι V) (other : Ancestry c.core message n' root') :
      n' = n ∧ root' = root := sound.ancestry_unique lawful apart other ancestry
  refine ⟨msg, prov, n, root, carries.decoded lawful, carries.provenance, ?_⟩
  refine
    { ancestry := ancestry
      unique := unique
      hops := by rw [carries.hops, Nat.min_eq_left (by omega)]
      originNode := by rw [carries.originNode, nodeId]
      originService := carries.originService
      originMsgId := carries.originMsgId
      boot := ?_
      answer := ?_ }
  · intro boot
    obtain ⟨zero, self⟩ := unique 0 message (.root ⟨made, boot⟩)
    obtain ⟨_, parentNode, parentMsgId⟩ := carries.boot boot
    rw [nodeId] at parentNode
    exact ⟨zero.symm, self.symm, parentNode, parentMsgId⟩
  · intro cause caused
    have authored := (sound.grounded message.1).history message.2 made
    have known := authored.cause_delivered caused
    obtain ⟨j, parent, produced, same, _⟩ := (sound.grounded message.1).delivered cause known
    have parentMade : IsMade c.core (j, parent) := produced
    obtain ⟨_, _, _, _, _, above⟩ := sound.carries lawful parentMade
    have isParent : IsParent c.core message (j, parent) := ⟨made, produced, by rw [caused, same]⟩
    obtain ⟨parentNode, parentMsgId⟩ := isParent.named lawful sound.grounded carries above
    rw [nodeId] at parentNode
    refine ⟨known, (j, parent), parentMade, same, ?_, parentNode, parentMsgId⟩
    intro other otherMade named
    obtain ⟨sameId, samePayload⟩ := Prod.mk.inj (named.symm.trans same)
    exact sound.payload_unique lawful apart otherMade parentMade sameId samePayload

/-- A message that node 0 sent to node 1, after two steps of each. -/
theorem provenance_ancestry_sample :
    ∃ made ∈ ((samplePair [0, 1, 0, 1]).core 0).history, made.envelope.isSome ∧
      ∃ msg prov n root, decodeMsg jsonHost made.payload = some msg ∧
        msg.provenance = some prov ∧
        TellsAncestry jsonHost sampleNodes (samplePair [0, 1, 0, 1]).core (0, made) prov n root := by
  have sent : ∃ made ∈ ((samplePair [0, 1, 0, 1]).core 0).history, made.envelope.isSome := by
    decide +kernel
  have few : producedTotal (samplePair [0, 1, 0, 1]).core < u64Max := by
    decide +kernel
  obtain ⟨made, produced, envelope⟩ := sent
  exact ⟨made, produced, envelope, provenance_ancestry jsonHost_lawful sampleProgram_loaded
    sampleNodes_distinct (samplePair_reachable [0, 1, 0, 1]) few (0, made) produced⟩

end Clusters

end UcoStack.System
