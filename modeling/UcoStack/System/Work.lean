import Mathlib.Algebra.Order.BigOperators.Group.Multiset
import UcoStack.Runtime.Posts
import UcoStack.System.Contracts

/-!
# The work of a cluster

The weight rule of the actor model, read as a rule about programs.  When a table of
weights decreases along every handler, the bootstrap messages pay for everything a
cluster ever handles, whatever the network and the faults do to the messages.
-/

namespace UcoStack.System

open UcoStack.Runtime StateRun

/-! ## Weighed programs -/

section Pays

variable {ι V M : Type} [AddCommMonoid M] [PartialOrder M] [IsOrderedAddMonoid M] {host : Host V}
  {program : Program} {cfgs : ι → Config} {width : Nat} {weight : ActorId → String → M}
  {cost : String → M}

theorem clusterModel_pays (weighed : Weighed host width weight program cost)
    (distinct : Function.Injective fun i => (cfgs i).nodeId)
    (narrow : ∀ i, (cfgs i).peers.keys.length ≤ width) :
    (clusterModel cfgs host program).Pays (Contract.trivial.Good host program cfgs)
      Contract.trivial.Fits (fun sent => letterCost cost sent.2) (mailWeight weight) := by
  intro place actor letter good fits
  obtain ⟨read, rfl, -⟩ := fits
  have nothing : cost read.msgType + (([] : List Mail).map (mailWeight weight)).sum ≤
      weight place.2 read.msgType :=
    (add_zero _).le.trans (weighed.covers place.2 read.msgType)
  cases actor with
  | none => exact nothing
  | some actor =>
      obtain ⟨service, state⟩ := actor
      obtain ⟨node, receiver⟩ := place
      obtain ⟨i, rfl, -, rfl, -⟩ := good service state rfl
      have peers := peersAt_nodeId distinct i
      simp only [clusterModel, serviceModel, peers]
      cases controls : controlActions host (cfgs i).nodeId (cfgs i).peers program service read
          state with
      | none => exact nothing
      | some control =>
          rw [controlActions] at controls
          split at controls
          · cases controls
            exact nothing
          · rename_i plan found
            have posted := controlAll_weight weighed.nonneg (narrow i) plan.actions controls
            have paid := weighed.handled service read.msgType plan found
            rw [List.map_map]
            refine le_trans (add_le_add_right ?_ _) paid
            exact posted.trans (zero_add _).le

theorem mailWeight_sum_le (nonneg : ∀ id msgType, 0 ≤ weight id msgType)
    {first second : Multiset Mail} (fewer : first ≤ second) :
    (first.map (mailWeight weight)).sum ≤ (second.map (mailWeight weight)).sum := by
  have positive (sent : Mail) : 0 ≤ mailWeight weight sent := by
    rw [mailWeight]
    cases sent.2 with
    | none => exact le_refl 0
    | some letter => exact nonneg _ _
  obtain ⟨rest, rfl⟩ := Multiset.le_iff_exists_add.mp fewer
  rw [Multiset.map_add, Multiset.sum_add]
  apply le_add_of_nonneg_right
  apply Multiset.sum_nonneg
  intro value member
  obtain ⟨sent, -, rfl⟩ := Multiset.mem_map.mp member
  exact positive sent

end Pays

/-! ## The work of a cluster -/

section Work

variable {ι V M : Type} [Fintype ι] [AddCommMonoid M]

section Sums

variable (host : Host V) (program : Program) (cfgs : ι → Config) (cost : String → M)
  (weight : ActorId → String → M) (c : Cluster ι V)

/-- What all messages cost that the nodes have handled. -/
def Cluster.handledCost : M := ∑ i, (((c.core i).letters host).map (letterCost cost)).sum

/-- What all messages weigh that are still under way. -/
def Cluster.pendingWeight [DecidableEq V] : M :=
  ((∑ i, (c.process i).mail host (cfgs i) + c.flying.map (WireEnvelope.mail host)).map
    (mailWeight weight)).sum

def startWeight : M :=
  ∑ i, bootstrapCount (cfgs i) • weight (actorIdForService host program.entryService) "start"

end Sums

variable {host : Host V} {program : Program} {cfgs : ι → Config} {width : Nat}
  {weight : ActorId → String → M} {cost : String → M}

/-- Every letter is handled at one node. -/
theorem lettersOf_sum (distinct : Function.Injective fun i => (cfgs i).nodeId)
    (value : Option Letter → M) {delivered : List Mail}
    (nodes : ∀ sent ∈ delivered, ∃ i, sent.1.1 = (cfgs i).nodeId) :
    ∑ i, ((lettersOf (cfgs i).nodeId delivered).map value).sum =
      (delivered.map fun sent => value sent.2).sum := by
  induction delivered with
  | nil => exact Finset.sum_eq_zero fun _ _ => rfl
  | cons sent rest ih =>
      obtain ⟨home, here⟩ := nodes sent List.mem_cons_self
      have split (i : ι) : ((lettersOf (cfgs i).nodeId (sent :: rest)).map value).sum =
          (if sent.1.1 = (cfgs i).nodeId then value sent.2 else 0) +
            ((lettersOf (cfgs i).nodeId rest).map value).sum := by
        by_cases same : sent.1.1 = (cfgs i).nodeId
        · simp [lettersOf, same]
        · simp [lettersOf, same]
      have once : ∑ i, (if sent.1.1 = (cfgs i).nodeId then value sent.2 else 0) =
          value sent.2 := by
        rw [Finset.sum_eq_single home, if_pos here]
        · intro i _ different
          exact if_neg fun same => different (distinct (same.symm.trans here))
        · exact fun absent => absurd (Finset.mem_univ home) absent
      rw [Finset.sum_congr rfl fun i _ => split i, Finset.sum_add_distrib, once, List.map_cons,
        List.sum_cons, ih fun other member => nodes other (List.mem_cons_of_mem sent member)]

variable [PartialOrder M] [IsOrderedAddMonoid M]

theorem clusterStart_weight (nonneg : ∀ id msgType, 0 ≤ weight id msgType) :
    ((clusterStart cfgs host program).mail.map (mailWeight weight)).sum ≤
      startWeight host program cfgs weight := by
  have each (i : ι) : (((Process.launch host program (cfgs i)).mail host (cfgs i)).map
      (mailWeight weight)).sum ≤
        bootstrapCount (cfgs i) •
          weight (actorIdForService host program.entryService) "start" := by
    apply (mailWeight_sum_le nonneg (Process.launch_mail host program (cfgs i))).trans
    rw [Multiset.map_replicate, Multiset.sum_replicate]
    exact le_refl _
  have spread : ((clusterStart cfgs host program).mail.map (mailWeight weight)).sum =
      ∑ i, (((Process.launch host program (cfgs i)).mail host (cfgs i)).map
        (mailWeight weight)).sum :=
    map_sum ((Multiset.sumAddMonoidHom : Multiset M →+ M).comp
      (Multiset.mapAddMonoidHom (mailWeight weight))) _ _
  rw [spread]
  exact Finset.sum_le_sum fun i _ => each i

variable (weighed : Weighed host width weight program cost)
  (distinct : Function.Injective fun i => (cfgs i).nodeId)
  (narrow : ∀ i, (cfgs i).peers.keys.length ≤ width)

include weighed distinct narrow

/-- The bootstrap messages pay for a run of the actors. -/
theorem clusterRun_pays {delivered : List Mail} {a : ClusterActors}
    (run : Run (clusterModel cfgs host program).Step (clusterStart cfgs host program)
      delivered a) :
    (delivered.map fun sent => letterCost cost sent.2).sum + (a.mail.map (mailWeight weight)).sum ≤
      startWeight host program cfgs weight := by
  have kept : Contract.trivial.Kept host program cfgs := Contract.trivial_kept
  have pays := clusterModel_pays weighed distinct narrow
  have paid := ActorModel.run_pays (kept.keeps distinct) pays kept.satisfied run
  exact paid.trans (clusterStart_weight weighed.nonneg)

theorem Cluster.Acts.bounds [DecidableEq ι] [DecidableEq V] {c : Cluster ι V}
    {delivered : List Mail} {a : ClusterActors} (acts : c.Acts host program cfgs delivered a) :
    c.handledCost host cost + c.pendingWeight host cfgs weight ≤
      startWeight host program cfgs weight := by
  have paid := clusterRun_pays weighed distinct narrow acts.run
  have handled := lettersOf_sum distinct (letterCost cost) acts.nodes
  rw [Finset.sum_congr rfl fun i _ => congrArg (fun letters : List (Option Letter) =>
    (letters.map (letterCost cost)).sum) (acts.letters i)] at handled
  rw [Cluster.handledCost, handled]
  exact (add_le_add_right (mailWeight_sum_le weighed.nonneg acts.mail) _).trans paid

omit weighed distinct narrow in
/-- With a table of weights that decreases along every handler, the bootstrap messages pay
for what all nodes have handled and for what is still under way.  A send to all peers
counts `width` times, and at least once. -/
theorem work_bounded [DecidableEq ι] [DecidableEq V] (lawful : host.Lawful) {src : String}
    (loaded : loadProgram host src = .ok program)
    (weighed : Weighed host width weight program cost)
    (distinct : Function.Injective fun i => (cfgs i).nodeId)
    (narrow : ∀ i, (cfgs i).peers.keys.length ≤ width) {c : Cluster ι V}
    (reached : Reachable host program cfgs c) :
    c.handledCost host cost + c.pendingWeight host cfgs weight ≤
      startWeight host program cfgs weight := by
  obtain ⟨delivered, a, acts⟩ := reached.acts lawful (loadProgram_accepted loaded) distinct
  exact Cluster.Acts.bounds weighed distinct narrow acts

end Work

section Sample

/-- A start sends one ping and sets one timer. -/
def sampleWeight (_ : ActorId) (msgType : String) : Nat := if msgType = "start" then 3 else 1

theorem sampleWeight_weighed : Weighed jsonHost 1 sampleWeight sampleProgram fun _ => 1 where
  nonneg _ _ := Nat.zero_le _
  covers id msgType := by
    rw [sampleWeight]
    split
    · exact Nat.le_add_left 1 2
    · exact Nat.le_refl 1
  handled service msgType plan found := by
    rcases List.mem_cons.mp (AList.mem_lookup_iff.mp found) with same | rest
    · cases same
      exact Nat.le_refl 1
    · cases List.mem_singleton.mp rest
      exact Nat.le_refl 3

theorem work_bounded_sample :
    (samplePair [0, 1, 0, 1, 0]).handledCost jsonHost (fun _ => 1) +
        (samplePair [0, 1, 0, 1, 0]).pendingWeight jsonHost sampleNodes sampleWeight ≤
      startWeight jsonHost sampleProgram sampleNodes sampleWeight :=
  work_bounded jsonHost_lawful sampleProgram_loaded sampleWeight_weighed sampleNodes_distinct
    (by decide) (samplePair_reachable [0, 1, 0, 1, 0])

end Sample

end UcoStack.System
