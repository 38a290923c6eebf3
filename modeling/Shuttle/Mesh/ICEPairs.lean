import Shuttle.Go.Sort
import Shuttle.Go.Text
import Shuttle.Lib.Machine

/-!
# The candidate pairs of an ICE agent

An agent forms pairs when a candidate is added, local or remote, and sorts them by priority. A
gathering that completes, also the one of a restart, replaces the local candidates as a whole and
leaves the pairs as they are. Every call holds the lock while it changes the lists, so the run of an
agent is a list of such changes.
-/

namespace Shuttle.ICE

open Shuttle.Go Shuttle.Lib List

structure Candidate where
  addr : GoString
  type : Nat
  priority : UInt32
deriving DecidableEq

def computePairPriority (controlling : Bool) (localPriority remotePriority : UInt32) : UInt64 :=
  let (g, d) := if controlling then (localPriority, remotePriority)
    else (remotePriority, localPriority)
  let (min, max) := if d < g then (d, g) else (g, d)
  min.toUInt64 <<< 32 + max.toUInt64 * 2 + if d < g then 1 else 0

structure CandidatePair where
  here : Candidate
  remote : Candidate
  priority : UInt64

def newCandidatePair (controlling : Bool) (here remote : Candidate) : CandidatePair :=
  ⟨here, remote, computePairPriority controlling here.priority remote.priority⟩

def higher (left right : CandidatePair) : Bool := decide (right.priority < left.priority)

structure Agent where
  localCandidates : List Candidate
  remoteCandidates : List Candidate
  candidatePairs : List CandidatePair

inductive Change where
  | gathered (candidates : List Candidate)
  /-- Trickle gathering finds a local candidate, `addLocalCandidate`. -/
  | addLocal (candidate : Candidate)
  | addRemote (candidate : Candidate)
  | addRemoteTrickle (candidate : Candidate)
  /-- `Restart` clears the lists before it gathers again. -/
  | restart

section Model

variable (sorter : Sorter CandidatePair higher) (controlling : Bool)

def Agent.insertRemote (agent : Agent) (candidate : Candidate) : Agent :=
  { agent with
    remoteCandidates := agent.remoteCandidates ++ [candidate]
    candidatePairs := sorter.sort (agent.candidatePairs ++
      agent.localCandidates.map (newCandidatePair controlling · candidate)) }

def Agent.insertLocal (agent : Agent) (candidate : Candidate) : Agent :=
  { agent with
    localCandidates := agent.localCandidates ++ [candidate]
    candidatePairs := sorter.sort (agent.candidatePairs ++
      agent.remoteCandidates.map (newCandidatePair controlling candidate ·)) }

/-- The agent after a change; a candidate that is known is not added. -/
def apply (agent : Agent) : Change → Agent
  | .gathered candidates => { agent with localCandidates := candidates }
  | .addLocal candidate =>
    if agent.localCandidates.any fun c => c.addr == candidate.addr && c.type == candidate.type then
      agent
    else agent.insertLocal sorter controlling candidate
  | .addRemote candidate =>
    if agent.remoteCandidates.any fun c => c.addr == candidate.addr then agent
    else agent.insertRemote sorter controlling candidate
  | .addRemoteTrickle candidate =>
    if agent.remoteCandidates.any fun c => c.addr == candidate.addr && c.type == candidate.type then
      agent
    else agent.insertRemote sorter controlling candidate
  | .restart => { agent with remoteCandidates := [], candidatePairs := [] }

def machine : Machine Agent Change :=
  ⟨fun agent change => some (apply sorter controlling agent change)⟩

end Model

def newICEAgent : Agent := ⟨[], [], []⟩

def combinations (locals remotes : List Candidate) : List (Candidate × Candidate) :=
  locals.flatMap fun here => remotes.map fun remote => (here, remote)

def CandidatePair.ends (pair : CandidatePair) : Candidate × Candidate := (pair.here, pair.remote)

structure Paired (agent : Agent) : Prop where
  complete : (agent.candidatePairs.map CandidatePair.ends).Perm
    (combinations agent.localCandidates agent.remoteCandidates)
  sorted : agent.candidatePairs.Pairwise fun earlier later => later.priority ≤ earlier.priority

/-- A gathering that completes with remote candidates known and other local candidates than
before. -/
def Replaces (agent : Agent) : Change → Prop
  | .gathered candidates =>
    agent.remoteCandidates ≠ [] ∧ ¬candidates.Perm agent.localCandidates
  | _ => False

section Proofs

variable {sorter : Sorter CandidatePair higher} {controlling : Bool}

theorem combinations_nil (locals : List Candidate) : combinations locals [] = [] :=
  flatMap_eq_nil_iff.mpr fun _ _ => rfl

theorem combinations_snoc_remote (locals remotes : List Candidate) (remote : Candidate) :
    (combinations locals (remotes ++ [remote])).Perm
      (combinations locals remotes ++ locals.map fun here => (here, remote)) := by
  induction locals with
  | nil => exact .refl _
  | cons here rest ih =>
    simp only [combinations, flatMap_cons, map_append, map_cons, append_assoc] at ih ⊢
    refine .append_left _ ?_
    exact (List.Perm.cons _ ih).trans perm_middle.symm

theorem count_combinations (here : Candidate) (locals remotes : List Candidate) :
    ((combinations locals remotes).map Prod.fst).count here =
      remotes.length * locals.count here := by
  induction locals with
  | nil => rfl
  | cons first rest ih =>
    simp only [combinations, flatMap_cons, map_append, count_append] at ih ⊢
    rw [ih]
    by_cases same : first = here
    · subst same
      simp [Nat.mul_add, Nat.add_comm]
    · simp [Function.comp_def, count_replicate, same]

theorem combinations_perm_iff {locals others remotes : List Candidate} :
    (combinations locals remotes).Perm (combinations others remotes) ↔
      remotes = [] ∨ locals.Perm others := by
  constructor
  · intro perm
    by_cases none : remotes = []
    · exact .inl none
    -- a local candidate stands in as many combinations as there are remote ones
    refine .inr (perm_iff_count.mpr fun here => ?_)
    have counts := perm_iff_count.mp (perm.map Prod.fst) here
    rw [count_combinations, count_combinations] at counts
    exact Nat.eq_of_mul_eq_mul_left (length_pos_iff.mpr none) counts
  · rintro (rfl | perm)
    · rw [combinations_nil, combinations_nil]
    · exact perm.flatMap_right _

theorem sorted_sort (pairs : List CandidatePair) :
    (sorter.sort pairs).Pairwise fun earlier later => later.priority ≤ earlier.priority :=
  (sorter.ordered pairs).imp fun ordered => UInt64.not_lt.mp (of_decide_eq_false ordered)

theorem Paired.insertRemote {agent : Agent} (paired : Paired agent) (candidate : Candidate) :
    Paired (agent.insertRemote sorter controlling candidate) := by
  refine ⟨((sorter.perm _).map _).trans ?_, sorted_sort _⟩
  rw [map_append, map_map]
  exact (paired.complete.append_right _).trans (combinations_snoc_remote ..).symm

theorem Paired.insertLocal {agent : Agent} (paired : Paired agent) (candidate : Candidate) :
    Paired (agent.insertLocal sorter controlling candidate) := by
  refine ⟨((sorter.perm _).map _).trans ?_, sorted_sort _⟩
  rw [map_append]
  refine (paired.complete.append_right _).trans (List.Perm.of_eq ?_)
  simp [combinations, Agent.insertLocal, CandidatePair.ends, newCandidatePair]

theorem paired_apply_iff {agent : Agent} (paired : Paired agent) (change : Change) :
    Paired (apply sorter controlling agent change) ↔ ¬Replaces agent change := by
  cases change with
  | gathered candidates =>
    have decides : Paired { agent with localCandidates := candidates } ↔
        agent.remoteCandidates = [] ∨ candidates.Perm agent.localCandidates := by
      rw [← combinations_perm_iff]
      constructor
      · exact fun after => after.complete.symm.trans paired.complete
      · exact fun perm => ⟨paired.complete.trans perm.symm, paired.sorted⟩
    refine decides.trans ?_
    simp only [Replaces]
    tauto
  | addLocal candidate =>
    refine iff_of_true ?_ id
    rw [apply]
    split
    · exact paired
    · exact paired.insertLocal candidate
  | addRemote candidate | addRemoteTrickle candidate =>
    refine iff_of_true ?_ id
    rw [apply]
    split
    · exact paired
    · exact paired.insertRemote candidate
  | restart => exact iff_of_true ⟨.of_eq (combinations_nil _).symm, .nil⟩ id

/-- Along every interleaving the pairs are complete, single and sorted, exactly when no gathering
completes with other local candidates while remote ones are known. -/
theorem paired_iff_never_replaced (sorter : Sorter CandidatePair higher) (controlling : Bool)
    (changes : List Change) :
    (machine sorter controlling).Always Paired newICEAgent changes ↔
      (machine sorter controlling).Never Replaces newICEAgent changes :=
  Machine.always_iff_never (fun _ => True)
    (fun _ paired stepped => by
      cases stepped
      exact ⟨trivial, paired_apply_iff paired _⟩) changes trivial ⟨.refl _, .nil⟩

end Proofs

def byPriority : Sorter CandidatePair higher where
  sort := (Sorter.byKey fun pair : CandidatePair => OrderDual.toDual pair.priority.toNat).sort
  perm := (Sorter.byKey _).perm
  ordered items := ((Sorter.byKey _).ordered items).imp fun ordered => by
    simpa [higher, UInt64.lt_iff_toNat_lt, UInt64.le_iff_toNat_le] using ordered

/-- A remote candidate that arrives before the gathering completes is paired with no local one. -/
theorem early_remote_unpaired :
    ¬(machine byPriority true).Always Paired newICEAgent
      [.addRemote ⟨lit "203.0.113.5:4000", 1, 100⟩,
        .gathered [⟨lit "192.168.1.2:5000", 0, 126⟩]] := by
  intro always
  have paired := always _ [] _ (append_nil _).symm rfl
  exact absurd paired.complete.length_eq (by decide)

end Shuttle.ICE
