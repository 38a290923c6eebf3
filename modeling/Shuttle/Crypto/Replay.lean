import Shuttle.Crypto.Cuckoo
import Shuttle.Lib.Generations

/-!
# The replay filter and its window

Two cuckoo filters take turns: a check made at least half a window after the last swap
retires the current filter to previous and starts an empty one. A nonce is certain to be
reported until the second swap after it was accepted and no longer, and two swaps may fall
within the window. Times are readings of a monotonic clock in nanoseconds.
-/

namespace Shuttle.Crypto

open Shuttle.Lib List CuckooFilter Generations

def defaultCap : Int := 1048576

/-- The filter state; the mutex makes each check one step. -/
structure ReplayFilter where
  current : CuckooFilter
  previous : CuckooFilter
  window : Int
  lastSwap : Int
  capacity : Int

/-- A filter made at `now`; a zero window selects 120 seconds. -/
def newReplayFilter (now window : Int) : ReplayFilter where
  current := newCuckooFilter defaultCap
  previous := newCuckooFilter defaultCap
  window := if window = 0 then 120000000000 else window
  lastSwap := now
  capacity := defaultCap

/-- A nonce whose insertion failed is told apart here because the source drops that result. -/
inductive Verdict where
  | replay
  /-- The check returned false and the nonce was inserted. -/
  | fresh
  /-- The check returned false and the insertion found no room. -/
  | dropped
deriving DecidableEq, Repr

/-- The clock as one call reads it: for the time since the last swap and, when it swaps, once more.
-/
structure Instant where
  now : Int
  stamp : Int

structure Call where
  time : Instant
  nonce : UInt64
  choices : CuckooFilter.Choices

namespace ReplayFilter

variable (filter : ReplayFilter)

def swapsAt (time : Instant) : Bool :=
  !decide (time.now - filter.lastSwap < filter.window.tdiv 2)

/-- Retire the current filter when half the window has passed since the last swap. -/
def maybeSwap (time : Instant) : ReplayFilter :=
  if filter.swapsAt time then
    { filter with
      previous := filter.current
      current := newCuckooFilter filter.capacity
      lastSwap := time.stamp }
  else filter

/-- The check: a hit in either filter is a replay, any other nonce is inserted. -/
def check (call : Call) : Option (ReplayFilter × Verdict) :=
  let filter := filter.maybeSwap call.time
  match filter.current.lookup call.nonce with
  | none => none
  | some true => some (filter, .replay)
  | some false =>
    match filter.previous.lookup call.nonce with
    | none => none
    | some true => some (filter, .replay)
    | some false =>
      match filter.current.insert call.nonce call.choices with
      | none => none
      | some (current, true) => some ({ filter with current := current }, .fresh)
      | some (current, false) => some ({ filter with current := current }, .dropped)

def fnv64a (bytes : List UInt8) : UInt64 :=
  bytes.foldl (fun hash byte => (hash ^^^ byte.toUInt64) * 0x100000001b3) 0xcbf29ce484222325

/-- The check of a nonce of any length, by its hash; an empty nonce is never a replay. -/
def checkBytes (nonce : List UInt8) (time : Instant)
    (choices : CuckooFilter.Choices) : Option (ReplayFilter × Bool) :=
  if nonce.length = 0 then some (filter, false)
  else
    match filter.check ⟨time, fnv64a nonce, choices⟩ with
    | none => none
    | some (next, verdict) => some (next, verdict == .replay)

/-- Verdicts of a run of checks in which every insertion succeeds; none for any other run. -/
def verdicts (filter : ReplayFilter) : List Call → Option (List Verdict)
  | [] => some []
  | call :: calls =>
    match filter.check call with
    | none => none
    | some (_, .dropped) => none
    | some (next, verdict) => (next.verdicts calls).map (verdict :: ·)

/-- Which of the checks at these times swap, given the half window and the last swap. -/
def swapFlags (half last : Int) : List Instant → List Bool
  | [] => []
  | time :: times =>
    if time.now - last < half then false :: swapFlags half last times
    else true :: swapFlags half time.stamp times

/-- Number of swaps after check `i` and up to check `j`, the swap made by check `j` included. -/
def swapsBetween (flags : List Bool) (i j : Nat) : Nat :=
  ((flags.drop (i + 1)).take (j - i)).count true

/-- In every run at these times, whatever the nonces and draws, a nonce accepted by check `i` and
checked again by check `j` is a replay. -/
def Retains (times : List Instant) (i j : Nat) : Prop :=
  ∀ (calls : List Call) (results : List Verdict) (first again : Call),
    calls.map Call.time = times → filter.verdicts calls = some results →
    calls[i]? = some first → calls[j]? = some again → first.nonce = again.nonce →
    results[i]? = some .fresh → results[j]? = some .replay

/-! ## One check -/

structure Sized (filter : ReplayFilter) : Prop where
  current : filter.current.numBuckets ≠ 0
  previous : filter.previous.numBuckets ≠ 0
  renewed : (newCuckooFilter filter.capacity).numBuckets ≠ 0

theorem newReplayFilter_sized (now window : Int) : (newReplayFilter now window).Sized := by
  have buckets : (newCuckooFilter defaultCap).numBuckets ≠ 0 := by decide
  exact ⟨buckets, buckets, buckets⟩

variable {filter swapped next : ReplayFilter} {call : Call} {verdict : Verdict}
  {memory : Generations UInt64} {x : UInt64} {members : UInt64 → Prop}

theorem Sized.maybeSwap (sized : filter.Sized) (time : Instant) :
    (filter.maybeSwap time).Sized := by
  unfold ReplayFilter.maybeSwap
  cases filter.swapsAt time with
  | true => exact ⟨sized.renewed, sized.current, sized.renewed⟩
  | false => exact sized

/-- What a check does after the possible swap. -/
inductive Outcome (swapped : ReplayFilter) (call : Call) : ReplayFilter → Verdict → Prop
  | hitCurrent : swapped.current.lookup call.nonce = some true →
      Outcome swapped call swapped .replay
  | hitPrevious : swapped.current.lookup call.nonce = some false →
      swapped.previous.lookup call.nonce = some true → Outcome swapped call swapped .replay
  | missed {current : CuckooFilter} {inserted : Bool} :
      swapped.current.lookup call.nonce = some false →
      swapped.previous.lookup call.nonce = some false →
      swapped.current.insert call.nonce call.choices = some (current, inserted) →
      Outcome swapped call { swapped with current := current }
        (if inserted then .fresh else .dropped)

theorem check_outcome (sized : filter.Sized) (call : Call) :
    ∃ next verdict, filter.check call = some (next, verdict) ∧
      Outcome (filter.maybeSwap call.time) call next verdict := by
  have swapped := sized.maybeSwap call.time
  unfold check
  dsimp only
  cases first : (filter.maybeSwap call.time).current.lookup call.nonce with
  | none =>
    rw [lookup_eq swapped.current] at first
    contradiction
  | some hit =>
    cases hit with
    | true => exact ⟨_, _, rfl, .hitCurrent first⟩
    | false =>
      cases second : (filter.maybeSwap call.time).previous.lookup call.nonce with
      | none =>
        rw [lookup_eq swapped.previous] at second
        contradiction
      | some hit =>
        cases hit with
        | true => exact ⟨_, _, rfl, .hitPrevious first second⟩
        | false =>
          obtain ⟨current, inserted, done, _⟩ := insert_spec (fun _ => False)
            swapped.current call.nonce call.choices
          simp only [done]
          cases inserted with
          | true | false => exact ⟨_, _, rfl, .missed first second done⟩

theorem Outcome.sized
    (outcome : Outcome swapped call next verdict) (sized : swapped.Sized) : next.Sized := by
  cases outcome with
  | hitCurrent _ | hitPrevious _ _ => exact sized
  | missed _ _ done =>
    obtain ⟨result, inserted, same, size, _⟩ :=
      insert_spec (fun _ => False) sized.current call.nonce call.choices
    rw [done] at same
    obtain ⟨rfl, rfl⟩ := Prod.mk.inj (Option.some.inj same)
    refine ⟨?_, sized.previous, sized.renewed⟩
    rw [size]
    exact sized.current

theorem Outcome.clock (outcome : Outcome swapped call next verdict) :
    next.window = swapped.window ∧ next.lastSwap = swapped.lastSwap := by
  cases outcome <;> exact ⟨rfl, rfl⟩

theorem checkBytes_total (sized : filter.Sized) {nonce : List UInt8}
    (nonempty : nonce.length ≠ 0) (time : Instant) (choices : CuckooFilter.Choices) :
    ∃ next seen, filter.checkBytes nonce time choices = some (next, seen) ∧ next.Sized ∧
      next.window = filter.window ∧
      next.lastSwap = if filter.swapsAt time then time.stamp else filter.lastSwap := by
  have ⟨next, verdict, checked, outcome⟩ :=
    check_outcome sized ⟨time, fnv64a nonce, choices⟩
  have ⟨window, last⟩ := outcome.clock
  refine ⟨next, verdict == .replay, ?_, outcome.sized (sized.maybeSwap time), ?_, ?_⟩
  · rw [checkBytes, if_neg nonempty, checked]
  · rw [window, maybeSwap]
    split <;> rfl
  · rw [last, maybeSwap]
    split <;> rfl

theorem swapFlags_cons
    (outcome : Outcome (filter.maybeSwap call.time) call next verdict) (times : List Instant) :
    swapFlags (filter.window.tdiv 2) filter.lastSwap (call.time :: times) =
      filter.swapsAt call.time :: swapFlags (next.window.tdiv 2) next.lastSwap times := by
  obtain ⟨window, last⟩ := outcome.clock
  rw [window, last]
  by_cases early : call.time.now - filter.lastSwap < filter.window.tdiv 2 <;>
    simp [swapFlags, maybeSwap, swapsAt, early]

theorem count_true_cons (flag : Bool) (flags : List Bool) :
    (flag :: flags).count true = flag.toNat + flags.count true := by
  cases flag with
  | true => rw [count_cons_self, Bool.toNat_true, Nat.add_comm]
  | false => rw [count_cons_of_ne (by decide), Bool.toNat_false, Nat.zero_add]

theorem verdicts_cons (sized : filter.Sized) {calls : List Call} {results : List Verdict}
    (ran : filter.verdicts (call :: calls) = some results) :
    ∃ next verdict rest, Outcome (filter.maybeSwap call.time) call next verdict ∧
      verdict ≠ .dropped ∧ next.verdicts calls = some rest ∧ results = verdict :: rest := by
  obtain ⟨next, verdict, checked, outcome⟩ := check_outcome sized call
  unfold verdicts at ran
  rw [checked] at ran
  cases verdict with
  | dropped => contradiction
  | replay | fresh =>
    obtain ⟨rest, later, rfl⟩ := Option.map_eq_some_iff.mp ran
    exact ⟨next, _, rest, outcome, by decide, later, rfl⟩

/-! ## What is certainly remembered -/

structure Tracks (filter : ReplayFilter) (memory : Generations UInt64) : Prop where
  sized : filter.Sized
  current : filter.current.Faithful memory.current
  previous : filter.previous.Faithful memory.previous

def remember (memory : Generations UInt64) (nonce : UInt64) : Verdict → Generations UInt64
  | .fresh => memory.record nonce
  | _ => memory

theorem newReplayFilter_tracks (now window : Int) :
    (newReplayFilter now window).Tracks empty :=
  ⟨newReplayFilter_sized now window, newCuckooFilter_faithful _,
    newCuckooFilter_faithful _⟩

theorem Tracks.maybeSwap (tracks : filter.Tracks memory) (time : Instant) :
    (filter.maybeSwap time).Tracks (memory.rotate (filter.swapsAt time)) := by
  refine ⟨tracks.sized.maybeSwap time, ?_, ?_⟩
  · unfold ReplayFilter.maybeSwap
    cases filter.swapsAt time with
    | true => exact newCuckooFilter_faithful _
    | false => exact tracks.current
  · unfold ReplayFilter.maybeSwap
    cases filter.swapsAt time with
    | true => exact tracks.current
    | false => exact tracks.previous

theorem Tracks.outcome (tracks : swapped.Tracks memory)
    (outcome : Outcome swapped call next verdict) (kept : verdict ≠ .dropped) :
    next.Tracks (remember memory call.nonce verdict) ∧
      (memory.Remembers call.nonce → verdict = .replay) := by
  have sized := outcome.sized tracks.sized
  cases outcome with
  | hitCurrent _ | hitPrevious _ _ => exact ⟨tracks, fun _ => rfl⟩
  | @missed current inserted absent absentBefore done =>
    cases inserted with
    | false => exact absurd rfl kept
    | true =>
      refine ⟨⟨sized, (insert_faithful tracks.current done).1, tracks.previous⟩, ?_⟩
      rintro (recorded | recorded)
      · rw [tracks.current.lookup tracks.sized.current recorded] at absent
        contradiction
      · rw [tracks.previous.lookup tracks.sized.previous recorded] at absentBefore
        contradiction

variable (calls : List Call) (times : List Instant)

theorem replay_of_lasts :
    ∀ {filter : ReplayFilter} {memory : Generations UInt64} {results : List Verdict} {k : Nat}
      {again : Call}, filter.Tracks memory → filter.verdicts calls = some results →
      memory.Lasts x (((swapFlags (filter.window.tdiv 2) filter.lastSwap
        (calls.map Call.time)).take (k + 1)).count true) →
      calls[k]? = some again → again.nonce = x → results[k]? = some .replay := by
  induction calls with
  | nil =>
    intro filter memory results k again _ _ _ found
    simp at found
  | cons call calls ih =>
    intro filter memory results k again tracks ran lasts found same
    obtain ⟨next, verdict, rest, outcome, kept, later, rfl⟩ := verdicts_cons tracks.sized ran
    obtain ⟨following, reports⟩ := (tracks.maybeSwap call.time).outcome outcome kept
    rw [map_cons, swapFlags_cons outcome, take_succ_cons, count_true_cons] at lasts
    have rotated := lasts.rotate
    cases k with
    | zero =>
      obtain rfl : call = again := by simpa using found
      subst same
      rw [reports rotated.remembers]
      rfl
    | succ k =>
      rw [List.getElem?_cons_succ] at found ⊢
      refine ih following later ?_ found same
      cases verdict with
      | replay => exact rotated
      | fresh => exact rotated.record call.nonce
      | dropped => exact absurd rfl kept

theorem swapsBetween_cons (flag : Bool) (flags : List Bool) (i j : Nat) :
    swapsBetween (flag :: flags) (i + 1) (j + 1) = swapsBetween flags i j := by
  unfold swapsBetween
  rw [drop_succ_cons, Nat.add_sub_add_right]

theorem replay_of_few :
    ∀ {filter : ReplayFilter} {memory : Generations UInt64} {results : List Verdict} {i j : Nat}
      {first again : Call}, filter.Tracks memory → filter.verdicts calls = some results → i < j →
      swapsBetween (swapFlags (filter.window.tdiv 2) filter.lastSwap (calls.map Call.time)) i j ≤
        1 →
      calls[i]? = some first → calls[j]? = some again → first.nonce = again.nonce →
      results[i]? = some .fresh → results[j]? = some .replay := by
  induction calls with
  | nil =>
    intro filter memory results i j first again _ _ _ _ found
    simp at found
  | cons call calls ih =>
    intro filter memory results i j first again tracks ran ordered few found foundAgain same fresh
    obtain ⟨next, verdict, rest, outcome, kept, later, rfl⟩ := verdicts_cons tracks.sized ran
    obtain ⟨following, _⟩ := (tracks.maybeSwap call.time).outcome outcome kept
    rw [map_cons, swapFlags_cons outcome] at few
    obtain ⟨j, rfl⟩ : ∃ before, j = before + 1 := ⟨j - 1, by omega⟩
    rw [List.getElem?_cons_succ] at foundAgain ⊢
    cases i with
    | zero =>
      obtain rfl : call = first := by simpa using found
      obtain rfl : verdict = .fresh := by simpa using fresh
      exact replay_of_lasts calls following later (lasts_record _ _ few) foundAgain
        same.symm
    | succ i =>
      rw [swapsBetween_cons] at few
      exact ih following later (by omega) few found foundAgain same fresh

/-! ## What is forgotten

Two nonces with different fingerprints and buckets suffice to show that the second swap
forgets: one is probed, the other fills the remaining checks. -/

/-- The probed nonce and the filling one. -/
def Marked (x : UInt64) : Prop := x = 1 ∨ x = 2

/-- A filter of the default size that stores at most marked members, each in its first bucket. -/
structure Sparse (filter : CuckooFilter) (members : UInt64 → Prop) : Prop where
  size : filter.numBuckets = 262144
  stored : ∀ idx slot, filter.buckets idx slot ≠ 0 → ∃ x, Marked x ∧ members x ∧
    idx = filter.index1 x ∧ filter.buckets idx slot = fingerprint x

theorem marked_fingerprint {y : UInt64} (markedX : Marked x) (markedY : Marked y)
    (same : fingerprint x = fingerprint y) : x = y := by
  rcases markedX with rfl | rfl <;> rcases markedY with rfl | rfl
  · rfl
  · exact absurd same (by decide)
  · exact absurd same (by decide)
  · rfl

theorem marked_index1 {filter : CuckooFilter} (size : filter.numBuckets = 262144) {y : UInt64}
    (markedX : Marked x) (markedY : Marked y) (same : filter.index1 x = filter.index1 y) :
    x = y := by
  unfold index1 at same
  rw [size] at same
  rcases markedX with rfl | rfl <;> rcases markedY with rfl | rfl
  · rfl
  · exact absurd same (by decide)
  · exact absurd same (by decide)
  · rfl

theorem newCuckooFilter_sparse : Sparse (newCuckooFilter defaultCap) (fun _ => False) :=
  ⟨by decide, fun _ _ occupied => absurd rfl occupied⟩

theorem Sparse.positive {filter : CuckooFilter}
    (sparse : Sparse filter members) : filter.numBuckets ≠ 0 := by
  rw [sparse.size]
  decide

theorem Sparse.member_of_holds {filter : CuckooFilter}
    {idx : UInt32} (sparse : Sparse filter members) (marked : Marked x)
    (holds : CuckooTable.Holds filter.buckets idx (fingerprint x)) : members x := by
  obtain ⟨slot, value⟩ := holds
  have occupied : filter.buckets idx slot ≠ 0 := by
    rw [value]
    exact fingerprint_ne_zero x
  obtain ⟨y, markedY, member, _, stored⟩ := sparse.stored idx slot occupied
  rw [value] at stored
  rw [marked_fingerprint marked markedY stored]
  exact member

theorem Sparse.lookup {filter : CuckooFilter}
    (sparse : Sparse filter members) (marked : Marked x) (absent : ¬members x) :
    filter.lookup x = some false := by
  rw [lookup_eq sparse.positive, decide_eq_false]
  rintro (holds | holds) <;> exact absent (sparse.member_of_holds marked holds)

theorem Sparse.insert {filter : CuckooFilter}
    (sparse : Sparse filter members) (marked : Marked x) (missed : filter.lookup x = some false)
    (choices : CuckooFilter.Choices) : ∃ result, filter.insert x choices = some (result, true) ∧
      Sparse result (fun y => y = x ∨ members y) := by
  have below := (index1_masked filter x).lt sparse.positive
  have unheld : ¬CuckooTable.Holds filter.buckets (filter.index1 x)
      (fingerprint x) := by
    rw [lookup_eq sparse.positive] at missed
    exact fun holds => of_decide_eq_false (Option.some.inj missed) (.inl holds)
  unfold CuckooFilter.insert
  rcases bucketInsert_cases filter below (fingerprint x) with
    ⟨slot, _, placed⟩ | ⟨full, _⟩
  · simp only [placed]
    refine ⟨_, rfl, sparse.size, fun idx other occupied => ?_⟩
    by_cases written : idx = filter.index1 x ∧ other = slot
    · obtain ⟨rfl, rfl⟩ := written
      exact ⟨x, marked, .inl rfl, rfl, CuckooTable.put_same ..⟩
    · have kept : CuckooTable.put filter.buckets (filter.index1 x) slot
          (fingerprint x) idx other = filter.buckets idx other :=
        CuckooTable.put_other _ _ written
      obtain ⟨y, markedY, member, home, stored⟩ := sparse.stored idx other (kept ▸ occupied)
      exact ⟨y, markedY, .inr member, home, kept.trans stored⟩
  · have slot : Fin bucketSize := ⟨0, by decide⟩
    obtain ⟨y, markedY, _, home, stored⟩ := sparse.stored _ slot (full slot)
    rw [← marked_index1 sparse.size marked markedY home] at stored
    exact absurd ⟨slot, stored⟩ unheld

/-- Each filter stores at most the marked nonces of one generation of the memory. -/
structure Traces (filter : ReplayFilter) (memory : Generations UInt64) : Prop where
  current : Sparse filter.current memory.current
  previous : Sparse filter.previous memory.previous
  capacity : filter.capacity = defaultCap

theorem newReplayFilter_traces (now window : Int) :
    (newReplayFilter now window).Traces empty :=
  ⟨newCuckooFilter_sparse, newCuckooFilter_sparse, rfl⟩

theorem Traces.sized (traces : filter.Traces memory) : filter.Sized := by
  refine ⟨traces.current.positive, traces.previous.positive, ?_⟩
  rw [traces.capacity]
  exact newCuckooFilter_sparse.positive

theorem Traces.maybeSwap (traces : filter.Traces memory) (time : Instant) :
    (filter.maybeSwap time).Traces (memory.rotate (filter.swapsAt time)) := by
  unfold ReplayFilter.maybeSwap
  cases filter.swapsAt time with
  | false => exact traces
  | true =>
    refine ⟨?_, traces.current, traces.capacity⟩
    rw [traces.capacity]
    exact newCuckooFilter_sparse

theorem Traces.outcome (traces : swapped.Traces memory) (marked : Marked call.nonce)
    (outcome : Outcome swapped call next verdict) :
    next.Traces (remember memory call.nonce verdict) ∧ verdict ≠ .dropped ∧
      (¬memory.Remembers call.nonce → verdict = .fresh) := by
  cases outcome with
  | hitCurrent found =>
    refine ⟨traces, by decide, fun absent => ?_⟩
    rw [traces.current.lookup marked (fun member => absent (.inl member))] at found
    contradiction
  | hitPrevious _ found =>
    refine ⟨traces, by decide, fun absent => ?_⟩
    rw [traces.previous.lookup marked (fun member => absent (.inr member))] at found
    contradiction
  | missed missed _ done =>
    obtain ⟨result, stored, sparse⟩ := traces.current.insert marked missed call.choices
    rw [stored] at done
    obtain ⟨rfl, rfl⟩ := Prod.mk.inj (Option.some.inj done)
    exact ⟨⟨sparse, traces.previous, traces.capacity⟩, by decide, fun _ => rfl⟩

theorem verdicts_marked {filter : ReplayFilter} {memory : Generations UInt64}
    (traces : filter.Traces memory) (marked : ∀ call ∈ calls, Marked call.nonce) :
    ∃ results, filter.verdicts calls = some results := by
  induction calls generalizing filter memory with
  | nil =>
    exact ⟨[], rfl⟩
  | cons call calls ih =>
    obtain ⟨next, verdict, checked, outcome⟩ := check_outcome traces.sized call
    obtain ⟨following, kept, _⟩ := (traces.maybeSwap call.time).outcome
      (marked call mem_cons_self) outcome
    obtain ⟨rest, later⟩ := ih following fun other member =>
      marked other (mem_cons_of_mem _ member)
    refine ⟨verdict :: rest, ?_⟩
    unfold verdicts
    rw [checked]
    cases verdict with
    | dropped => exact absurd rfl kept
    | replay | fresh => exact congrArg (Option.map _) later

theorem fresh_of_fades :
    ∀ {filter : ReplayFilter} {memory : Generations UInt64} {results : List Verdict} {k : Nat}
      {again : Call}, filter.Traces memory → (∀ call ∈ calls, Marked call.nonce) →
      filter.verdicts calls = some results →
      memory.Fades x (((swapFlags (filter.window.tdiv 2) filter.lastSwap
        (calls.map Call.time)).take (k + 1)).count true) →
      calls[k]? = some again → again.nonce = x →
      (∀ m < k, ∀ call, calls[m]? = some call → call.nonce ≠ x) → results[k]? = some .fresh := by
  induction calls with
  | nil =>
    intro filter memory results k again _ _ _ _ found
    simp at found
  | cons call calls ih =>
    intro filter memory results k again traces marked ran fades found same others
    obtain ⟨next, verdict, rest, outcome, kept, later, rfl⟩ := verdicts_cons traces.sized ran
    obtain ⟨following, _, accepts⟩ := (traces.maybeSwap call.time).outcome
      (marked call mem_cons_self) outcome
    rw [map_cons, swapFlags_cons outcome, take_succ_cons, count_true_cons] at fades
    have rotated := fades.rotate
    cases k with
    | zero =>
      obtain rfl : call = again := by simpa using found
      subst same
      rw [accepts rotated.forgotten]
      rfl
    | succ k =>
      rw [List.getElem?_cons_succ] at found ⊢
      refine ih following (fun other member => marked other (mem_cons_of_mem _ member)) later
        ?_ found same fun m below other present => others (m + 1) (by omega) other present
      have different := others 0 (by omega) call rfl
      cases verdict with
      | replay => exact rotated
      | fresh => exact rotated.record different.symm
      | dropped => exact absurd rfl kept

theorem fresh_of_many :
    ∀ {filter : ReplayFilter} {memory : Generations UInt64} {results : List Verdict} {i j : Nat}
      {first again : Call}, filter.Traces memory → ¬memory.Remembers x →
      (∀ call ∈ calls, Marked call.nonce) → filter.verdicts calls = some results → i < j →
      2 ≤ swapsBetween (swapFlags (filter.window.tdiv 2) filter.lastSwap
        (calls.map Call.time)) i j →
      calls[i]? = some first → calls[j]? = some again → first.nonce = x → again.nonce = x →
      (∀ m < j, m ≠ i → ∀ call, calls[m]? = some call → call.nonce ≠ x) →
      results[i]? = some .fresh ∧ results[j]? = some .fresh := by
  induction calls with
  | nil =>
    intro filter memory results i j first again _ _ _ _ _ _ found
    simp at found
  | cons call calls ih =>
    intro filter memory results i j first again traces absent marked ran ordered many found
      foundAgain same sameAgain others
    obtain ⟨next, verdict, rest, outcome, kept, later, rfl⟩ := verdicts_cons traces.sized ran
    obtain ⟨following, _, accepts⟩ := (traces.maybeSwap call.time).outcome
      (marked call mem_cons_self) outcome
    have stillAbsent : ¬(memory.rotate (filter.swapsAt call.time)).Remembers x :=
      (fades_of_forgotten absent _).rotate.forgotten
    have markedRest : ∀ other ∈ calls, Marked other.nonce :=
      fun other member => marked other (mem_cons_of_mem _ member)
    rw [map_cons, swapFlags_cons outcome] at many
    obtain ⟨j, rfl⟩ : ∃ before, j = before + 1 := ⟨j - 1, by omega⟩
    cases i with
    | zero =>
      obtain rfl : call = first := by simpa using found
      subst same
      obtain rfl := accepts stillAbsent
      refine ⟨rfl, ?_⟩
      rw [List.getElem?_cons_succ]
      exact fresh_of_fades calls following markedRest later
        (fades_record stillAbsent many) foundAgain sameAgain
        fun m below other present => others (m + 1) (by omega) (by omega) other present
    | succ i =>
      rw [swapsBetween_cons] at many
      have different := others 0 (by omega) (by omega) call rfl
      have unrecorded : ¬(remember (memory.rotate (filter.swapsAt call.time)) call.nonce
          verdict).Remembers x := by
        cases verdict with
        | replay | dropped => exact stillAbsent
        | fresh =>
          exact ((fades_of_forgotten stillAbsent 0).record different.symm).forgotten
      rw [List.getElem?_cons_succ]
      exact ih following unrecorded markedRest later (by omega) many found foundAgain same
        sameAgain fun m below apart other present =>
          others (m + 1) (by omega) (by omega) other present

/-! ## The window -/

def probing (i j : Nat) : List Call :=
  times.mapIdx fun m time =>
    { time := time
      nonce := if m = i ∨ m = j then 1 else 2
      choices := ⟨false, fun _ => ⟨0, by decide⟩⟩ }

theorem probing_marked (i j : Nat) : ∀ call ∈ probing times i j, Marked call.nonce := by
  intro call member
  obtain ⟨m, _, rfl⟩ := mem_mapIdx.mp member
  by_cases probed : m = i ∨ m = j
  · exact .inl (if_pos probed)
  · exact .inr (if_neg probed)

theorem probing_times (i j : Nat) : (probing times i j).map Call.time = times := by
  apply ext_getElem?
  intro m
  simp [probing, Function.comp_def]

theorem probing_get {times : List Instant} {i j m : Nat}
    (found : (probing times i j)[m]? = some call) :
    call.nonce = if m = i ∨ m = j then 1 else 2 := by
  rw [probing, List.getElem?_mapIdx] at found
  obtain ⟨time, _, rfl⟩ := Option.map_eq_some_iff.mp found
  rfl

/-- A nonce accepted by one check is certain to be reported by a later check of it exactly when at
most one swap lies between them. -/
theorem retains_iff_swapsBetween (start window : Int) (times : List Instant) (i j : Nat)
    (ordered : i < j) (bounded : j < times.length) :
    (newReplayFilter start window).Retains times i j ↔
      swapsBetween (swapFlags ((newReplayFilter start window).window.tdiv 2) start times) i j ≤
        1 := by
  constructor
  · intro retains
    by_contra many
    have sameTimes := probing_times times i j
    have marked := probing_marked times i j
    have traces := newReplayFilter_traces start window
    obtain ⟨results, ran⟩ := verdicts_marked _ traces marked
    have length : (probing times i j).length = times.length := by simp [probing]
    obtain ⟨first, found⟩ : ∃ call, (probing times i j)[i]? = some call :=
      ⟨_, List.getElem?_eq_getElem (by omega)⟩
    obtain ⟨again, foundAgain⟩ : ∃ call, (probing times i j)[j]? = some call :=
      ⟨_, List.getElem?_eq_getElem (by omega)⟩
    have nonce : first.nonce = 1 := by rw [probing_get found, if_pos (.inl rfl)]
    have nonceAgain : again.nonce = 1 := by rw [probing_get foundAgain, if_pos (.inr rfl)]
    have others : ∀ m < j, m ≠ i → ∀ call, (probing times i j)[m]? = some call →
        call.nonce ≠ 1 := by
      intro m below apart call present
      rw [probing_get present, if_neg (by omega)]
      decide
    obtain ⟨fresh, freshAgain⟩ := fresh_of_many _ traces empty_forgotten marked ran
      ordered (by rw [sameTimes]; exact Nat.lt_of_not_le many) found foundAgain nonce nonceAgain
      others
    have reported := retains _ results first again sameTimes ran found foundAgain
      (nonce.trans nonceAgain.symm) fresh
    rw [freshAgain] at reported
    contradiction
  · intro few calls results first again sameTimes ran found foundAgain same fresh
    subst sameTimes
    exact replay_of_few calls (newReplayFilter_tracks start window) ran ordered few found foundAgain
      same fresh

/-- Checks at one and two have no swap between them, checks at four and ten have two although they
are less than a window apart. -/
theorem retains_early_not_across : (newReplayFilter 0 10).Retains [⟨1, 1⟩, ⟨2, 2⟩] 0 1 ∧
    ¬(newReplayFilter 0 10).Retains [⟨4, 4⟩, ⟨5, 5⟩, ⟨10, 10⟩] 0 2 :=
  ⟨(retains_iff_swapsBetween 0 10 [⟨1, 1⟩, ⟨2, 2⟩] 0 1 (by decide) (by decide)).mpr (by decide),
    fun retains => absurd ((retains_iff_swapsBetween 0 10 [⟨4, 4⟩, ⟨5, 5⟩, ⟨10, 10⟩] 0 2 (by decide)
      (by decide)).mp retains) (by decide)⟩

def forgottenRun : List Call :=
  [(4, 1), (5, 2), (10, 1)].map fun (time, nonce) =>
    { time := ⟨time, time⟩, nonce := nonce, choices := ⟨false, fun _ => ⟨0, by decide⟩⟩ }

/-- A nonce accepted twice, six apart, by a filter whose window is ten. -/
theorem forgotten_within_window :
    (newReplayFilter 0 10).verdicts forgottenRun = some [.fresh, .fresh, .fresh] ∧
      (forgottenRun.map fun call => (call.time.now, call.nonce)) = [(4, 1), (5, 2), (10, 1)] ∧
      (10 : Int) - 4 < (newReplayFilter 0 10).window := by
  decide +kernel

end ReplayFilter

end Shuttle.Crypto
