import Shuttle.Go.Text
import Shuttle.Lib.Lists
import Shuttle.Lib.Machine
import Mathlib.Data.List.FinRange
import Mathlib.Data.List.Nodup

/-!
# The stream tracker

`stream/tracker.go` keeps the last streams in a ring and finds them by ID in an index. `Active`,
`Summary` and `ByTransport` loop over the index, `Recent` walks the ring. A stream is told from
others by the number of its `Track` call, since several connections number their streams alike. What
the loops read of a stream is a parameter, as streams go on while they are tracked.
-/

namespace Shuttle.Stream

open Shuttle.Go Shuttle.Lib List

structure StreamMetrics where
  /-- Number of the call that made it. -/
  call : Nat
  streamID : UInt64
  deriving DecidableEq

structure StreamTracker where
  ring : Nat → Option StreamMetrics
  size : Nat
  head : Nat
  n : Nat
  index : GoMap UInt64 StreamMetrics

namespace StreamTracker

def newStreamTracker (size : Int) : StreamTracker :=
  ⟨fun _ => none, if size ≤ 0 then 1000 else size.toNat, 0, 0, .empty⟩

def track (t : StreamTracker) (id : UInt64) : StreamTracker :=
  let m : StreamMetrics := ⟨t.n, id⟩
  let index := match t.ring t.head with
    | some old => t.index.delete old.streamID
    | none => t.index
  { t with
    ring := Function.update t.ring t.head (some m)
    index := index.set id m
    head := (t.head + 1) % t.size
    n := t.n + 1 }

/-- The loop of `Recent`. -/
def walk (t : StreamTracker) : Nat → Nat → List StreamMetrics
  | 0, _ => []
  | n + 1, pos => (t.ring pos).toList ++ t.walk n ((pos + t.size - 1) % t.size)

def recent (t : StreamTracker) (n : Nat) : List StreamMetrics :=
  t.walk (min n (min t.n t.size)) ((t.head + t.size - 1) % t.size)

/-! ## Loops over the index -/

/-- What a loop reads of a stream; all but the transport changes while the stream is used. -/
structure Reading where
  transport : GoString
  closed : Bool
  bytesSent : Int64
  bytesReceived : Int64
  duration : Int64
  priority : Int32

structure PriorityDistribution where
  critical : Int64 := 0
  high : Int64 := 0
  normal : Int64 := 0
  bulk : Int64 := 0
  low : Int64 := 0

def addToPriorityDist (d : PriorityDistribution) (priority : Int32) : PriorityDistribution :=
  if priority = 0 then { d with critical := d.critical + 1 }
  else if priority = 1 then { d with high := d.high + 1 }
  else if priority = 2 then { d with normal := d.normal + 1 }
  else if priority = 3 then { d with bulk := d.bulk + 1 }
  else if priority = 4 then { d with low := d.low + 1 }
  else { d with normal := d.normal + 1 }

/-- `TransportStats`, whose transport is the key of its group. -/
structure TransportStats where
  activeStreams : Int64 := 0
  totalStreams : Int64 := 0
  bytesSent : Int64 := 0
  bytesRecv : Int64 := 0
  priorities : PriorityDistribution := {}

structure StreamSummary where
  totalStreams : Int64 := 0
  activeStreams : Int64 := 0
  totalBytesSent : Int64 := 0
  totalBytesRecv : Int64 := 0
  avgDuration : Int64 := 0
  priorities : PriorityDistribution := {}

/-- The streams of the index in the order of a loop over it. -/
structure Order (t : StreamTracker) where
  entries : List (UInt64 × StreamMetrics)
  once : (entries.map Prod.fst).Nodup
  listed : ∀ id m, (id, m) ∈ entries ↔ t.index id = some m

def Order.streams {t : StreamTracker} (order : Order t) : List StreamMetrics :=
  order.entries.map Prod.snd

section Loops

variable (read : StreamMetrics → Reading)

def active (streams : List StreamMetrics) : List StreamMetrics :=
  streams.filter fun m => !(read m).closed

def TransportStats.add (ts : TransportStats) (m : Reading) : TransportStats where
  totalStreams := ts.totalStreams + 1
  activeStreams := if m.closed then ts.activeStreams else ts.activeStreams + 1
  bytesSent := ts.bytesSent + m.bytesSent
  bytesRecv := ts.bytesRecv + m.bytesReceived
  priorities := addToPriorityDist ts.priorities m.priority

/-- The groups of `ByTransport`, which returns them in any order. -/
def byTransport (streams : List StreamMetrics) : GoMap GoString TransportStats :=
  streams.foldl (fun groups m =>
    let ts := (groups (read m).transport).getD {}
    groups.set (read m).transport (ts.add (read m))) .empty

/-- One round of `Summary`, with `closedCount` and `totalDur`. -/
def StreamSummary.add (state : StreamSummary × Int64 × Int64) (m : Reading) :
    StreamSummary × Int64 × Int64 :=
  let (s, closedCount, totalDur) := state
  let s := { s with
    totalStreams := s.totalStreams + 1
    totalBytesSent := s.totalBytesSent + m.bytesSent
    totalBytesRecv := s.totalBytesRecv + m.bytesReceived
    priorities := addToPriorityDist s.priorities m.priority }
  if m.closed then (s, closedCount + 1, totalDur + m.duration)
  else ({ s with activeStreams := s.activeStreams + 1 }, closedCount, totalDur)

def summary (streams : List StreamMetrics) : StreamSummary :=
  let (s, closedCount, totalDur) :=
    streams.foldl (fun state m => StreamSummary.add state (read m)) ({}, 0, 0)
  if 0 < closedCount then { s with avgDuration := totalDur / closedCount } else s

theorem int64_right_comm (a b c : Int64) : a + b + c = a + c + b := by
  rw [Int64.add_assoc, Int64.add_comm b, Int64.add_assoc]

theorem addToPriorityDist_eq (priority : Int32) : ∃ a b c e f : Int64, ∀ d,
    addToPriorityDist d priority =
      ⟨d.critical + a, d.high + b, d.normal + c, d.bulk + e, d.low + f⟩ := by
  unfold addToPriorityDist
  split_ifs
  · exact ⟨1, 0, 0, 0, 0, fun d => by simp⟩
  · exact ⟨0, 1, 0, 0, 0, fun d => by simp⟩
  · exact ⟨0, 0, 1, 0, 0, fun d => by simp⟩
  · exact ⟨0, 0, 0, 1, 0, fun d => by simp⟩
  · exact ⟨0, 0, 0, 0, 1, fun d => by simp⟩
  · exact ⟨0, 0, 1, 0, 0, fun d => by simp⟩

theorem addToPriorityDist_comm (d : PriorityDistribution) (left right : Int32) :
    addToPriorityDist (addToPriorityDist d left) right =
      addToPriorityDist (addToPriorityDist d right) left := by
  have ⟨_, _, _, _, _, adds⟩ := addToPriorityDist_eq left
  have ⟨_, _, _, _, _, also⟩ := addToPriorityDist_eq right
  rw [adds, also, also, adds]
  simp only [int64_right_comm]

theorem TransportStats.add_comm (ts : TransportStats) (left right : Reading) :
    (ts.add left).add right = (ts.add right).add left := by
  unfold TransportStats.add
  rw [addToPriorityDist_comm]
  cases left.closed <;> cases right.closed <;> simp [int64_right_comm]

theorem StreamSummary.add_comm (state : StreamSummary × Int64 × Int64) (left right : Reading) :
    StreamSummary.add (StreamSummary.add state left) right =
      StreamSummary.add (StreamSummary.add state right) left := by
  unfold StreamSummary.add
  cases left.closed <;> cases right.closed <;>
    simp [addToPriorityDist_comm state.1.priorities left.priority, int64_right_comm]

variable {read} {streams others : List StreamMetrics} (shuffled : streams.Perm others)

include shuffled

theorem summary_perm : summary read streams = summary read others := by
  unfold summary
  rw [shuffled.foldl_eq' fun left _ right _ state => StreamSummary.add_comm state _ _]

theorem byTransport_perm : byTransport read streams = byTransport read others := by
  refine shuffled.foldl_eq' (fun left _ right _ groups => ?_) _
  by_cases same : (read left).transport = (read right).transport
  · simp only [same, GoMap.set, Function.update_self, Option.getD_some, Function.update_idem,
      TransportStats.add_comm]
  · simp only [GoMap.set, Function.update_of_ne same, Function.update_of_ne (Ne.symm same)]
    exact Function.update_comm same _ _ _

end Loops

/-! ## What the ring and the index hold -/

def newest (ids : List UInt64) (last : Nat) : List StreamMetrics :=
  (List.range last).filterMap fun back =>
    (ids[ids.length - 1 - back]?).map (⟨ids.length - 1 - back, ·⟩)

/-- `Active`, `Summary` and `ByTransport` are about these streams, each once, in whatever order the
loops run and whatever they read. -/
def Aggregates (t : StreamTracker) (streams : List StreamMetrics) : Prop :=
  ∀ (order : Order t) (read : StreamMetrics → Reading),
    (active read order.streams).Perm (active read streams) ∧
      summary read order.streams = summary read streams ∧
      byTransport read order.streams = byTransport read streams

/-- The index holds the last streams and no others, each under its ID. -/
def Covers (t : StreamTracker) (ids : List UInt64) : Prop :=
  ∀ id m, t.index id = some m ↔ m ∈ newest ids (min ids.length t.size) ∧ m.streamID = id

variable {t : StreamTracker} {ids : List UInt64} {id : UInt64} {k : Nat} {m : StreamMetrics}

theorem mem_newest {capacity : Nat} : m ∈ newest ids (min ids.length capacity) ↔
    ids[m.call]? = some m.streamID ∧ ids.length ≤ m.call + capacity := by
  simp only [newest, mem_filterMap, mem_range, Option.map_eq_some_iff]
  constructor
  · rintro ⟨back, inside, id, found, rfl⟩
    refine ⟨found, ?_⟩
    dsimp only
    omega
  · rintro ⟨found, recent⟩
    have := (List.getElem?_eq_some_iff.mp found).1
    refine ⟨ids.length - 1 - m.call, by omega, m.streamID, ?_⟩
    rw [show ids.length - 1 - (ids.length - 1 - m.call) = m.call by omega]
    exact ⟨found, rfl⟩

/-- The ring has the last streams in the slots that their numbers give. -/
structure Holds (t : StreamTracker) (ids : List UInt64) : Prop where
  positive : 0 < t.size
  count : t.n = ids.length
  head : t.head = ids.length % t.size
  kept : ∀ {k id}, ids[k]? = some id → ids.length ≤ k + t.size → t.ring (k % t.size) = some ⟨k, id⟩
  unused : ∀ {slot}, slot < t.size → ids.length ≤ slot → t.ring slot = none
  keyed : ∀ {id m}, t.index id = some m → m.streamID = id

theorem newest_nodup {last : Nat} (few : last ≤ ids.length) : (newest ids last).Nodup := by
  refine List.pairwise_filterMap.mpr (List.pairwise_lt_range.imp_of_mem ?_)
  intro near far isNear isFar less m made other also same
  have ⟨_, _, first⟩ := Option.map_eq_some_iff.mp made
  have ⟨_, _, second⟩ := Option.map_eq_some_iff.mp also
  rw [mem_range] at isFar
  have calls := congrArg StreamMetrics.call (first.trans (same.trans second.symm))
  dsimp only at calls
  omega

/-- An order in which a loop can run. -/
def Order.all (t : StreamTracker) : Order t where
  entries := ((List.finRange UInt64.size).map UInt64.ofFin).filterMap fun id =>
    (t.index id).map (id, ·)
  once := by
    have distinct : ((List.finRange UInt64.size).map UInt64.ofFin).Nodup :=
      List.Nodup.map (fun _ _ same => congrArg UInt64.toFin same) (List.nodup_finRange _)
    rw [List.Nodup, List.pairwise_map, List.pairwise_filterMap]
    refine distinct.imp fun apart entry made other also same => apart ?_
    have ⟨_, _, first⟩ := Option.map_eq_some_iff.mp made
    have ⟨_, _, second⟩ := Option.map_eq_some_iff.mp also
    rw [← first, ← second] at same
    exact same
  listed id m := by
    rw [mem_filterMap]
    constructor
    · rintro ⟨other, _, made⟩
      have ⟨held, found, same⟩ := Option.map_eq_some_iff.mp made
      cases same
      exact found
    · intro found
      refine ⟨id, mem_map.mpr ⟨id.toFin, List.mem_finRange _, rfl⟩, ?_⟩
      rw [found]
      rfl

/-- A loop runs over the last streams exactly if the index holds them. -/
theorem Order.perm_iff (keyed : ∀ {id m}, t.index id = some m → m.streamID = id)
    (order : Order t) :
    order.streams.Perm (newest ids (min ids.length t.size)) ↔ t.Covers ids := by
  have member (m : StreamMetrics) : m ∈ order.streams ↔ t.index m.streamID = some m := by
    simp only [streams, mem_map, Prod.exists, exists_eq_right, order.listed]
    exact ⟨fun ⟨id, found⟩ => keyed found ▸ found, fun found => ⟨_, found⟩⟩
  have once : order.streams.Nodup := by
    have ids : order.streams.map StreamMetrics.streamID = order.entries.map Prod.fst := by
      rw [streams, map_map]
      exact map_congr_left fun entry listed => keyed ((order.listed _ _).mp listed)
    exact List.Nodup.of_map _ (ids ▸ order.once)
  rw [List.perm_ext_iff_of_nodup once (newest_nodup (Nat.min_le_left _ _))]
  constructor
  · intro same id m
    rw [← same, member]
    exact ⟨fun found => ⟨by rw [keyed found, found], keyed found⟩, fun ⟨found, own⟩ => own ▸ found⟩
  · intro covers m
    rw [member, covers, and_iff_left rfl]

theorem aggregates_iff (keyed : ∀ {id m}, t.index id = some m → m.streamID = id) :
    t.Aggregates (newest ids (min ids.length t.size)) ↔ t.Covers ids := by
  constructor
  · intro aggregates
    have ⟨running, _⟩ := aggregates (.all t) fun _ => ⟨[], false, 0, 0, 0, 0⟩
    refine ((Order.all t).perm_iff keyed).mp ?_
    simpa [active] using running
  · intro covers order read
    have shuffled := (order.perm_iff keyed).mpr covers
    exact ⟨shuffled.filter _, summary_perm shuffled, byTransport_perm shuffled⟩

theorem mod_ne {size later : Nat} (less : k < later) (near : later < k + size) :
    k % size ≠ later % size := by
  intro same
  have := Nat.sub_mod_eq_zero_of_mod_eq same.symm
  rw [Nat.mod_eq_of_lt (by omega)] at this
  omega

/-- The slot before that of the next number. -/
theorem mod_back {size : Nat} (positive : 0 < size) (k : Nat) :
    ((k + 1) % size + size - 1) % size = k % size := by
  rw [Nat.add_sub_assoc positive, Nat.mod_add_mod, show k + 1 + (size - 1) = k + size by omega,
    Nat.add_mod_right]

theorem Holds.track (holds : t.Holds ids) (id : UInt64) : (t.track id).Holds (ids ++ [id]) where
  positive := holds.positive
  count := by simp [StreamTracker.track, holds.count]
  head := by simp [StreamTracker.track, holds.head]
  kept {k other} found near := by
    simp only [StreamTracker.track, length_append, length_singleton, holds.head] at near ⊢
    rcases getElem?_append_cases found with ⟨rfl, rfl⟩ | ⟨_, old⟩
    · rw [Function.update_self, holds.count]
    · have inside := (List.getElem?_eq_some_iff.mp old).1
      rw [Function.update_of_ne (mod_ne inside (by omega))]
      exact holds.kept old (by omega)
  unused {slot} inside beyond := by
    simp only [StreamTracker.track, length_append, length_singleton, holds.head] at inside beyond ⊢
    rw [Nat.mod_eq_of_lt (by omega), Function.update_of_ne (by omega)]
    exact holds.unused inside (by omega)
  keyed {other m} found := by
    rcases GoMap.set_eq_some_iff.mp found with ⟨rfl, rfl⟩ | ⟨_, held⟩
    · rfl
    · cases old : t.ring t.head with
      | none =>
        rw [old] at held
        exact holds.keyed held
      | some old =>
        simp only [‹t.ring t.head = _›] at held
        exact holds.keyed (GoMap.delete_eq_some_iff.mp held).2

theorem Holds.walk (holds : t.Holds ids) (last : Nat) : ∀ {first : Nat}, last ≤ first + 1 →
    first < ids.length → ids.length + last ≤ first + 1 + t.size →
    t.walk last (first % t.size) =
      (List.range last).filterMap fun back => (ids[first - back]?).map (⟨first - back, ·⟩) := by
  induction last with
  | zero => exact fun _ _ _ => rfl
  | succ last ih =>
    intro first long inside near
    rw [StreamTracker.walk, holds.kept (List.getElem?_eq_getElem inside) (by omega),
      range_succ_eq_map, filterMap_cons, Nat.sub_zero, List.getElem?_eq_getElem inside]
    refine congrArg (_ :: ·) ?_
    cases first with
    | zero =>
      obtain rfl : last = 0 := by omega
      rfl
    | succ first =>
      rw [mod_back holds.positive, ih (by omega) (by omega) (by omega), filterMap_map]
      simp

theorem Holds.recent (holds : t.Holds ids) (n : Nat) :
    t.recent n = newest ids (min n (min ids.length t.size)) := by
  rw [StreamTracker.recent, holds.count, holds.head, newest]
  cases size : ids.length with
  | zero => simp [StreamTracker.walk]
  | succ before =>
    rw [mod_back holds.positive, holds.walk _ (by omega) (by omega) (by omega)]
    rfl

/-- `Track` makes room by the ID of the stream it overwrites. -/
theorem Covers.evicted (holds : t.Holds ids) (covers : t.Covers ids) (other : UInt64) :
    (match t.ring t.head with
      | some old => t.index.delete old.streamID
      | none => t.index) other = some m ↔
      (ids[m.call]? = some m.streamID ∧ ids.length + 1 ≤ m.call + t.size) ∧ m.streamID = other := by
  have positive := holds.positive
  rw [holds.head]
  by_cases full : t.size ≤ ids.length
  · have ⟨old, found⟩ : ∃ old, ids[ids.length - t.size]? = some old :=
      ⟨_, List.getElem?_eq_getElem (by omega)⟩
    have slot := holds.kept found (by omega)
    rw [← Nat.mod_eq_sub_mod full] at slot
    have own := (covers old ⟨ids.length - t.size, old⟩).mpr
      ⟨mem_newest.mpr ⟨found, Nat.sub_le_iff_le_add.mp (Nat.le_refl _)⟩, rfl⟩
    rw [slot, GoMap.delete_eq_some_iff, covers, mem_newest]
    constructor
    · rintro ⟨apart, ⟨here, near⟩, rfl⟩
      refine ⟨⟨here, ?_⟩, rfl⟩
      by_contra oldest
      have same : m.call = ids.length - t.size := by omega
      rw [same] at here
      exact apart (Option.some.inj (here.symm.trans found))
    · rintro ⟨⟨here, near⟩, rfl⟩
      refine ⟨?_, ⟨here, by omega⟩, rfl⟩
      intro same
      have other := (covers old m).mpr ⟨mem_newest.mpr ⟨here, by omega⟩, same⟩
      rw [← Option.some.inj (own.symm.trans other)] at near
      dsimp only at near
      omega
  · have unused := Nat.le_of_eq (Nat.mod_eq_of_lt (Nat.lt_of_not_le full)).symm
    rw [holds.unused (Nat.mod_lt _ positive) unused, covers, mem_newest]
    simp only [show ids.length ≤ m.call + t.size by omega,
      show ids.length + 1 ≤ m.call + t.size by omega]

/-- A stream with the ID of one that stays in the ring. -/
def Repeats (state : StreamTracker × List UInt64) (id : UInt64) : Prop :=
  ∃ k : Nat, state.2[k]? = some id ∧ state.2.length < k + state.1.size

theorem Covers.track_iff (holds : t.Holds ids) (covers : t.Covers ids) :
    (t.track id).Covers (ids ++ [id]) ↔ ¬Repeats (t, ids) id := by
  have positive := holds.positive
  have size : (t.track id).size = t.size := rfl
  constructor
  · rintro both ⟨k, found, near⟩
    have inside := (List.getElem?_eq_some_iff.mp found).1
    dsimp only at near inside
    have old := (both id ⟨k, id⟩).mpr ⟨mem_newest.mpr
      ⟨by simpa [List.getElem?_append_left inside] using found, by simp [size]; omega⟩, rfl⟩
    have new := (both id ⟨ids.length, id⟩).mpr
      ⟨mem_newest.mpr ⟨by simp, by simp [size]; omega⟩, rfl⟩
    cases old.symm.trans new
    omega
  · intro fresh other m
    rw [mem_newest]
    show GoMap.set _ id ⟨t.n, id⟩ other = some m ↔ _
    rw [GoMap.set_eq_some_iff, covers.evicted holds, holds.count, size, length_append,
      length_singleton]
    constructor
    · rintro (⟨rfl, rfl⟩ | ⟨_, ⟨here, near⟩, rfl⟩)
      · simp
        omega
      · have inside := (List.getElem?_eq_some_iff.mp here).1
        exact ⟨⟨by rw [List.getElem?_append_left inside, here], near⟩, rfl⟩
    · rintro ⟨⟨here, near⟩, rfl⟩
      rcases getElem?_append_cases here with ⟨last, own⟩ | ⟨_, old⟩
      · exact .inl ⟨own, by rw [← last, ← own]⟩
      · refine .inr ⟨fun same => fresh ⟨m.call, same ▸ old, ?_⟩, ⟨old, near⟩, rfl⟩
        exact near

def machine : Machine (StreamTracker × List UInt64) UInt64 :=
  ⟨fun state id => some (state.1.track id, state.2 ++ [id])⟩

/-- In every run `Recent` returns the last streams, newest first. `Active`, `Summary` and
`ByTransport` are about just these as long as no stream has the ID of one that stays in the ring,
and no longer. -/
theorem aggregates_iff_never_repeats (size : Int) (ids : List UInt64) :
    machine.Always (fun state => ∀ n, state.1.recent n =
        newest state.2 (min n (min state.2.length state.1.size))) (newStreamTracker size, []) ids ∧
      (machine.Always (fun state => state.1.Aggregates
          (newest state.2 (min state.2.length state.1.size))) (newStreamTracker size, []) ids ↔
        machine.Never Repeats (newStreamTracker size, []) ids) := by
  have start : (newStreamTracker size).Holds [] := by
    refine ⟨?_, rfl, by simp [newStreamTracker], nofun, fun _ _ => rfl, nofun⟩
    simp only [newStreamTracker]
    split <;> omega
  have kept {state next : StreamTracker × List UInt64} {id} (holds : state.1.Holds state.2)
      (stepped : machine.step state id = some next) : next.1.Holds next.2 := by
    cases stepped
    exact holds.track id
  constructor
  · intro before after reached _ ran
    have holds := Machine.run_invariant (fun state : StreamTracker × List UInt64 =>
      state.1.Holds state.2) kept before start ran
    exact holds.recent
  · refine Machine.always_iff_never (fun state => state.1.Holds state.2)
      (fun holds aggregates stepped => ?_) ids start ((aggregates_iff start.keyed).mpr ?_)
    · cases stepped
      have covers := (aggregates_iff holds.keyed).mp aggregates
      exact ⟨holds.track _, (aggregates_iff (holds.track _).keyed).trans (covers.track_iff holds)⟩
    · intro id m
      simp [newStreamTracker, newest, GoMap.empty]

/-- Two streams of the same ID: the loops see only the second. -/
theorem equal_ids_hide :
    let t := ((newStreamTracker 2).track 1).track 1
    ∃ order : Order t, (∀ read, (summary read order.streams).totalStreams = 1 ∧
        ⟨0, 1⟩ ∉ active read order.streams) ∧ t.recent 2 = [⟨1, 1⟩, ⟨0, 1⟩] := by
  refine ⟨⟨[(1, ⟨1, 1⟩)], List.nodup_singleton _, fun id m => ?_⟩, fun read => ⟨?_, ?_⟩, by decide⟩
  · rw [mem_singleton, Prod.mk.injEq, track, GoMap.set_eq_some_iff]
    constructor
    · rintro ⟨rfl, rfl⟩
      exact .inl ⟨rfl, rfl⟩
    · rintro (⟨rfl, rfl⟩ | ⟨apart, held⟩)
      · exact ⟨rfl, rfl⟩
      · rcases GoMap.set_eq_some_iff.mp held with ⟨one, _⟩ | ⟨_, empty⟩
        · exact absurd one apart
        · cases empty
  · show (summary read [⟨1, 1⟩]).totalStreams = 1
    simp only [summary, foldl_cons, foldl_nil, StreamSummary.add]
    split <;> split <;> rfl
  · exact fun listed => absurd (mem_of_mem_filter listed) (by decide)

end StreamTracker

end Shuttle.Stream
