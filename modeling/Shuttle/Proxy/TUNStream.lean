import Shuttle.Lib.Lists
import Shuttle.Proxy.TUNFlow

/-!
# TCP streams through the TUN inbound

Segments of a conforming sender and what of its stream the proxied connection is written. Sequence
numbers are not looked at, so the connection gets a front part of the stream exactly when every
segment that is forwarded continues it, and the whole stream of segments in order only if the FIN
brings no data.
-/

namespace Shuttle.Proxy

open Shuttle.Go Shuttle.Lib List TUNServer

/-- A segment that a conforming sender emits behind the SYN, for a stream from the sequence number
after `isn` on. -/
structure Segment (key : NatKey) (isn : UInt32) (stream : List UInt8) where
  tcpData : List UInt8
  /-- Where its payload starts in the stream. -/
  offset : Nat
  header : 20 ≤ tcpDataOff tcpData ∧ tcpDataOff tcpData ≤ tcpData.length
  ports : word16 tcpData 0 = key.srcPort ∧ word16 tcpData 2 = key.dstPort
  sequence : word32 tcpData 4 = isn + 1 + UInt32.ofNat offset
  slice : tcpPayload tcpData = (stream.drop offset).take (tcpPayload tcpData).length
  inside : offset + (tcpPayload tcpData).length ≤ stream.length
  behindSYN : tcpFlags tcpData &&& tcpFlagSYN = 0
  last : tcpFlags tcpData &&& tcpFlagFIN ≠ 0 → offset + (tcpPayload tcpData).length = stream.length

namespace Segment

variable {key : NatKey} {isn : UInt32} {stream : List UInt8}

variable (segments : List (Segment key isn stream)) (segment : Segment key isn stream)

def payload : List UInt8 := tcpPayload segment.tcpData

def Closes : Prop :=
  tcpFlags segment.tcpData &&& tcpFlagFIN ≠ 0

instance : DecidablePred (@Closes key isn stream) := fun segment =>
  inferInstanceAs (Decidable (tcpFlags segment.tcpData &&& tcpFlagFIN ≠ 0))

/-- The segments up to the first that ends the flow. -/
def live : List (Segment key isn stream) :=
  segments.takeWhile fun segment => ¬TearsDown segment.tcpData

/-- Every segment up to the first that ends the flow carries what the stream has at the place
reached so far. -/
def Continues : Prop :=
  ∀ before segment after, live segments = before ++ segment :: after →
    (stream.drop (before.flatMap payload).length).take segment.payload.length =
      (stream.drop segment.offset).take segment.payload.length

/-- The segments arrive in order from a place of the stream on, each once, and the last one closes
it. -/
def InOrder : Nat → List (Segment key isn stream) → Prop
  | _, [] => False
  | position, segment :: rest =>
    segment.offset = position ∧
      (segment.Closes ∧ rest = [] ∨
        ¬TearsDown segment.tcpData ∧ InOrder (position + segment.payload.length) rest)

theorem forwarded_eq (segments : List (Segment key isn stream)) :
    forwarded (segments.map tcpData) = (live segments).flatMap payload := by
  induction segments with
  | nil => rfl
  | cons segment segments ih =>
    rw [map_cons, live]
    by_cases ends : TearsDown segment.tcpData
    · rw [forwarded_ends ends, takeWhile_cons_of_neg (by simpa using ends)]
      rfl
    · rw [forwarded_goesOn ends, takeWhile_cons_of_pos (by simpa using ends), ih]
      rfl

end Segment

namespace Segment

variable {key : NatKey} {isn : UInt32} {stream : List UInt8}

variable (segments : List (Segment key isn stream))

theorem live_prefix_iff : (live segments).flatMap payload <+: stream ↔ Continues segments := by
  rw [flatMap_def, flatten_prefix_iff]
  constructor
  · intro all before segment after split
    have here := all (before.map payload) segment.payload (after.map payload) (by
      rw [split, map_append, map_cons])
    rw [flatMap_def, here]
    exact segment.slice
  · intro all before piece after split
    have ⟨front, back, segmentsSplit, frontEq, backEq⟩ := map_eq_append_iff.mp split
    have ⟨segment, rest, backSplit, pieceEq, _⟩ := map_eq_cons_iff.mp backEq
    rw [backSplit] at segmentsSplit
    have here := all front segment rest segmentsSplit
    rw [flatMap_def, frontEq, pieceEq] at here
    rw [here, ← pieceEq]
    exact segment.slice.symm

theorem InOrder.flatMap_payload :
    ∀ {position : Nat}, InOrder position segments →
      segments.flatMap payload = stream.drop position := by
  induction segments with
  | nil => exact fun none => absurd none id
  | cons segment segments ih =>
    intro position ⟨place, rest⟩
    rw [flatMap_cons, payload, segment.slice, place]
    rcases rest with ⟨closes, last⟩ | ⟨_, later⟩
    · have whole := segment.last closes
      rw [last, flatMap_nil, append_nil, take_of_length_le]
      rw [length_drop]
      omega
    · rw [ih later, payload, ← drop_drop, take_append_drop]

theorem InOrder.forwarded_iff :
    ∀ {position : Nat} (count : Nat), InOrder position segments →
      (forwarded ((segments.take count).map tcpData) = stream.drop position ↔
        (∀ segment ∈ segments, segment.Closes → segment.payload = []) ∧
          ∀ segment ∈ segments.drop count, segment.payload = []) := by
  induction segments with
  | nil => exact fun _ none => absurd none id
  | cons segment segments ih =>
    intro position count ordered
    have all := ordered.flatMap_payload
    rw [← all]
    cases count with
    | zero =>
      rw [take_zero, map_nil, forwarded_nil, eq_comm, flatMap_eq_nil_iff]
      exact ⟨fun empty => ⟨fun other member _ => empty other member, empty⟩, And.right⟩
    | succ count =>
      have ⟨_, rest⟩ := ordered
      rw [take_succ_cons, map_cons, drop_succ_cons]
      rcases rest with ⟨closes, last⟩ | ⟨goesOn, later⟩
      · have ends : TearsDown segment.tcpData := .inr closes
        rw [forwarded_ends ends, last, drop_nil, flatMap_singleton, eq_comm]
        constructor
        · intro empty
          refine ⟨fun other member _ => ?_, nofun⟩
          rw [mem_singleton.mp member, empty]
        · intro ⟨empty, _⟩
          exact empty segment (mem_singleton_self _) closes
      · have open' : ¬segment.Closes := fun closes => goesOn (.inr closes)
        rw [forwarded_goesOn goesOn, flatMap_cons, payload, append_cancel_left_eq,
          later.flatMap_payload, ih count later, forall_mem_cons]
        simp only [open', false_implies, true_and]

end Segment

/-- The connection is written a front part of the client's stream, and all of it if the segments
come in order up to a FIN, exactly when every segment that is forwarded continues the stream and, in
order, neither the FIN nor a segment behind the end of the connection's entry brings data. -/
theorem TUNServer.written_faithful_iff_segments_continue (config : TUNConfig) (key : NatKey)
    (isn : UInt32) (stream : List UInt8) (segments : List (Segment key isn stream))
    (earlier events : List TUNEvent) (server final : TUNServer) (conn : Nat)
    (reached : (machine config).run (start config) earlier = some server)
    (opened : server.closed = false) (entered : server.connOf key = some conn)
    (unwritten : server.writtenTo conn = [])
    (carried : events.filterMap (flowData config key) = segments.map Segment.tcpData)
    (delivers : ∀ event ∈ events, Delivers config key event)
    (ran : (machine config).run server events = some final) :
    (final.writtenTo conn <+: stream ∧
        (Segment.InOrder 0 segments → final.writtenTo conn = stream)) ↔
      Segment.Continues (segments.take (served config key conn server events).length) ∧
        (Segment.InOrder 0 segments →
          (∀ segment ∈ segments, segment.Closes → segment.payload = []) ∧
            ∀ segment ∈ segments.drop (served config key conn server events).length,
              segment.payload = []) := by
  have fresh : (start config).Owned := by
    intro other number found
    cases found
  have owned : server.Owned :=
    Machine.run_invariant Owned (fun owned stepped => owned.step stepped) earlier fresh reached
  have held : server.recordOf conn = some (key, []) := by
    have ⟨record, found, owner⟩ := Option.map_eq_some_iff.mp (owned key conn entered)
    rw [writtenTo, found] at unwritten
    rw [found, ← owner]
    exact congrArg (fun written => some (record.1, written)) unwritten
  have plain : ∀ tcpData ∈ events.filterMap (flowData config key),
      tcpFlags tcpData &&& tcpFlagSYN = 0 := by
    rw [carried]
    exact forall_mem_map.mpr fun segment _ => segment.behindSYN
  have result := run_forwards events owned (fun _ => opened) delivers plain held ran
  have front : served config key conn server events =
      (segments.take (served config key conn server events).length).map Segment.tcpData := by
    rw [map_take, ← carried]
    exact prefix_iff_eq_take.mp (served_front events server)
  have written : final.writtenTo conn = forwarded
      ((segments.take (served config key conn server events).length).map Segment.tcpData) := by
    rw [writtenTo, result, ← front]
    rfl
  rw [written, ← Segment.live_prefix_iff, ← Segment.forwarded_eq]
  refine and_congr_right fun _ => forall_congr' fun ordered => ?_
  exact ordered.forwarded_iff segments (served config key conn server events).length

namespace TUNServer

def sampleKey : NatKey := ⟨.v4 0x0a000002, .v4 0x0a000001, 1000, 80⟩

def sampleSegment (sequence : Nat) (flags : UInt8) (payload : List UInt8) : List UInt8 :=
  [0x03, 0xe8, 0, 80] ++ beBytes 4 sequence ++
    [0, 0, 0, 0, 0x50, flags, 0xff, 0xff, 0, 0, 0, 0] ++ payload

def sampleRead (tcpData : List UInt8) : TUNEvent :=
  .packet ([0x45, 0] ++ beBytes 2 (20 + tcpData.length) ++
    [0, 0, 0, 0, 64, 6, 0, 0, 10, 0, 0, 2, 10, 0, 0, 1] ++ tcpData) none

def sampleConfig : TUNConfig := ⟨1500, none⟩

def sampleDial : List TUNEvent := [sampleRead (sampleSegment 0 tcpFlagSYN []), .tcpDialed 0 true]

def sampleServer : TUNServer :=
  ((machine sampleConfig).run (start sampleConfig) sampleDial).get (by decide +kernel)

def sampleData : Segment sampleKey 0 (lit "hi") := by
  refine ⟨sampleSegment 1 tcpFlagACK (lit "hi"), 0, ?_, ?_, ?_, ?_, ?_, ?_, ?_⟩ <;> decide +kernel

def sampleFIN : Segment sampleKey 0 (lit "hi") := by
  refine ⟨sampleSegment 3 (tcpFlagFIN ||| tcpFlagACK) [], 2, ?_, ?_, ?_, ?_, ?_,
    ?_, ?_⟩ <;> decide +kernel

def sampleLast : Segment sampleKey 0 (lit "hi") := by
  refine ⟨sampleSegment 1 (tcpFlagFIN ||| tcpFlagACK) (lit "hi"), 0, ?_, ?_, ?_, ?_, ?_,
    ?_, ?_⟩ <;> decide +kernel

theorem sampleData_inOrder : Segment.InOrder 0 [sampleData, sampleFIN] :=
  ⟨rfl, .inr ⟨by decide +kernel, rfl, .inl ⟨by decide +kernel, rfl⟩⟩⟩

/-- A stream that comes in order with a FIN of its own is forwarded. -/
theorem sample_stream_forwarded :
    ∃ final, (machine sampleConfig).run sampleServer
        [sampleRead sampleData.tcpData, sampleRead sampleFIN.tcpData] = some final ∧
      Segment.InOrder 0 [sampleData, sampleFIN] ∧
      (final.writtenTo 0 <+: lit "hi" ∧
        (Segment.InOrder 0 [sampleData, sampleFIN] → final.writtenTo 0 = lit "hi")) := by
  have possible : ((machine sampleConfig).run sampleServer
      [sampleRead sampleData.tcpData, sampleRead sampleFIN.tcpData]).isSome := by decide +kernel
  refine ⟨_, (Option.some_get possible).symm, sampleData_inOrder, ?_⟩
  refine (written_faithful_iff_segments_continue sampleConfig sampleKey 0 (lit "hi")
    [sampleData, sampleFIN] sampleDial
    [sampleRead sampleData.tcpData, sampleRead sampleFIN.tcpData] sampleServer _ 0
    (Option.some_get _).symm (by decide +kernel) (by decide +kernel) (by decide +kernel)
    (by decide +kernel) (by decide +kernel) (Option.some_get possible).symm).mpr ⟨?_, fun _ => ?_⟩
  · exact (Segment.live_prefix_iff _).mp (by decide +kernel)
  · decide +kernel

/-- A segment that comes twice is written twice; data that comes with the FIN is not written; and
nothing is written of a stream whose entry a clean-up has removed before its first segment. -/
theorem sample_stream_garbled :
    ((machine sampleConfig).run (start sampleConfig)
        (sampleDial ++ [sampleRead sampleData.tcpData, sampleRead sampleData.tcpData])).map
          (fun final => final.writtenTo 0) = some (lit "hihi") ∧
      ¬lit "hihi" <+: lit "hi" ∧
      Segment.InOrder 0 [sampleLast] ∧
      ((machine sampleConfig).run (start sampleConfig)
        (sampleDial ++ [sampleRead sampleLast.tcpData])).map
          (fun final => final.writtenTo 0) = some [] ∧
      Segment.InOrder 0 [sampleData, sampleFIN] ∧
      ((machine sampleConfig).run (start sampleConfig)
        (sampleDial ++ [.elapse (maxAge + 1), .cleanup, sampleRead sampleData.tcpData,
          sampleRead sampleFIN.tcpData])).map
          (fun final => final.writtenTo 0) = some [] := by
  refine ⟨by decide +kernel, by decide +kernel, ⟨rfl, .inl ⟨by decide +kernel, rfl⟩⟩,
    by decide +kernel, sampleData_inOrder, by decide +kernel⟩

end TUNServer

end Shuttle.Proxy
