import Shuttle.Go.Net
import Shuttle.Lib.Frames

/-!
# Framing on the mesh stream

The client gives one stream to two writers with separate locks. Packets are written as a length and
the packet, signaling messages without a length in front; the server reads length-prefixed frames
only. Every call of `Write` is one step, so a message can fall between a packet's length and the
packet.
-/

namespace Shuttle.Mesh

open Shuttle.Go Shuttle.Lib List

def maxFrameSize : Nat := 65535

def frameHeaderSize : Nat := 2

def writeFrame (payload : List UInt8) : Except Unit (List (List UInt8)) :=
  if maxFrameSize < payload.length then .error ()
  else .ok [beBytes frameHeaderSize payload.length, payload]

/-- Read one frame; a zero length is an error. -/
def readFrame (bytes : List UInt8) : Except Frames.FrameError (List UInt8 × List UInt8) :=
  Frames.decodeOne frameHeaderSize (fun length => length ≠ 0) bytes

/-- The payloads the server's loop hands on: frames are read until the first error. -/
def handleMeshStream (bytes : List UInt8) : List (List UInt8) :=
  Frames.decodeAll frameHeaderSize (fun length => length ≠ 0) bytes.length bytes

structure Message where
  type : UInt8
  srcVIP : IP
  dstVIP : IP
  payload : List UInt8

/-- Type, both addresses, the payload's length and the payload; an address without a four-byte form
is zero. -/
def Message.encode (message : Message) : List UInt8 :=
  message.type :: ((to4 message.srcVIP).getD [0, 0, 0, 0] ++
    (to4 message.dstVIP).getD [0, 0, 0, 0] ++
    beBytes 2 (message.payload.length % 2 ^ 16) ++ message.payload)

inductive StreamWrite where
  | header (packet : List UInt8)
  | body (packet : List UInt8)
  | signal (message : Message)

namespace StreamWrite

def bytes : StreamWrite → List UInt8
  | header packet => beBytes frameHeaderSize packet.length
  | body packet => packet
  | signal message => message.encode

def payload : StreamWrite → Option (List UInt8)
  | header _ => none
  | body packet => some packet
  | signal message => some message.encode

end StreamWrite

/-- The writes of `sendViaRelay`, in order under the client's lock. -/
def sendViaRelay (packet : List UInt8) : List StreamWrite :=
  if maxFrameSize < packet.length then [] else [.header packet, .body packet]

/-- The write of `signal.Client.send`, under the signal client's own lock. -/
def signalSend (message : Message) : List StreamWrite := [.signal message]

variable (writes : List StreamWrite)

def streamBytes : List UInt8 := writes.flatMap StreamWrite.bytes

def payloads : List (List UInt8) :=
  writes.filterMap StreamWrite.payload

/-! ## Byte counts -/

/-- Bytes that the frame of a completed payload would occupy. -/
def framedSize (write : StreamWrite) : Nat :=
  match write.payload with
  | none => 0
  | some payload => frameHeaderSize + payload.length

theorem sum_framedSize :
    ((payloads writes).map fun payload => frameHeaderSize + payload.length).sum =
      (writes.map framedSize).sum := by
  induction writes with
  | nil => rfl
  | cons write writes ih =>
    unfold payloads at ih ⊢
    cases completed : write.payload with
    | none =>
      have none : framedSize write = 0 := by
        unfold framedSize
        rw [completed]
      rw [filterMap_cons_none completed, map_cons, sum_cons, none, Nat.zero_add, ih]
    | some payload =>
      have size : framedSize write = frameHeaderSize + payload.length := by
        unfold framedSize
        rw [completed]
      rw [filterMap_cons_some completed, map_cons, sum_cons, map_cons, sum_cons, size, ih]

theorem length_streamBytes :
    (streamBytes writes).length = (writes.map fun write => write.bytes.length).sum := by
  unfold streamBytes
  rw [length_flatMap]

theorem relay_exact (packets : List (List UInt8)) :
    ((packets.flatMap sendViaRelay).map framedSize).sum =
      ((packets.flatMap sendViaRelay).map fun write => write.bytes.length).sum := by
  induction packets with
  | nil => rfl
  | cons packet packets ih =>
    have one : ((sendViaRelay packet).map framedSize).sum =
        ((sendViaRelay packet).map fun write => write.bytes.length).sum := by
      unfold sendViaRelay
      split
      · rfl
      · simp [framedSize, StreamWrite.payload, StreamWrite.bytes]
    rw [flatMap_cons, map_append, map_append, sum_append, sum_append, ih, one]

theorem signal_short (messages : List Message) :
    ((messages.flatMap signalSend).map framedSize).sum =
      ((messages.flatMap signalSend).map fun write => write.bytes.length).sum +
        frameHeaderSize * messages.length := by
  induction messages with
  | nil => rfl
  | cons message messages ih =>
    have one : framedSize (.signal message) =
        (StreamWrite.bytes (.signal message)).length + frameHeaderSize :=
      Nat.add_comm _ _
    rw [flatMap_cons, map_append, map_append, sum_append, sum_append, length_cons]
    simp only [signalSend, map_cons, map_nil, sum_cons]
    rw [Nat.mul_succ]
    omega

/-! ## Agreement -/

theorem relay_frames (packets : List (List UInt8)) :
    streamBytes (packets.flatMap sendViaRelay) =
        (payloads (packets.flatMap sendViaRelay)).flatMap (Frames.encode frameHeaderSize) ∧
      payloads (packets.flatMap sendViaRelay) =
        packets.filter fun packet => packet.length ≤ maxFrameSize := by
  induction packets with
  | nil => exact ⟨rfl, rfl⟩
  | cons packet packets ih =>
    unfold streamBytes payloads at ih ⊢
    rw [flatMap_cons, flatMap_append, filterMap_append, flatMap_append, ih.1]
    by_cases large : maxFrameSize < packet.length
    · have none : sendViaRelay packet = [] := by
        unfold sendViaRelay
        rw [if_pos large]
      rw [none, filter_cons_of_neg (by simpa using large), ← ih.2]
      exact ⟨rfl, rfl⟩
    · have both : sendViaRelay packet = [.header packet, .body packet] := by
        unfold sendViaRelay
        rw [if_neg large]
      have front : [StreamWrite.header packet, .body packet].flatMap StreamWrite.bytes =
          Frames.encode frameHeaderSize packet := by
        simp [StreamWrite.bytes, Frames.encode]
      have completed : [StreamWrite.header packet, .body packet].filterMap StreamWrite.payload =
          [packet] := rfl
      rw [both, filter_cons_of_pos (by simpa using large), ← ih.2, front, completed,
        flatMap_singleton]
      exact ⟨rfl, rfl⟩

/-- For every interleaving the server recovers exactly the payloads written to the shared stream,
exactly when there is no signaling message and every packet is non-empty. -/
theorem recovers_iff_no_signaling (packets : List (List UInt8)) (messages : List Message)
    (writes : List StreamWrite)
    (merged : Frames.Merges (packets.flatMap sendViaRelay) (messages.flatMap signalSend) writes) :
    handleMeshStream (streamBytes writes) = payloads writes ↔
      messages = [] ∧ ∀ packet ∈ packets, packet ≠ [] := by
  constructor
  · intro recovered
    have ⟨accepted, occupied⟩ := Frames.decodeAll_occupies frameHeaderSize
      (fun length => length ≠ 0) (streamBytes writes).length (streamBytes writes)
    unfold handleMeshStream at recovered
    rw [recovered] at accepted occupied
    rw [sum_framedSize, length_streamBytes, merged.sum_map, merged.sum_map, relay_exact,
      signal_short] at occupied
    have none : messages = [] := by
      cases messages with
      | nil => rfl
      | cons message messages =>
        rw [length_cons] at occupied
        unfold frameHeaderSize at occupied
        omega
    refine ⟨none, fun packet member empty => ?_⟩
    subst none
    have alone := merged.eq_left
    have listed : packet ∈ payloads writes := by
      rw [alone, (relay_frames packets).2, mem_filter]
      refine ⟨member, ?_⟩
      rw [empty]
      rfl
    have refused := accepted packet listed
    rw [empty] at refused
    contradiction
  · rintro ⟨none, nonempty⟩
    subst none
    have alone := merged.eq_left
    have ⟨stream, listed⟩ := relay_frames packets
    have sound : ∀ payload ∈ payloads (packets.flatMap sendViaRelay),
        payload.length < 256 ^ frameHeaderSize ∧ decide (payload.length ≠ 0) = true := by
      intro payload member
      rw [listed] at member
      have ⟨sent, small⟩ := mem_filter.mp member
      have bound : payload.length ≤ maxFrameSize := of_decide_eq_true small
      refine ⟨Nat.lt_of_le_of_lt bound (by decide), decide_eq_true ?_⟩
      intro zero
      exact nonempty payload sent (length_eq_zero_iff.mp zero)
    rw [alone, stream]
    exact Frames.decodeAll_encode _ _ sound (Frames.length_le_frames (by decide) _) (by decide)

def pingMessage : Message := ⟨0x07, [10, 7, 0, 2], [10, 7, 0, 3], []⟩

/-- The law on both sides: two packets are recovered, a packet and a message are not, also when
the message comes last. -/
theorem recovers_packets_not_signaling :
    handleMeshStream (streamBytes [.header [0x45], .body [0x45], .header [0x46], .body [0x46]]) =
        [[0x45], [0x46]] ∧
      handleMeshStream (streamBytes [.header [0x45], .body [0x45], .signal pingMessage]) ≠
        [[0x45], pingMessage.encode] := by
  have packets := recovers_iff_no_signaling [[0x45], [0x46]] []
    [.header [0x45], .body [0x45], .header [0x46], .body [0x46]]
    (.left (.left (.left (.left .nil))))
  have both := recovers_iff_no_signaling [[0x45]] [pingMessage]
    [.header [0x45], .body [0x45], .signal pingMessage] (.left (.left (.right .nil)))
  refine ⟨packets.mpr ⟨rfl, by decide⟩, fun recovered => ?_⟩
  exact absurd (both.mp recovered).1 (by decide)

/-- The type and first address byte of a signaling message before a packet are read as a length. -/
theorem signaling_desynchronises :
    Frames.Merges ([[0x45, 0x00]].flatMap sendViaRelay) ([pingMessage].flatMap signalSend)
        [.signal pingMessage, .header [0x45, 0x00], .body [0x45, 0x00]] ∧
      payloads [.signal pingMessage, .header [0x45, 0x00], .body [0x45, 0x00]] =
        [pingMessage.encode, [0x45, 0x00]] ∧
      handleMeshStream (streamBytes
        [.signal pingMessage, .header [0x45, 0x00], .body [0x45, 0x00]]) = [] :=
  ⟨.right (.left (.left .nil)), rfl, by decide⟩

end Shuttle.Mesh
