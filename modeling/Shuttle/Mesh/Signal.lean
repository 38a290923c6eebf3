import Shuttle.Go.Format
import Shuttle.Mesh.Frame

/-!
# Signaling messages and their payloads

`mesh/signal/protocol.go` encodes and decodes messages and their payloads. A decoder refuses
payloads above 4096 bytes; the payloads have counts and lengths of one or two bytes of their own,
which are converted without a check. Addresses are sent in their four-byte form, and as zeros when
they have none.
-/

namespace Shuttle.Mesh

open Shuttle.Go List Option

/-! ## Messages -/

inductive SignalError where
  /-- "message too short". -/
  | messageTooShort
  /-- "payload too large: %d". -/
  | payloadTooLarge (length : Nat)
  /-- "message truncated: have %d, want %d". -/
  | messageTruncated (length expected : Nat)
  /-- "candidate too short". -/
  | candidateTooShort
  /-- "empty candidates". -/
  | emptyCandidates
  /-- "connect info too short". -/
  | connectInfoTooShort
  /-- "ice restart info too short". -/
  | restartTooShort
  /-- "ice restart info truncated (ufrag)". -/
  | restartUfragTruncated
  /-- "ice restart info truncated (pwd)". -/
  | restartPwdTruncated
  /-- "trickle candidate too short". -/
  | trickleTooShort
  /-- "trickle candidate truncated". -/
  | trickleTruncated
  /-- "end-of-candidates too short". -/
  | endOfCandidatesTooShort
  /-- "webrtc sdp too short". -/
  | sdpTooShort
  /-- "webrtc sdp truncated". -/
  | sdpTruncated
  /-- A slice expression out of range panics. -/
  | slicePanics
  /-- "webrtc ice candidate too short". -/
  | webRTCTooShort
  /-- "webrtc ice candidate truncated". -/
  | webRTCTruncated
  /-- "webrtc ice candidate missing mid". -/
  | webRTCMissingMid
  /-- "webrtc ice candidate mid truncated". -/
  | webRTCMidTruncated
  /-- "webrtc ice candidate missing mline index". -/
  | webRTCMissingMLineIndex
  /-- "webrtc ice candidate missing ufrag". -/
  | webRTCMissingUfrag
  /-- "webrtc ice candidate ufrag truncated". -/
  | webRTCUfragTruncated
deriving DecidableEq

/-- Length of the header: type, both addresses and the payload's length. -/
def headerSize : Nat := 11

def maxSignalPayload : Nat := 4096

/-- The bytes of an address on the wire: those of its four-byte form, or zeros. -/
def wireIP (ip : IP) : List UInt8 := (to4 ip).getD [0, 0, 0, 0]

def Message.decode (data : List UInt8) : Except SignalError Message :=
  if data.length < headerSize then .error .messageTooShort
  else
    let payloadLen := ofBe ((data.drop 9).take 2)
    if maxSignalPayload < payloadLen then .error (.payloadTooLarge payloadLen)
    else if data.length < headerSize + payloadLen then
      .error (.messageTruncated data.length (headerSize + payloadLen))
    else
      .ok ⟨data.getD 0 0, (data.drop 1).take 4, (data.drop 5).take 4,
        (data.drop headerSize).take payloadLen⟩

theorem wireIP_length (ip : IP) : (wireIP ip).length = 4 := by
  rw [wireIP]
  cases short : to4 ip with
  | none => rfl
  | some four => exact to4_length short

theorem wireIP_equal (ip : IP) : ipEqual (wireIP ip) ip = true ↔ (to4 ip).isSome = true := by
  rw [ipEqual_four (wireIP_length ip), wireIP]
  cases to4 ip with
  | none => exact iff_of_false nofun nofun
  | some four => exact iff_of_true rfl rfl

theorem decode_parts (type : UInt8) {src dst length : List UInt8} (payload : List UInt8)
    (four : src.length = 4) (other : dst.length = 4) (two : length.length = 2) :
    Message.decode (type :: (src ++ dst ++ length ++ payload)) =
      if maxSignalPayload < ofBe length then .error (.payloadTooLarge (ofBe length))
      else if headerSize + payload.length < headerSize + ofBe length then
        .error (.messageTruncated (headerSize + payload.length) (headerSize + ofBe length))
      else .ok ⟨type, src, dst, payload.take (ofBe length)⟩ := by
  match src, dst, length, four, other, two with
  | [_, _, _, _], [_, _, _, _], [_, _], _, _, _ =>
    have count (a b c d e f g h i j k : UInt8) :
        (a :: b :: c :: d :: e :: f :: g :: h :: i :: j :: k :: payload).length =
          headerSize + payload.length := Nat.add_comm payload.length 11
    rw [Message.decode]
    simp only [cons_append, nil_append]
    rw [count, if_neg (by omega)]
    rfl

def Message.Kept (sent received : Message) : Prop :=
  received.type = sent.type ∧ ipEqual received.srcVIP sent.srcVIP = true ∧
    ipEqual received.dstVIP sent.dstVIP = true ∧ received.payload = sent.payload

theorem decode_encode_iff {message : Message} (src : (to4 message.srcVIP).isSome = true)
    (dst : (to4 message.dstVIP).isSome = true) :
    (∃ received, Message.decode message.encode = .ok received ∧ message.Kept received) ↔
      message.payload.length ≤ maxSignalPayload := by
  have parts := decode_parts message.type message.payload (wireIP_length message.srcVIP)
    (wireIP_length message.dstVIP) (beBytes_length 2 (message.payload.length % 2 ^ 16))
  have bound : message.payload.length % 2 ^ 16 < 256 ^ 2 := Nat.mod_lt _ (by decide)
  have small : message.payload.length % 2 ^ 16 ≤ message.payload.length := Nat.mod_le _ _
  have whole : message.encode = message.type :: (wireIP message.srcVIP ++ wireIP message.dstVIP ++
    beBytes 2 (message.payload.length % 2 ^ 16) ++ message.payload) := rfl
  rw [← whole, ofBe_beBytes_of_lt bound] at parts
  rw [parts]
  by_cases large : maxSignalPayload < message.payload.length % 2 ^ 16
  · rw [if_pos large]
    exact iff_of_false nofun (by omega)
  · rw [if_neg large, if_neg (by omega)]
    constructor
    · rintro ⟨received, found, _, _, _, same⟩
      cases found
      have length := congrArg List.length same
      rw [length_take_of_le small] at length
      omega
    · intro fits
      have modulus : message.payload.length % 2 ^ 16 = message.payload.length := by
        rw [maxSignalPayload] at fits
        omega
      rw [modulus, take_length]
      exact ⟨_, rfl, rfl, (wireIP_equal _).mpr src, (wireIP_equal _).mpr dst, rfl⟩

/-! ## Candidates -/

structure CandidateInfo where
  type : UInt8
  ip : IP
  port : UInt16
  priority : UInt32
  foundation : GoString
  relatedIP : Option IP
  relatedPort : UInt16
deriving DecidableEq

def candidateInfoSize : Nat := 11

/-- Encode a candidate: eleven bytes, and six more with a related address. -/
def encodeCandidate (candidate : CandidateInfo) : List UInt8 :=
  let base := candidate.type :: (wireIP candidate.ip ++ beBytes 2 candidate.port.toNat ++
    beBytes 4 candidate.priority.toNat)
  match candidate.relatedIP with
  | some ip => base ++ (wireIP ip ++ beBytes 2 candidate.relatedPort.toNat)
  | none => base

/-- Decode a candidate; seventeen bytes have a related address. -/
def decodeCandidate (data : List UInt8) : Except SignalError CandidateInfo :=
  if data.length < candidateInfoSize then .error .candidateTooShort
  else
    let base : CandidateInfo :=
      ⟨data.getD 0 0, (data.drop 1).take 4, UInt16.ofNat (ofBe ((data.drop 5).take 2)),
        UInt32.ofNat (ofBe ((data.drop 7).take 4)), [], none, 0⟩
    if 17 ≤ data.length then
      .ok { base with
        relatedIP := some ((data.drop 11).take 4)
        relatedPort := UInt16.ofNat (ofBe ((data.drop 15).take 2)) }
    else .ok base

/-- A candidate in the payload of several, behind its length. -/
def candidateEntry (candidate : CandidateInfo) : List UInt8 :=
  UInt8.ofNat (encodeCandidate candidate).length :: encodeCandidate candidate

/-- Encode candidates behind a byte with their number; nothing for none. -/
def encodeCandidates (candidates : List CandidateInfo) : List UInt8 :=
  if candidates = [] then []
  else UInt8.ofNat candidates.length :: candidates.flatMap candidateEntry

/-- Decode candidates; one that is refused is skipped without its bytes, and the loop ends where the
data does. -/
def decodeCandidateEntries : Nat → List UInt8 → List CandidateInfo
  | 0, _ => []
  | _ + 1, [] => []
  | count + 1, candidateLen :: rest =>
    if rest.length < candidateLen.toNat then []
    else
      match decodeCandidate (rest.take candidateLen.toNat) with
      | .error _ => decodeCandidateEntries count rest
      | .ok candidate =>
        candidate :: decodeCandidateEntries count (rest.drop candidateLen.toNat)

/-- Decode candidates; a payload without a number is refused. -/
def decodeCandidates : List UInt8 → Except SignalError (List CandidateInfo)
  | [] => .error .emptyCandidates
  | count :: rest => .ok (decodeCandidateEntries count.toNat rest)

namespace CandidateInfo

variable (candidate : CandidateInfo)

/-- The candidate that the encoding of one is decoded as. -/
def transmitted : CandidateInfo where
  type := candidate.type
  ip := wireIP candidate.ip
  port := candidate.port
  priority := candidate.priority
  foundation := []
  relatedIP := candidate.relatedIP.map wireIP
  relatedPort := if candidate.relatedIP.isSome then candidate.relatedPort else 0

def relatedEqual : Option IP → Option IP → Bool
  | some left, some right => ipEqual left right
  | none, none => true
  | _, _ => false

def Kept (received : CandidateInfo) : Prop :=
  received.type = candidate.type ∧ ipEqual received.ip candidate.ip = true ∧
    received.port = candidate.port ∧ received.priority = candidate.priority ∧
    received.foundation = candidate.foundation ∧
    relatedEqual received.relatedIP candidate.relatedIP = true ∧
    received.relatedPort = candidate.relatedPort

/-- Its addresses have four-byte forms, there is no foundation, and no related port without an
address. -/
def Plain : Prop :=
  (to4 candidate.ip).isSome = true ∧ candidate.foundation = [] ∧
    candidate.relatedIP.all (fun ip => (to4 ip).isSome) = true ∧
    (candidate.relatedIP = none → candidate.relatedPort = 0)

instance : Decidable candidate.Plain := inferInstanceAs (Decidable (_ ∧ _))

def entrySize : Nat := if candidate.relatedIP.isSome then 18 else 12

theorem entrySize_le : candidate.entrySize ≤ 18 := by
  rw [entrySize]
  split
  · exact Nat.le_refl 18
  · decide

theorem kept_transmitted_iff : candidate.Kept candidate.transmitted ↔ candidate.Plain := by
  have address := wireIP_equal candidate.ip
  cases related : candidate.relatedIP with
  | none =>
    simp only [Kept, transmitted, Plain, relatedEqual, related, address, map_none,
      isSome_none, all_none, Bool.false_eq_true, if_false, true_and, true_implies]
    rw [@eq_comm _ [], @eq_comm _ (0 : UInt16)]
  | some ip =>
    have other := wireIP_equal ip
    simp only [Kept, transmitted, Plain, relatedEqual, related, address, other, map_some,
      isSome_some, all_some, if_true, true_and, reduceCtorEq,
      false_implies]
    rw [@eq_comm _ []]

end CandidateInfo

theorem encodeCandidate_length (candidate : CandidateInfo) :
    (encodeCandidate candidate).length + 1 = candidate.entrySize := by
  rw [encodeCandidate, CandidateInfo.entrySize]
  cases candidate.relatedIP with
  | none | some ip =>
    simp only [length_cons, length_append, wireIP_length]
    rfl

theorem port_bytes (port : UInt16) : UInt16.ofNat (ofBe (beBytes 2 port.toNat)) = port := by
  have fits : port.toNat < 256 ^ 2 := port.toNat_lt
  rw [ofBe_beBytes_of_lt fits, UInt16.ofNat_toNat]

theorem priority_bytes (priority : UInt32) :
    UInt32.ofNat (ofBe (beBytes 4 priority.toNat)) = priority := by
  have fits : priority.toNat < 256 ^ 4 := priority.toNat_lt
  rw [ofBe_beBytes_of_lt fits, UInt32.ofNat_toNat]

theorem decodeCandidate_base (type : UInt8) {ip port priority : List UInt8}
    (address : ip.length = 4)
    (two : port.length = 2) (four : priority.length = 4) :
    decodeCandidate (type :: (ip ++ port ++ priority)) =
      .ok ⟨type, ip, UInt16.ofNat (ofBe port), UInt32.ofNat (ofBe priority), [], none, 0⟩ := by
  match ip, port, priority, address, two, four with
  | [_, _, _, _], [_, _], [_, _, _, _], _, _, _ => rfl

theorem decodeCandidate_related (type : UInt8) {ip port priority other behind : List UInt8}
    (address : ip.length = 4) (two : port.length = 2) (four : priority.length = 4)
    (related : other.length = 4) (last : behind.length = 2) :
    decodeCandidate (type :: (ip ++ port ++ priority) ++ (other ++ behind)) =
      .ok ⟨type, ip, UInt16.ofNat (ofBe port), UInt32.ofNat (ofBe priority), [], some other,
        UInt16.ofNat (ofBe behind)⟩ := by
  match ip, port, priority, other, behind, address, two, four, related, last with
  | [_, _, _, _], [_, _], [_, _, _, _], [_, _, _, _], [_, _], _, _, _, _, _ => rfl

theorem decodeCandidate_encodeCandidate (candidate : CandidateInfo) :
    decodeCandidate (encodeCandidate candidate) = .ok candidate.transmitted := by
  have address := wireIP_length candidate.ip
  have two := beBytes_length 2 candidate.port.toNat
  have four := beBytes_length 4 candidate.priority.toNat
  cases related : candidate.relatedIP with
  | none =>
    rw [encodeCandidate, CandidateInfo.transmitted, related]
    rw [decodeCandidate_base candidate.type address two four, port_bytes, priority_bytes]
    rfl
  | some ip =>
    have last := beBytes_length 2 candidate.relatedPort.toNat
    rw [encodeCandidate, CandidateInfo.transmitted, related]
    rw [decodeCandidate_related candidate.type address two four (wireIP_length ip) last, port_bytes,
      priority_bytes, port_bytes]
    rfl

theorem decodeCandidateEntries_flatMap (candidates : List CandidateInfo) :
    ∀ count, decodeCandidateEntries count (candidates.flatMap candidateEntry) =
      (candidates.take count).map CandidateInfo.transmitted := by
  induction candidates with
  | nil =>
    intro count
    cases count with
    | zero | succ count => rfl
  | cons candidate candidates ih =>
    intro count
    cases count with
    | zero => rfl
    | succ count =>
      have size := encodeCandidate_length candidate
      have small := candidate.entrySize_le
      have short : (encodeCandidate candidate).length < 256 := by omega
      have length : (UInt8.ofNat (encodeCandidate candidate).length).toNat =
          (encodeCandidate candidate).length := UInt8.toNat_ofNat_of_lt short
      have enough : ¬(encodeCandidate candidate ++ candidates.flatMap candidateEntry).length <
          (encodeCandidate candidate).length := by
        rw [length_append]
        omega
      rw [flatMap_cons, candidateEntry, cons_append, decodeCandidateEntries, length,
        if_neg enough, take_left, drop_left, decodeCandidate_encodeCandidate]
      rw [ih, take_succ_cons, map_cons]

theorem decodeCandidates_encodeCandidates_iff (candidates : List CandidateInfo) :
    (∃ received, decodeCandidates (encodeCandidates candidates) = .ok received ∧
        List.Forall₂ CandidateInfo.Kept candidates received) ↔
      candidates ≠ [] ∧ candidates.length < 256 ∧ ∀ candidate ∈ candidates, candidate.Plain := by
  rw [encodeCandidates]
  by_cases none : candidates = []
  · rw [if_pos none]
    exact iff_of_false nofun fun fits => fits.1 none
  · have number : (UInt8.ofNat candidates.length).toNat = candidates.length % 256 :=
      UInt8.toNat_ofNat'
    have least : candidates.length % 256 ≤ candidates.length := Nat.mod_le _ _
    rw [if_neg none, decodeCandidates, number, decodeCandidateEntries_flatMap]
    constructor
    · rintro ⟨received, found, kept⟩
      cases found
      have lengths := kept.length_eq
      rw [length_map, length_take_of_le least] at lengths
      have few : candidates.length < 256 := by omega
      rw [← lengths, take_length, forall₂_map_right_iff, forall₂_same] at kept
      exact ⟨none, few, fun candidate member => candidate.kept_transmitted_iff.mp
        (kept candidate member)⟩
    · rintro ⟨_, few, plain⟩
      refine ⟨_, rfl, ?_⟩
      rw [Nat.mod_eq_of_lt few, take_length, forall₂_map_right_iff, forall₂_same]
      exact fun candidate member => candidate.kept_transmitted_iff.mpr (plain candidate member)

theorem encodeCandidates_length {candidates : List CandidateInfo} (some : candidates ≠ []) :
    (encodeCandidates candidates).length = 1 + (candidates.map CandidateInfo.entrySize).sum := by
  have each : List.length ∘ candidateEntry = CandidateInfo.entrySize := by
    funext candidate
    exact encodeCandidate_length candidate
  rw [encodeCandidates, if_neg some, length_cons, length_flatMap, Nat.add_comm]
  rw [← each]
  rfl

/-! ## Chunks that are refused -/

/-- The first chunks of a payload, each behind its length, up to the first that is cut off. -/
def chunks : Nat → List UInt8 → List (List UInt8)
  | 0, _ => []
  | _ + 1, [] => []
  | count + 1, length :: rest =>
    if rest.length < length.toNat then []
    else rest.take length.toNat :: chunks count (rest.drop length.toNat)

/-- The candidates of the chunks that are not refused. -/
def accepted (chunks : List (List UInt8)) : List CandidateInfo :=
  chunks.filterMap fun chunk => (decodeCandidate chunk).toOption

/-- A chunk is accepted exactly if it is long enough for a candidate. -/
theorem decodeCandidate_ok_iff (data : List UInt8) :
    (∃ found, decodeCandidate data = .ok found) ↔ candidateInfoSize ≤ data.length := by
  unfold decodeCandidate
  split
  case isTrue short => simpa using short
  case isFalse long => split <;> simpa using long

/-- Empty, or long enough for a candidate: leaving the bytes of such a chunk unread, where it is
refused, leaves nothing behind. -/
abbrev Harmless (chunk : List UInt8) : Prop := chunk = [] ∨ candidateInfoSize ≤ chunk.length

/-- The candidates of the chunks in front of the first refused chunk that has bytes are returned
first, and all of them are if every refused chunk is empty. -/
theorem decodeCandidates_chunks (count : UInt8) (rest : List UInt8) :
    ∃ found, decodeCandidates (count :: rest) = .ok found ∧
      accepted ((chunks count.toNat rest).takeWhile (Harmless ·)) <+: found ∧
      ((∀ chunk ∈ chunks count.toNat rest, Harmless chunk) →
        found = accepted (chunks count.toNat rest)) := by
  refine ⟨_, rfl, ?_⟩
  generalize count.toNat = count
  fun_induction chunks count rest with
  | case1 => simp [decodeCandidateEntries, accepted]
  | case2 => simp [decodeCandidateEntries, accepted]
  | case3 count length rest cut => simp [decodeCandidateEntries, accepted, cut]
  | case4 count length rest whole ih =>
    rw [decodeCandidateEntries, if_neg whole, forall_mem_cons, takeWhile_cons]
    cases decoded : decodeCandidate (rest.take length.toNat) with
    | ok found =>
      -- an accepted chunk is long enough, and both readings go on behind it
      have long : Harmless (rest.take length.toNat) :=
        .inr ((decodeCandidate_ok_iff _).mp ⟨found, decoded⟩)
      rw [if_pos (decide_eq_true long)]
      simp only [accepted, filterMap_cons, decoded, Except.toOption, cons_prefix_cons,
        cons.injEq, true_and] at ih ⊢
      exact ⟨ih.1, fun fine => ih.2 fine.2⟩
    | error failure =>
      by_cases harmless : Harmless (rest.take length.toNat)
      · -- a refused chunk is short, so this one is empty
        have zero : length.toNat = 0 := by
          rcases harmless with empty | long
          · rw [← length_take_of_le (Nat.not_lt.mp whole), empty]
            rfl
          · have ⟨found, accepted⟩ := (decodeCandidate_ok_iff _).mpr long
            cases decoded.symm.trans accepted
        rw [if_pos (decide_eq_true harmless)]
        simp only [accepted, filterMap_cons, decoded, Except.toOption] at ih ⊢
        rw [zero] at ih ⊢
        exact ⟨ih.1, fun fine => ih.2 fine.2⟩
      · rw [if_neg (mt of_decide_eq_true harmless)]
        exact ⟨ nil_prefix, fun fine => absurd fine.1 harmless⟩

/-- The refused chunk `[255]` is read as a length. -/
theorem refused_chunk_read_on :
    decodeCandidates (2 :: 1 :: 255 :: 11 :: replicate 11 0) = .ok [] ∧
      (accepted (chunks 2 (1 :: 255 :: 11 :: replicate 11 0))).length = 1 := by
  decide

/-! ## Other payloads -/

structure ConnectInfo where
  publicKey : { key : List UInt8 // key.length = 32 }

def encodeConnectInfo (info : ConnectInfo) : List UInt8 := info.publicKey.val

variable (data : List UInt8)

def decodeConnectInfo : Except SignalError ConnectInfo :=
  if long : 32 ≤ data.length then .ok ⟨data.take 32, List.length_take_of_le long⟩
  else .error .connectInfoTooShort

structure ICERestartInfo where
  reason : UInt8
  generation : UInt16
  usernameFragment : GoString
  password : GoString

/-- Encode a restart: both texts stand behind a byte with their length. -/
def encodeICERestartInfo (info : ICERestartInfo) : List UInt8 :=
  info.reason :: (beBytes 2 info.generation.toNat ++
    (UInt8.ofNat info.usernameFragment.length :: (info.usernameFragment ++
      UInt8.ofNat info.password.length :: info.password)))

def decodeICERestartInfo : Except SignalError ICERestartInfo :=
  if data.length < 5 then .error .restartTooShort
  else
    let ufragLen := (data.getD 3 0).toNat
    if data.length < 4 + ufragLen + 1 then .error .restartUfragTruncated
    else
      let pwdLen := (data.getD (4 + ufragLen) 0).toNat
      if data.length < 5 + ufragLen + pwdLen then .error .restartPwdTruncated
      else
        .ok ⟨data.getD 0 0, UInt16.ofNat (ofBe ((data.drop 1).take 2)),
          (data.drop 4).take ufragLen, (data.drop (5 + ufragLen)).take pwdLen⟩

structure TrickleCandidateInfo where
  candidate : CandidateInfo
  generation : UInt16
  mLineIndex : UInt8

variable (info : TrickleCandidateInfo)

def encodeTrickleCandidate : List UInt8 :=
  beBytes 2 info.generation.toNat ++ info.mLineIndex :: candidateEntry info.candidate

def decodeTrickleCandidate : Except SignalError TrickleCandidateInfo :=
  if data.length < 4 then .error .trickleTooShort
  else
    let candidateLen := (data.getD 3 0).toNat
    if data.length < 4 + candidateLen then .error .trickleTruncated
    else
      match decodeCandidate ((data.drop 4).take candidateLen) with
      | .error failure => .error failure
      | .ok candidate => .ok ⟨candidate, UInt16.ofNat (ofBe (data.take 2)), data.getD 2 0⟩

structure EndOfCandidatesInfo where
  generation : UInt16
  totalCandidates : UInt8

def encodeEndOfCandidates (info : EndOfCandidatesInfo) : List UInt8 :=
  beBytes 2 info.generation.toNat ++ [info.totalCandidates]

def decodeEndOfCandidates : Except SignalError EndOfCandidatesInfo :=
  if data.length < 3 then .error .endOfCandidatesTooShort
  else .ok ⟨UInt16.ofNat (ofBe (data.take 2)), data.getD 2 0⟩

def sdpTypeOffer : UInt8 := 0x01

def sdpTypeAnswer : UInt8 := 0x02

structure WebRTCSDPInfo where
  type : UInt8
  sdp : GoString

/-- Longest description that is encoded; of a longer one the front is. -/
def maxWebRTCSDPSize : Nat := 8192

def encodeWebRTCSDP (info : WebRTCSDPInfo) : List UInt8 :=
  let sdpBytes := if maxWebRTCSDPSize < info.sdp.length then info.sdp.take maxWebRTCSDPSize
    else info.sdp
  info.type :: (beBytes 2 sdpBytes.length ++ sdpBytes)

def decodeWebRTCSDP : Except SignalError WebRTCSDPInfo :=
  if data.length < 3 then .error .sdpTooShort
  else
    let sdpLen := ofBe ((data.drop 1).take 2)
    if data.length - 3 < sdpLen then .error .sdpTruncated
    -- `3+sdpLen` is a `uint16`: behind its range the slice ends before it begins
    else if 2 ^ 16 ≤ 3 + sdpLen then .error .slicePanics
    else .ok ⟨data.getD 0 0, (data.drop 3).take sdpLen⟩

structure WebRTCICECandidateInfo where
  candidate : GoString
  sdpMid : GoString
  sdpMLineIndex : UInt16
  usernameFragment : GoString

def encodeWebRTCICECandidate (info : WebRTCICECandidateInfo) : List UInt8 :=
  beBytes 2 (info.candidate.length % 2 ^ 16) ++ (info.candidate ++
    UInt8.ofNat info.sdpMid.length :: (info.sdpMid ++ (beBytes 2 info.sdpMLineIndex.toNat ++
      UInt8.ofNat info.usernameFragment.length :: info.usernameFragment)))

def decodeWebRTCICECandidate : Except SignalError WebRTCICECandidateInfo :=
  if data.length < 6 then .error .webRTCTooShort
  else
    let candLen := ofBe (data.take 2)
    if data.length < 2 + candLen then .error .webRTCTruncated
    else
      let behind := 2 + candLen
      if data.length ≤ behind then .error .webRTCMissingMid
      else
        let midLen := (data.getD behind 0).toNat
        let start := behind + 1
        if data.length < start + midLen then .error .webRTCMidTruncated
        else
          let index := start + midLen
          if data.length < index + 2 then .error .webRTCMissingMLineIndex
          else
            let last := index + 2
            if data.length ≤ last then .error .webRTCMissingUfrag
            else
              let ufragLen := (data.getD last 0).toNat
              if data.length < last + 1 + ufragLen then .error .webRTCUfragTruncated
              else
                .ok ⟨(data.drop 2).take candLen, (data.drop start).take midLen,
                  UInt16.ofNat (ofBe ((data.drop index).take 2)),
                  (data.drop (last + 1)).take ufragLen⟩

/-! ## Round trips of payloads -/

theorem drop_behind {data front rest : List UInt8} {offset : Nat}
    (here : data.drop offset = front ++ rest) : data.drop (offset + front.length) = rest := by
  rw [← drop_drop, here, drop_left]

theorem text_at {data text rest : List UInt8} {offset : Nat}
    (here : data.drop offset = UInt8.ofNat text.length :: (text ++ rest))
    (short : text.length < 256) :
    (data.getD offset 0).toNat = text.length ∧
      (data.drop (offset + 1)).take text.length = text ∧
      data.drop (offset + 1 + text.length) = rest ∧
      data.length = offset + 1 + text.length + rest.length := by
  have length : (UInt8.ofNat text.length).toNat = text.length := UInt8.toNat_ofNat_of_lt short
  have first : data.getD offset 0 = UInt8.ofNat text.length := by
    have head : (data.drop offset).getD 0 0 = UInt8.ofNat text.length := by
      rw [here]
      rfl
    rw [getD_eq_getElem?_getD, List.getElem?_drop] at head
    exact head
  have behind : data.drop (offset + 1) = text ++ rest := by
    rw [← drop_drop, here]
    rfl
  have sizes := congrArg List.length here
  rw [length_drop, length_cons, length_append] at sizes
  refine ⟨?_, ?_, drop_behind behind, by omega⟩
  · rw [first, length]
  · rw [behind, take_left]

theorem decodeConnectInfo_encodeConnectInfo (info : ConnectInfo) :
    decodeConnectInfo (encodeConnectInfo info) = .ok info := by
  have length : (encodeConnectInfo info).length = 32 := info.publicKey.property
  have whole : (encodeConnectInfo info).take 32 = info.publicKey.val :=
    take_of_length_le (Nat.le_of_eq length)
  rw [decodeConnectInfo, dif_pos (by omega)]
  congr 2
  exact Subtype.ext whole

theorem decodeICERestartInfo_encodeICERestartInfo {info : ICERestartInfo}
    (ufrag : info.usernameFragment.length < 256) (pwd : info.password.length < 256) :
    decodeICERestartInfo (encodeICERestartInfo info) = .ok info := by
  generalize whole : encodeICERestartInfo info = data
  have third : data.drop 3 = UInt8.ofNat info.usernameFragment.length ::
      (info.usernameFragment ++ UInt8.ofNat info.password.length :: (info.password ++ [])) := by
    rw [← whole, append_nil]
    rfl
  have ⟨ufragLen, fragment, behind, _⟩ := text_at third ufrag
  have ⟨pwdLen, word, _, length⟩ := text_at behind pwd
  have first : data.getD 0 0 = info.reason := by
    rw [← whole]
    rfl
  have number : (data.drop 1).take 2 = beBytes 2 info.generation.toNat := by
    rw [← whole]
    rfl
  have next : 5 + info.usernameFragment.length = 3 + 1 + info.usernameFragment.length + 1 := by
    omega
  rw [decodeICERestartInfo, if_neg (by omega)]
  rw [ufragLen, if_neg (by omega), pwdLen, if_neg (by omega), first, number, port_bytes, fragment,
    next, word]

theorem encodeICERestartInfo_length (info : ICERestartInfo) :
    (encodeICERestartInfo info).length =
      5 + info.usernameFragment.length + info.password.length := by
  simp only [encodeICERestartInfo, length_cons, length_append, beBytes_length]
  omega

theorem length_take_byte (byte : UInt8) (text : List UInt8) : (text.take byte.toNat).length < 256 :=
  Nat.lt_of_le_of_lt (length_take_le _ _) byte.toNat_lt

theorem decodeICERestartInfo_lengths {data : List UInt8} {info : ICERestartInfo}
    (decoded : decodeICERestartInfo data = .ok info) :
    info.usernameFragment.length < 256 ∧ info.password.length < 256 := by
  rw [decodeICERestartInfo] at decoded
  dsimp only at decoded
  split at decoded
  · cases decoded
  split at decoded
  · cases decoded
  split at decoded <;> cases decoded
  exact ⟨length_take_byte _ _, length_take_byte _ _⟩

theorem decodeTrickleCandidate_encodeTrickleCandidate :
    decodeTrickleCandidate (encodeTrickleCandidate info) =
      .ok { info with candidate := info.candidate.transmitted } := by
  have size := encodeCandidate_length info.candidate
  have small := info.candidate.entrySize_le
  have short : (encodeCandidate info.candidate).length < 256 := by omega
  generalize whole : encodeTrickleCandidate info = data
  have third : data.drop 3 = UInt8.ofNat (encodeCandidate info.candidate).length ::
      (encodeCandidate info.candidate ++ []) := by
    rw [← whole, append_nil]
    rfl
  have ⟨length, text, _, total⟩ := text_at third short
  have number : data.take 2 = beBytes 2 info.generation.toNat := by
    rw [← whole]
    rfl
  have index : data.getD 2 0 = info.mLineIndex := by
    rw [← whole]
    rfl
  rw [decodeTrickleCandidate, if_neg (by omega)]
  rw [length, if_neg (by omega), text, decodeCandidate_encodeCandidate]
  rw [number, port_bytes, index]

theorem encodeTrickleCandidate_length :
    (encodeTrickleCandidate info).length = 3 + info.candidate.entrySize := by
  rw [← encodeCandidate_length]
  simp only [encodeTrickleCandidate, candidateEntry, length_cons, length_append, beBytes_length]
  omega

theorem decodeEndOfCandidates_encodeEndOfCandidates (info : EndOfCandidatesInfo) :
    decodeEndOfCandidates (encodeEndOfCandidates info) = .ok info := by
  have number := port_bytes info.generation
  have decoded : decodeEndOfCandidates (encodeEndOfCandidates info) =
    .ok ⟨UInt16.ofNat (ofBe (beBytes 2 info.generation.toNat)), info.totalCandidates⟩ := rfl
  rw [decoded, number]

theorem decodeWebRTCSDP_encodeWebRTCSDP {info : WebRTCSDPInfo}
    (fits : info.sdp.length ≤ maxWebRTCSDPSize) :
    decodeWebRTCSDP (encodeWebRTCSDP info) = .ok info := by
  have bound : 3 + info.sdp.length < 2 ^ 16 := by
    rw [maxWebRTCSDPSize] at fits
    omega
  generalize whole : encodeWebRTCSDP info = data
  rw [encodeWebRTCSDP, if_neg (by omega)] at whole
  have first : data.getD 0 0 = info.type := by
    rw [← whole]
    rfl
  have number : (data.drop 1).take 2 = beBytes 2 info.sdp.length := by
    rw [← whole]
    rfl
  have behind : data.drop 3 = info.sdp := by
    rw [← whole]
    rfl
  have length : data.length = info.sdp.length + 3 := by
    rw [← whole]
    rfl
  rw [decodeWebRTCSDP, if_neg (by omega)]
  rw [number, ofBe_beBytes_of_lt (by omega), if_neg (by omega), if_neg (by omega), first, behind,
    take_length]

theorem encodeWebRTCSDP_length (info : WebRTCSDPInfo) :
    (encodeWebRTCSDP info).length = 3 + min info.sdp.length maxWebRTCSDPSize := by
  unfold encodeWebRTCSDP
  split
  · simp only [length_cons, length_append, beBytes_length, length_take]
    omega
  · simp only [length_cons, length_append, beBytes_length]
    omega

theorem decodeWebRTCICECandidate_encodeWebRTCICECandidate {info : WebRTCICECandidateInfo}
    (cand : info.candidate.length < 2 ^ 16) (mid : info.sdpMid.length < 256)
    (ufrag : info.usernameFragment.length < 256) :
    decodeWebRTCICECandidate (encodeWebRTCICECandidate info) = .ok info := by
  generalize whole : encodeWebRTCICECandidate info = data
  rw [encodeWebRTCICECandidate, Nat.mod_eq_of_lt cand] at whole
  have front : data.take 2 = beBytes 2 info.candidate.length := by
    rw [← whole]
    rfl
  have second : data.drop 2 = info.candidate ++ UInt8.ofNat info.sdpMid.length ::
      (info.sdpMid ++ (beBytes 2 info.sdpMLineIndex.toNat ++
        UInt8.ofNat info.usernameFragment.length :: (info.usernameFragment ++ []))) := by
    rw [← whole, append_nil]
    rfl
  have text : (data.drop 2).take info.candidate.length = info.candidate := by
    rw [second, take_left]
  have ⟨midLen, middle, indexed, _⟩ := text_at (drop_behind second) mid
  have index : (data.drop (2 + info.candidate.length + 1 + info.sdpMid.length)).take 2 =
      beBytes 2 info.sdpMLineIndex.toNat := by
    rw [indexed]
    exact take_left' (beBytes_length 2 _)
  have last := drop_behind indexed
  rw [beBytes_length] at last
  have ⟨ufragLen, fragment, _, length⟩ := text_at last ufrag
  have number : ofBe (beBytes 2 info.candidate.length) = info.candidate.length :=
    ofBe_beBytes_of_lt cand
  rw [decodeWebRTCICECandidate, if_neg (by omega)]
  rw [front, number, if_neg (by omega), if_neg (by omega), midLen, if_neg (by omega),
    if_neg (by omega), if_neg (by omega), ufragLen, if_neg (by omega), text, middle, index,
    port_bytes, fragment]

theorem encodeWebRTCICECandidate_length (info : WebRTCICECandidateInfo) :
    (encodeWebRTCICECandidate info).length =
      6 + info.candidate.length + info.sdpMid.length + info.usernameFragment.length := by
  simp only [encodeWebRTCICECandidate, length_cons, length_append, beBytes_length]
  omega

theorem decodeWebRTCICECandidate_lengths {data : List UInt8} {info : WebRTCICECandidateInfo}
    (decoded : decodeWebRTCICECandidate data = .ok info) :
    info.sdpMid.length < 256 ∧ info.usernameFragment.length < 256 := by
  rw [decodeWebRTCICECandidate] at decoded
  dsimp only at decoded
  repeat' split at decoded
  all_goals cases decoded
  exact ⟨length_take_byte _ _, length_take_byte _ _⟩

end Shuttle.Mesh
