import Shuttle.Mesh.Signal

/-!
# Round trips of signaling messages

Thirteen constructors of `mesh/signal/protocol.go` build a message from two addresses and what it is
to carry. The message is encoded, decoded, and its payload given to the function for its kind. What
comes out is what went in exactly when every length is one that its field holds, and candidates have
nothing that their encoding leaves out.
-/

namespace Shuttle.Mesh

open Shuttle.Go

/-! ## Constructors -/

def signalCandidate : UInt8 := 0x01

def signalConnect : UInt8 := 0x04

def signalConnectAck : UInt8 := 0x05

def signalDisconnect : UInt8 := 0x06

def signalPing : UInt8 := 0x07

def signalPong : UInt8 := 0x08

def signalICERestart : UInt8 := 0x09

def signalTrickleCandidate : UInt8 := 0x0A

def signalEndOfCandidates : UInt8 := 0x0B

def signalWebRTCOffer : UInt8 := 0x10

def signalWebRTCAnswer : UInt8 := 0x11

def signalWebRTCICECandidate : UInt8 := 0x12

def signalError : UInt8 := 0xFF

section Constructors

variable (srcVIP dstVIP : IP)

def newCandidateMessage (candidates : List CandidateInfo) : Message :=
  ⟨signalCandidate, srcVIP, dstVIP, encodeCandidates candidates⟩

variable (publicKey : { key : List UInt8 // key.length = 32 })

def newConnectMessage : Message :=
  ⟨signalConnect, srcVIP, dstVIP, encodeConnectInfo ⟨publicKey⟩⟩

def newConnectAckMessage : Message :=
  ⟨signalConnectAck, srcVIP, dstVIP, encodeConnectInfo ⟨publicKey⟩⟩

def newDisconnectMessage : Message := ⟨signalDisconnect, srcVIP, dstVIP, []⟩

def newPingMessage : Message := ⟨signalPing, srcVIP, dstVIP, []⟩

def newPongMessage : Message := ⟨signalPong, srcVIP, dstVIP, []⟩

def newErrorMessage (errMsg : GoString) : Message := ⟨signalError, srcVIP, dstVIP, errMsg⟩

def newICERestartMessage (info : ICERestartInfo) : Message :=
  ⟨signalICERestart, srcVIP, dstVIP, encodeICERestartInfo info⟩

def newTrickleCandidateMessage (info : TrickleCandidateInfo) : Message :=
  ⟨signalTrickleCandidate, srcVIP, dstVIP, encodeTrickleCandidate info⟩

def newEndOfCandidatesMessage (info : EndOfCandidatesInfo) : Message :=
  ⟨signalEndOfCandidates, srcVIP, dstVIP, encodeEndOfCandidates info⟩

def newWebRTCOfferMessage (sdp : GoString) : Message :=
  ⟨signalWebRTCOffer, srcVIP, dstVIP, encodeWebRTCSDP ⟨sdpTypeOffer, sdp⟩⟩

def newWebRTCAnswerMessage (sdp : GoString) : Message :=
  ⟨signalWebRTCAnswer, srcVIP, dstVIP, encodeWebRTCSDP ⟨sdpTypeAnswer, sdp⟩⟩

def newWebRTCICECandidateMessage (info : WebRTCICECandidateInfo) : Message :=
  ⟨signalWebRTCICECandidate, srcVIP, dstVIP, encodeWebRTCICECandidate info⟩

end Constructors

/-- A call of a constructor, apart from its two addresses. -/
inductive SignalCall where
  | candidate (candidates : List CandidateInfo)
  | connect (publicKey : { key : List UInt8 // key.length = 32 })
  | connectAck (publicKey : { key : List UInt8 // key.length = 32 })
  | disconnect
  | ping
  | pong
  | error (errMsg : GoString)
  | iceRestart (info : ICERestartInfo)
  | trickleCandidate (info : TrickleCandidateInfo)
  | endOfCandidates (info : EndOfCandidatesInfo)
  | webRTCOffer (sdp : GoString)
  | webRTCAnswer (sdp : GoString)
  | webRTCICECandidate (info : WebRTCICECandidateInfo)

namespace SignalCall

def message (srcVIP dstVIP : IP) : SignalCall → Message
  | candidate candidates => newCandidateMessage srcVIP dstVIP candidates
  | connect publicKey => newConnectMessage srcVIP dstVIP publicKey
  | connectAck publicKey => newConnectAckMessage srcVIP dstVIP publicKey
  | disconnect => newDisconnectMessage srcVIP dstVIP
  | ping => newPingMessage srcVIP dstVIP
  | pong => newPongMessage srcVIP dstVIP
  | error errMsg => newErrorMessage srcVIP dstVIP errMsg
  | iceRestart info => newICERestartMessage srcVIP dstVIP info
  | trickleCandidate info => newTrickleCandidateMessage srcVIP dstVIP info
  | endOfCandidates info => newEndOfCandidatesMessage srcVIP dstVIP info
  | webRTCOffer sdp => newWebRTCOfferMessage srcVIP dstVIP sdp
  | webRTCAnswer sdp => newWebRTCAnswerMessage srcVIP dstVIP sdp
  | webRTCICECandidate info => newWebRTCICECandidateMessage srcVIP dstVIP info

/-- The payload is decoded as what was encoded; three kinds have no payload, and that of an error is
its text. -/
def Recovered (payload : List UInt8) : SignalCall → Prop
  | candidate candidates => ∃ received, decodeCandidates payload = .ok received ∧
      List.Forall₂ CandidateInfo.Kept candidates received
  | connect publicKey => decodeConnectInfo payload = .ok ⟨publicKey⟩
  | connectAck publicKey => decodeConnectInfo payload = .ok ⟨publicKey⟩
  | disconnect => payload = []
  | ping => payload = []
  | pong => payload = []
  | error errMsg => payload = errMsg
  | iceRestart info => decodeICERestartInfo payload = .ok info
  | trickleCandidate info => ∃ received, decodeTrickleCandidate payload = .ok received ∧
      info.candidate.Kept received.candidate ∧ received.generation = info.generation ∧
      received.mLineIndex = info.mLineIndex
  | endOfCandidates info => decodeEndOfCandidates payload = .ok info
  | webRTCOffer sdp => decodeWebRTCSDP payload = .ok ⟨sdpTypeOffer, sdp⟩
  | webRTCAnswer sdp => decodeWebRTCSDP payload = .ok ⟨sdpTypeAnswer, sdp⟩
  | webRTCICECandidate info => decodeWebRTCICECandidate payload = .ok info

/-- The message is decoded as it was built, and its payload as what it was built from. -/
def RoundTrips (srcVIP dstVIP : IP) (call : SignalCall) : Prop :=
  ∃ received, Message.decode (call.message srcVIP dstVIP).encode = .ok received ∧
    (call.message srcVIP dstVIP).Kept received ∧ call.Recovered received.payload

/-- The lengths of the payload and of its parts are held by their fields, and everything about a
candidate is sent. -/
def Fits : SignalCall → Prop
  | candidate candidates => candidates ≠ [] ∧ candidates.length < 256 ∧
      1 + (candidates.map CandidateInfo.entrySize).sum ≤ maxSignalPayload ∧
      ∀ candidate ∈ candidates, candidate.Plain
  | connect _ => True
  | connectAck _ => True
  | disconnect => True
  | ping => True
  | pong => True
  | error errMsg => errMsg.length ≤ maxSignalPayload
  | iceRestart info => info.usernameFragment.length < 256 ∧ info.password.length < 256
  | trickleCandidate info => info.candidate.Plain
  | endOfCandidates _ => True
  | webRTCOffer sdp => 3 + sdp.length ≤ maxSignalPayload
  | webRTCAnswer sdp => 3 + sdp.length ≤ maxSignalPayload
  | webRTCICECandidate info => info.sdpMid.length < 256 ∧ info.usernameFragment.length < 256 ∧
      6 + info.candidate.length + info.sdpMid.length + info.usernameFragment.length ≤
        maxSignalPayload

theorem roundTrips_iff {srcVIP dstVIP : IP} (src : (to4 srcVIP).isSome = true)
    (dst : (to4 dstVIP).isSome = true) (call : SignalCall) :
    call.RoundTrips srcVIP dstVIP ↔
      (call.message srcVIP dstVIP).payload.length ≤ maxSignalPayload ∧
        call.Recovered (call.message srcVIP dstVIP).payload := by
  have addresses : (call.message srcVIP dstVIP).srcVIP = srcVIP ∧
      (call.message srcVIP dstVIP).dstVIP = dstVIP := by
    cases call <;> exact ⟨rfl, rfl⟩
  rw [← addresses.1] at src
  rw [← addresses.2] at dst
  have decodes := decode_encode_iff src dst
  constructor
  · rintro ⟨received, found, kept, recovered⟩
    rw [kept.2.2.2] at recovered
    exact ⟨decodes.mp ⟨received, found, kept⟩, recovered⟩
  · rintro ⟨fits, recovered⟩
    have ⟨received, found, kept⟩ := decodes.mpr fits
    refine ⟨received, found, kept, ?_⟩
    rw [kept.2.2.2]
    exact recovered

theorem candidate_fits_iff (candidates : List CandidateInfo) :
    (encodeCandidates candidates).length ≤ maxSignalPayload ∧
        (candidate candidates).Recovered (encodeCandidates candidates) ↔
      (candidate candidates).Fits := by
  have decoded := decodeCandidates_encodeCandidates_iff candidates
  rw [Recovered, decoded]
  constructor
  · rintro ⟨fits, some, few, plain⟩
    rw [encodeCandidates_length some] at fits
    exact ⟨some, few, fits, plain⟩
  · rintro ⟨some, few, fits, plain⟩
    rw [encodeCandidates_length some]
    exact ⟨fits, some, few, plain⟩

theorem iceRestart_fits_iff (info : ICERestartInfo) :
    (encodeICERestartInfo info).length ≤ maxSignalPayload ∧
        (iceRestart info).Recovered (encodeICERestartInfo info) ↔ (iceRestart info).Fits := by
  constructor
  · rintro ⟨_, decoded⟩
    exact decodeICERestartInfo_lengths decoded
  · rintro ⟨ufrag, pwd⟩
    rw [encodeICERestartInfo_length, maxSignalPayload]
    exact ⟨by omega, decodeICERestartInfo_encodeICERestartInfo ufrag pwd⟩

theorem trickleCandidate_fits_iff (info : TrickleCandidateInfo) :
    (encodeTrickleCandidate info).length ≤ maxSignalPayload ∧
        (trickleCandidate info).Recovered (encodeTrickleCandidate info) ↔
      (trickleCandidate info).Fits := by
  have length : (encodeTrickleCandidate info).length ≤ maxSignalPayload := by
    have small := info.candidate.entrySize_le
    rw [encodeTrickleCandidate_length, maxSignalPayload]
    omega
  rw [Recovered, Fits, decodeTrickleCandidate_encodeTrickleCandidate,
    ← info.candidate.kept_transmitted_iff]
  constructor
  · rintro ⟨_, received, found, kept, _⟩
    cases found
    exact kept
  · intro kept
    exact ⟨length, _, rfl, kept, rfl, rfl⟩

theorem webRTCSDP_fits_iff (type : UInt8) (sdp : GoString) :
    (encodeWebRTCSDP ⟨type, sdp⟩).length ≤ maxSignalPayload ∧
        decodeWebRTCSDP (encodeWebRTCSDP ⟨type, sdp⟩) = .ok ⟨type, sdp⟩ ↔
      3 + sdp.length ≤ maxSignalPayload := by
  have least : maxSignalPayload < maxWebRTCSDPSize := by decide
  rw [encodeWebRTCSDP_length]
  constructor
  · rintro ⟨fits, _⟩
    dsimp only at fits
    omega
  · intro fits
    have uncut : sdp.length ≤ maxWebRTCSDPSize := by omega
    refine ⟨?_, decodeWebRTCSDP_encodeWebRTCSDP uncut⟩
    dsimp only
    omega

theorem webRTCICECandidate_fits_iff (info : WebRTCICECandidateInfo) :
    (encodeWebRTCICECandidate info).length ≤ maxSignalPayload ∧
        (webRTCICECandidate info).Recovered (encodeWebRTCICECandidate info) ↔
      (webRTCICECandidate info).Fits := by
  rw [encodeWebRTCICECandidate_length]
  constructor
  · rintro ⟨fits, decoded⟩
    have ⟨mid, ufrag⟩ := decodeWebRTCICECandidate_lengths decoded
    exact ⟨mid, ufrag, fits⟩
  · rintro ⟨mid, ufrag, fits⟩
    refine ⟨fits, decodeWebRTCICECandidate_encodeWebRTCICECandidate ?_ mid ufrag⟩
    rw [maxSignalPayload] at fits
    omega

end SignalCall

/-- A message that a constructor returns for IPv4 addresses is decoded as it was built, and its
payload as what it was built from, exactly when all lengths are held by their fields, there is a
candidate in a batch, and everything about candidates is sent. -/
theorem signal_round_trip_iff {srcVIP dstVIP : IP} (src : (to4 srcVIP).isSome = true)
    (dst : (to4 dstVIP).isSome = true) (call : SignalCall) :
    call.RoundTrips srcVIP dstVIP ↔ call.Fits := by
  have small : 0 ≤ maxSignalPayload := Nat.zero_le _
  rw [SignalCall.roundTrips_iff src dst]
  cases call with
  | candidate candidates => exact SignalCall.candidate_fits_iff candidates
  | connect publicKey | connectAck publicKey =>
    have length : (encodeConnectInfo ⟨publicKey⟩).length = 32 := publicKey.property
    refine iff_of_true ⟨?_, decodeConnectInfo_encodeConnectInfo ⟨publicKey⟩⟩ trivial
    exact Nat.le_trans (Nat.le_of_eq length) (by decide)
  | disconnect | ping | pong => exact iff_of_true ⟨small, rfl⟩ trivial
  | error errMsg => exact and_iff_left rfl
  | iceRestart info => exact SignalCall.iceRestart_fits_iff info
  | trickleCandidate info => exact SignalCall.trickleCandidate_fits_iff info
  | endOfCandidates info =>
    have length : (encodeEndOfCandidates info).length = 3 := rfl
    refine iff_of_true ⟨?_, decodeEndOfCandidates_encodeEndOfCandidates info⟩ trivial
    exact Nat.le_trans (Nat.le_of_eq length) (by decide)
  | webRTCOffer sdp => exact SignalCall.webRTCSDP_fits_iff sdpTypeOffer sdp
  | webRTCAnswer sdp => exact SignalCall.webRTCSDP_fits_iff sdpTypeAnswer sdp
  | webRTCICECandidate info => exact SignalCall.webRTCICECandidate_fits_iff info

def sampleCandidates : List CandidateInfo :=
  [⟨0, [192, 168, 1, 10], 40000, 2130706431, [], none, 0⟩,
    ⟨1, [203, 0, 113, 7], 40001, 1694498815, [], some [192, 168, 1, 10], 40000⟩]

theorem sampleCandidates_round_trip :
    (SignalCall.candidate sampleCandidates).RoundTrips [10, 7, 0, 2] [10, 7, 0, 3] ∧
      (SignalCall.iceRestart ⟨1, 2, lit "ufrag", lit "password"⟩).RoundTrips
        [10, 7, 0, 2] [10, 7, 0, 3] ∧
      (SignalCall.webRTCOffer (lit "v=0")).RoundTrips [10, 7, 0, 2] [10, 7, 0, 3] := by
  refine ⟨(signal_round_trip_iff rfl rfl _).mpr ?_, (signal_round_trip_iff rfl rfl _).mpr ?_,
    (signal_round_trip_iff rfl rfl _).mpr ?_⟩
  · exact ⟨by decide, by decide, by decide, by decide⟩
  · exact ⟨by decide, by decide⟩
  · exact (by decide : 3 + (lit "v=0").length ≤ maxSignalPayload)

def ipv6Candidate : CandidateInfo :=
  ⟨0, [0x20, 1, 0xd, 0xb8, 0, 0, 0, 0, 0, 0, 0, 0, 0, 0, 0, 1], 40000, 1, [], none, 0⟩

/-- No candidates are decoded as an error, an IPv6 candidate as zeros, and a description of 4094
bytes not at all. -/
theorem constructed_messages_lost :
    ¬(SignalCall.candidate []).RoundTrips [10, 7, 0, 2] [10, 7, 0, 3] ∧
      decodeCandidates (encodeCandidates [ipv6Candidate]) =
        .ok [⟨0, [0, 0, 0, 0], 40000, 1, [], none, 0⟩] ∧
      ¬(SignalCall.candidate [ipv6Candidate]).RoundTrips [10, 7, 0, 2] [10, 7, 0, 3] ∧
      ¬(SignalCall.webRTCOffer (List.replicate 4094 0x61)).RoundTrips
        [10, 7, 0, 2] [10, 7, 0, 3] := by
  refine ⟨?_, by decide, ?_, ?_⟩ <;> rw [SignalCall.roundTrips_iff rfl rfl] <;> intro both
  · have fits := (SignalCall.candidate_fits_iff []).mp both
    exact absurd rfl fits.1
  · have fits := (SignalCall.candidate_fits_iff [ipv6Candidate]).mp both
    exact absurd (fits.2.2.2 _ List.mem_cons_self) (by decide)
  · have fits := (SignalCall.webRTCSDP_fits_iff sdpTypeOffer _).mp both
    rw [List.length_replicate] at fits
    exact absurd fits (by decide)

end Shuttle.Mesh
